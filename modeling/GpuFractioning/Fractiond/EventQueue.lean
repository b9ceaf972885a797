import GpuFractioning.Fractiond.MappingRuns
import GpuFractioning.Lib.BoundedQueue

/-!
# The events processor when events are lost

The queue of `fractiond/internal/events/events.go` with all that may happen to
it: a callback whose event finds the queue full, an adapter that panics, which
`safeApply` recovers from, and `Flush`, whose barrier stands in the queue. The
callbacks and the worker interleave in any way.
-/

namespace GpuFractioning.Fractiond

open FileSystem Mapping BoundedQueue

abbrev EventQueue := BoundedQueue.State Event MapDir

/-- What happens to the processor. `recovered` is the end of an event whose adapter
panicked, before the writer was called. -/
inductive PluginAction where
  | callback (cb : Callback)
  | flush
  | take
  | finish
  | recovered

namespace PluginAction

variable [ParseQuantity]

/-- The part of an action that concerns the queue: a blocked creation queues nothing. -/
def onQueue (cfg : Config) : PluginAction → Option (Action Event)
  | .callback cb => (cb.event cfg).map .send
  | .flush => some .post
  | .take => some .take
  | .finish => some .finish
  | .recovered => some .abandon

omit [ParseQuantity] in
def callback? : PluginAction → Option Callback
  | .callback cb => some cb
  | _ => none

omit [ParseQuantity] in
def isFlush : PluginAction → Bool
  | .flush => true
  | _ => false

end PluginAction

/-- The callbacks among the actions. -/
def callbacks (as : List PluginAction) : List Callback := as.filterMap PluginAction.callback?

theorem callbacks_append (as as' : List PluginAction) :
    callbacks (as ++ as') = callbacks as ++ callbacks as' :=
  List.filterMap_append

namespace EventQueue

variable [ParseQuantity]

def run (cfg : Config) (q : EventQueue) (as : List PluginAction) : Option EventQueue :=
  State.run defaultQueueDepth Event.apply q (as.filterMap (PluginAction.onQueue cfg))

/-- The `n`-th call of `Flush`, counted from 0, has returned. -/
def FlushReturned (q : EventQueue) (n : ℕ) : Prop := Item.barrier n ∈ q.ended

end EventQueue

section Sends

variable [ParseQuantity] {cfg : Config}

theorem sent_onQueue (as : List PluginAction) :
    (as.filterMap (PluginAction.onQueue cfg)).filterMap Action.sent? =
      (callbacks as).filterMap (Callback.event cfg) := by
  rw [callbacks, List.filterMap_filterMap, List.filterMap_filterMap]
  congr 1
  funext a
  cases a with
  | callback cb => cases hev : cb.event cfg <;> simp [PluginAction.onQueue, hev, Action.sent?,
      PluginAction.callback?]
  | flush => rfl
  | take => rfl
  | finish => rfl
  | recovered => rfl

theorem abandon_not_mem {as : List PluginAction} (h : .recovered ∉ as) :
    Action.abandon ∉ as.filterMap (PluginAction.onQueue cfg) := by
  intro hmem
  obtain ⟨a, ha, haq⟩ := List.mem_filterMap.mp hmem
  cases a with
  | callback cb =>
    obtain ⟨ev, -, hev⟩ := Option.map_eq_some_iff.mp haq
    cases hev
  | recovered => exact h ha
  | flush => cases haq
  | take => cases haq
  | finish => cases haq

theorem run_append_eq_some {q r : EventQueue} {as as' : List PluginAction} :
    q.run cfg (as ++ as') = some r ↔ ∃ p, q.run cfg as = some p ∧ p.run cfg as' = some r := by
  simp only [EventQueue.run, List.filterMap_append, run_append, Option.bind_eq_some_iff]

theorem isPost_onQueue (as : List PluginAction) :
    (as.filterMap (PluginAction.onQueue cfg)).countP Action.isPost =
      as.countP PluginAction.isFlush := by
  rw [List.countP_filterMap]
  congr 1
  funext a
  cases a with
  | callback cb => cases hev : cb.event cfg <;> simp [PluginAction.onQueue, hev, Action.isPost,
      PluginAction.isFlush]
  | flush => rfl
  | take => rfl
  | finish => rfl
  | recovered => rfl

theorem exists_callbacks {evs : List Event} {cbs : List Callback}
    (h : evs <+: cbs.filterMap (Callback.event cfg)) :
    ∃ done, done <+: cbs ∧ done.filterMap (Callback.event cfg) = evs := by
  induction cbs generalizing evs with
  | nil => exact ⟨[], List.prefix_refl _, (List.prefix_nil.mp h).symm⟩
  | cons cb cbs ih =>
    cases hev : cb.event cfg with
    | none =>
      rw [List.filterMap_cons_none hev] at h
      obtain ⟨done, hdone, hevs⟩ := ih h
      exact ⟨cb :: done, List.cons_prefix_cons.mpr ⟨rfl, hdone⟩,
        by rw [List.filterMap_cons_none hev, hevs]⟩
    | some ev =>
      rw [List.filterMap_cons_some hev] at h
      rcases List.prefix_cons_iff.mp h with rfl | ⟨evs, rfl, hevs⟩
      · exact ⟨[], List.nil_prefix, rfl⟩
      · obtain ⟨done, hdone, rfl⟩ := ih hevs
        exact ⟨cb :: done, List.cons_prefix_cons.mpr ⟨rfl, hdone⟩,
          by rw [List.filterMap_cons_some hev]⟩

theorem accepted_events {q r : EventQueue} {as : List PluginAction}
    (hrun : q.run cfg as = some r) (hkept : r.dropped = q.dropped) :
    ∃ new, r.accepted = q.accepted ++ new ∧
      new.filterMap Item.work? = (callbacks as).filterMap (Callback.event cfg) := by
  obtain ⟨new, lost, hnew, hlost, -, hall⟩ := accepted_run hrun
  rw [hkept, List.self_eq_append_right] at hlost
  exact ⟨new, hnew, by rw [hall hlost, sent_onQueue]⟩

theorem dropped_prefix {q r : EventQueue} {as : List PluginAction}
    (hrun : q.run cfg as = some r) : q.dropped <+: r.dropped := by
  obtain ⟨-, lost, -, hlost, -, -⟩ := accepted_run hrun
  exact ⟨lost, hlost.symm⟩

end Sends

section Lossless

variable [ParseQuantity] {cfg : Config} {d : MapDir}

/-- The processor as it is while nothing is lost and nobody flushes. -/
structure Matches (p : Processor) (q : EventQueue) : Prop where
  queue : q.queue = p.queue.map .work
  current : q.current = p.current.map .work
  store : q.store = p.dir
  dropped : q.dropped = []

theorem run_snoc {q r : EventQueue} {as : List PluginAction} {a : PluginAction}
    {action : Action Event} (h : q.run cfg as = some r) (ha : a.onQueue cfg = some action) :
    q.run cfg (as ++ [a]) = r.step defaultQueueDepth Event.apply action := by
  rw [EventQueue.run] at h ⊢
  rw [List.filterMap_append, run_append, h, List.filterMap_cons_some ha]
  exact Option.bind_fun_some _

theorem Processor.Reaches.exists_run {cbs : List Callback} {p : Processor}
    (h : Processor.Reaches cfg d cbs p) :
    ∃ as q, EventQueue.run cfg (.new d) as = some q ∧ callbacks as = cbs ∧ .recovered ∉ as ∧
      Matches p q := by
  induction h with
  | new => exact ⟨[], .new d, rfl, rfl, by simp, ⟨rfl, rfl, rfl, rfl⟩⟩
  | @queued cbs p cb ev _ hev hroom ih =>
    obtain ⟨as, q, hrun, rfl, hcalm, hq⟩ := ih
    have honQueue : (PluginAction.callback cb).onQueue cfg = some (.send ev) := by
      rw [PluginAction.onQueue, hev, Option.map_some]
    refine ⟨as ++ [.callback cb], q.put (.work ev), ?_, callbacks_append _ _, by simpa using hcalm,
      ?_⟩
    · rw [run_snoc hrun honQueue, State.step, State.send, hq.queue, List.length_map,
        if_pos hroom]
    · rw [Processor.enqueue, if_pos hroom]
      exact ⟨by simp [State.put, hq.queue], hq.current, hq.store, hq.dropped⟩
  | @silent cbs p cb _ hev ih =>
    obtain ⟨as, q, hrun, rfl, hcalm, hq⟩ := ih
    refine ⟨as ++ [.callback cb], q, ?_, callbacks_append _ _, by simpa using hcalm, hq⟩
    refine run_append_eq_some.mpr ⟨q, hrun, ?_⟩
    rw [EventQueue.run, List.filterMap_cons_none (by rw [PluginAction.onQueue, hev]; rfl)]
    rfl
  | @take cbs p ev queue _ hidle hqueue ih =>
    obtain ⟨as, q, hrun, rfl, hcalm, hq⟩ := ih
    refine ⟨as ++ [.take], { q with queue := queue.map .work, current := some (.work ev) }, ?_,
      ?_, by simpa using hcalm, ⟨rfl, rfl, hq.store, hq.dropped⟩⟩
    · have hcurrent := hq.current
      have hitems := hq.queue
      rw [hidle] at hcurrent
      rw [hqueue, List.map_cons] at hitems
      rw [run_snoc hrun rfl, State.step, State.take, hcurrent, hitems]
      rfl
    · rw [callbacks_append]
      exact List.append_nil _
  | @finish cbs p ev _ hbusy ih =>
    obtain ⟨as, q, hrun, rfl, hcalm, hq⟩ := ih
    have hcurrent := hq.current
    rw [hbusy] at hcurrent
    have hended : EventQueue.run cfg (.new d) (as ++ [.finish]) = some
        { q with
          current := none
          store := ev.apply q.store
          ended := q.ended ++ [.work ev]
          applied := q.applied ++ [ev] } := by
      rw [run_snoc hrun rfl, State.step, State.finish, hcurrent]
      rfl
    refine ⟨_, _, hended, ?_, by simpa using hcalm,
      ⟨hq.queue, rfl, congrArg ev.apply hq.store, hq.dropped⟩⟩
    rw [callbacks_append]
    exact List.append_nil _

end Lossless

section Flush

variable [ParseQuantity] {cfg : Config} {d : MapDir}

def PluginAction.IsWorker : PluginAction → Prop
  | .take | .finish => True
  | _ => False

theorem exists_drained (cfg : Config) (q : EventQueue) :
    ∃ as q', (∀ a ∈ as, a.IsWorker) ∧ q.run cfg as = some q' ∧ q'.Idle ∧
      q'.ended = q.ended ++ q.pending := by
  obtain ⟨as, q', has, hrun, hidle, -, -, hended⟩ := exists_drain defaultQueueDepth Event.apply q
  let ofWorker : Action Event → PluginAction
    | .take => .take
    | _ => .finish
  have honQueue : (as.map ofWorker).filterMap (PluginAction.onQueue cfg) = as := by
    rw [List.filterMap_map]
    conv_rhs => rw [← List.filterMap_some (l := as)]
    refine List.filterMap_congr ?_
    intro a ha
    rcases has a ha with rfl | rfl <;> rfl
  refine ⟨as.map ofWorker, q', ?_, ?_, hidle, hended⟩
  · intro a ha
    obtain ⟨w, hw, rfl⟩ := List.mem_map.mp ha
    rcases has w hw with rfl | rfl <;> trivial
  · rw [EventQueue.run, honQueue, hrun]

theorem exists_flushReturned {q : EventQueue} {n : ℕ} (hposted : .barrier n ∈ q.accepted)
    (hq : Ordered defaultQueueDepth Event.apply d q) :
    ∃ as q', (∀ a ∈ as, a.IsWorker) ∧ q.run cfg as = some q' ∧ q'.FlushReturned n := by
  obtain ⟨as, q', has, hrun, -, hended⟩ := exists_drained cfg q
  refine ⟨as, q', has, hrun, ?_⟩
  rw [EventQueue.FlushReturned, hended, ← hq.fifo]
  exact hposted

/-- Once `Flush` has returned, the directory is the one that all earlier callbacks and some
of the later ones leave when they are carried out one after the other. -/
theorem dir_of_flushReturned {before later : List PluginAction} {q : EventQueue}
    (hrun : EventQueue.run cfg (.new d) (before ++ .flush :: later) = some q)
    (hreturned : q.FlushReturned (before.countP PluginAction.isFlush))
    (hkept : q.dropped = []) (hcalm : .recovered ∉ before ++ .flush :: later) :
    ∃ done, done <+: callbacks later ∧ q.store = dirAfter cfg (callbacks before ++ done) d := by
  obtain ⟨p, hbefore, hlater⟩ := run_append_eq_some.mp hrun
  obtain ⟨t, hpost, hrest⟩ := Option.bind_eq_some_iff.mp hlater
  have hnew := ordered_new defaultQueueDepth Event.apply d
  have hordered := hnew.run hrun
  have happlied := applied_run (abandon_not_mem hcalm) rfl hrun
  have hdropped : p.dropped = [] :=
    List.prefix_nil.mp (hkept ▸ dropped_prefix hlater)
  have hnumber : p.barriers.length = before.countP PluginAction.isFlush := by
    rw [length_barriers_run hbefore, isPost_onQueue]
    exact Nat.zero_add _
  have hended := (hnew.run hbefore).barrier hpost hrest (by rw [hnumber]; exact hreturned)
  have hwork : p.accepted.filterMap Item.work? <+: q.applied := by
    rw [happlied]
    exact ((List.prefix_append _ _).trans hended).filterMap _
  have hwork' : q.applied <+: q.accepted.filterMap Item.work? := by
    rw [happlied]
    exact hordered.ended_prefix.filterMap _
  obtain ⟨_, haccepted, hevents⟩ := accepted_events hbefore hdropped
  obtain ⟨_, haccepted', hevents'⟩ := accepted_events hrun hkept
  rw [haccepted, State.new, List.nil_append, hevents] at hwork
  rw [haccepted', State.new, List.nil_append, hevents'] at hwork'
  obtain ⟨evs, hevs⟩ := hwork
  rw [← hevs, callbacks_append, List.filterMap_append] at hwork'
  obtain ⟨done, hdone, rfl⟩ := exists_callbacks ((List.prefix_append_right_inj _).mp hwork')
  refine ⟨done, hdone, ?_⟩
  rw [hordered.stored, ← hevs, dirAfter, List.filterMap_append]

/-- `Flush` returns if only the worker goes on. When it has, and no event was lost, the
directory is that of all earlier callbacks and some of the later ones. -/
theorem flush_returns_with_earlier_callbacks {before later : List PluginAction} {q : EventQueue}
    (hrun : EventQueue.run cfg (.new d) (before ++ .flush :: later) = some q) :
    (∃ as q', (∀ a ∈ as, a.IsWorker) ∧ q.run cfg as = some q' ∧
      q'.FlushReturned (before.countP PluginAction.isFlush)) ∧
    (q.FlushReturned (before.countP PluginAction.isFlush) → q.dropped = [] →
      .recovered ∉ before ++ .flush :: later →
      ∃ done, done <+: callbacks later ∧
        q.store = dirAfter cfg (callbacks before ++ done) d) := by
  constructor
  · have hordered := (ordered_new defaultQueueDepth Event.apply d).run hrun
    have hbarriers : before.countP PluginAction.isFlush < q.barriers.length := by
      rw [length_barriers_run hrun, isPost_onQueue, List.countP_append, List.countP_cons_of_pos rfl]
      omega
    have hnumber : before.countP PluginAction.isFlush ∈ q.barriers := by
      rw [hordered.numbered]
      exact List.mem_range.mpr hbarriers
    obtain ⟨item, hitem, hid⟩ := List.mem_filterMap.mp hnumber
    cases item with
    | work e => cases hid
    | barrier id =>
      cases hid
      exact exists_flushReturned hitem hordered
  · exact fun hreturned hkept hcalm => dir_of_flushReturned hrun hreturned hkept hcalm

end Flush

/-- A removal before the flush and one after it. -/
theorem flush_returns_with_earlier_callbacks_removals :
    letI := gibQuantities
    let before : List PluginAction := [.callback (.removeContainer trainerContainer)]
    let later : List PluginAction :=
      [.callback (.removeContainer sidecarContainer), .take, .finish, .take, .finish]
    ∃ q, EventQueue.run defaultConfig (.new leftoverDir) (before ++ .flush :: later) = some q ∧
      ∃ done, done <+: callbacks later ∧
        q.store = dirAfter defaultConfig (callbacks before ++ done) leftoverDir := by
  let inst : ParseQuantity := gibQuantities
  refine ⟨_, rfl, (flush_returns_with_earlier_callbacks rfl).2 ?_ rfl (by simp)⟩
  unfold EventQueue.FlushReturned
  decide

section Resync

variable [ParseQuantity] {cfg : Config} {d : MapDir}

omit [ParseQuantity] in
theorem Event.jsonFiles_apply {d : MapDir} (hd : JsonFiles d) (ev : Event) :
    JsonFiles (ev.apply d) := by
  unfold Event.apply
  split
  · exact hd
  · exact jsonFiles_onDir hd _

omit [ParseQuantity] in
theorem jsonFiles_foldl {d : MapDir} (hd : JsonFiles d) (evs : List Event) :
    JsonFiles (evs.foldl (fun d ev => ev.apply d) d) := by
  induction evs generalizing d with
  | nil => exact hd
  | cons ev evs ih => exact ih (Event.jsonFiles_apply hd ev)

theorem liveAfter_synchronize (before later : List Callback) (pods : List PodSandbox)
    (ctrs : List Container) :
    liveAfter cfg (before ++ .synchronize pods ctrs :: later) =
      liveAfter cfg (.synchronize pods ctrs :: later) := by
  simp only [liveAfter, List.foldl_append, List.foldl_cons, liveStep]

/-- The run lemma from a Synchronize with a record on: a later one without a record does no
harm when no live container has one. -/
theorem tracks_resync {pods : List PodSandbox} {ctrs : List Container} (hd : JsonFiles d)
    {cbs : List Callback} (hbare : ∀ cb ∈ .synchronize pods ctrs :: cbs, cb.Bare)
    (hrecord : cfg.adapter.containers pods ctrs ≠ [])
    (hlater : ∀ earlier cb, earlier ++ [cb] <+: cbs → cb.Recordless cfg →
      recordsOf cfg (liveAfter cfg (.synchronize pods ctrs :: earlier)) = []) :
    Tracks cfg (liveAfter cfg (.synchronize pods ctrs :: cbs))
      (dirAfter cfg (.synchronize pods ctrs :: cbs) d) := by
  induction cbs using List.reverseRecOn with
  | nil =>
    have hsync := tracks_synchronize [] hd (hbare _ List.mem_cons_self) hrecord
    rw [← List.nil_append [Callback.synchronize pods ctrs], liveAfter_append, dirAfter_snoc]
    exact hsync
  | append_singleton cbs cb ih =>
    have hbefore : Tracks cfg (liveAfter cfg (.synchronize pods ctrs :: cbs))
        (dirAfter cfg (.synchronize pods ctrs :: cbs) d) := by
      refine ih ?_ ?_
      · intro cb' hcb'
        rcases List.mem_cons.mp hcb' with rfl | hcb'
        · exact hbare _ List.mem_cons_self
        · exact hbare _ (by simp [hcb'])
      · intro earlier cb' hearlier
        exact hlater earlier cb' (hearlier.trans (List.prefix_append _ _))
    rw [← List.cons_append, liveAfter_append, dirAfter_snoc]
    by_cases hrec : cb.Recordless cfg
    · have hnone := hlater cbs cb (List.prefix_refl _) hrec
      refine (tracks_recordless _ hrec).mpr ?_
      intro containerID
      rw [tracks_iff.mp hbefore, due, hnone]
      rfl
    · exact hbefore.effect (jsonFiles_dirAfter hd _) (hbare cb (by simp)) hrec

/-- A run in which a Synchronize with a record was let in, and nothing was lost since: no
event found the queue full, no adapter panicked, and a Synchronize without a record came
only when no live container had one. -/
structure Resynced (cfg : Config) (d : MapDir) (before : List PluginAction)
    (pods : List PodSandbox) (ctrs : List Container) (later : List PluginAction)
    (q : EventQueue) : Prop where
  files : JsonFiles d
  reached : ∃ p, EventQueue.run cfg (.new d) before = some p ∧
    p.run cfg (.callback (.synchronize pods ctrs) :: later) = some q ∧ q.dropped = p.dropped
  calm : .recovered ∉ later
  bare : ∀ cb ∈ .synchronize pods ctrs :: callbacks later, cb.Bare
  record : cfg.adapter.containers pods ctrs ≠ []
  later_records : ∀ earlier cb, earlier ++ [cb] <+: callbacks later → cb.Recordless cfg →
    recordsOf cfg (liveAfter cfg (.synchronize pods ctrs :: earlier)) = []

variable {before later : List PluginAction} {pods : List PodSandbox} {ctrs : List Container}
  {q : EventQueue}

/-- The live containers after the run. -/
abbrev Resynced.live (_ : Resynced cfg d before pods ctrs later q) : List Sandboxed :=
  liveAfter cfg (callbacks (before ++ .callback (.synchronize pods ctrs) :: later))

theorem Resynced.tracks (h : Resynced cfg d before pods ctrs later q) (hidle : q.Idle) :
    Tracks cfg h.live q.store := by
  obtain ⟨p, hbefore, hlater, hkept⟩ := h.reached
  have hcalm : .recovered ∉ .callback (.synchronize pods ctrs) :: later := by simpa using h.calm
  obtain ⟨new, hnew, hdrained⟩ := drained_run (abandon_not_mem hcalm) hlater
  obtain ⟨new', hnew', hevents⟩ := accepted_events hlater hkept
  have hsame : new' = new := List.append_cancel_left (hnew'.symm.trans hnew)
  have hp := (ordered_new defaultQueueDepth Event.apply d).run hbefore
  have hjson : JsonFiles (p.drained Event.apply) := by
    rw [State.drained, hp.stored, ← List.foldl_append]
    exact jsonFiles_foldl h.files _
  have hstore : q.store = dirAfter cfg (.synchronize pods ctrs :: callbacks later)
      (p.drained Event.apply) := by
    rw [← hidle.drained, hdrained, ← hsame, hevents]
    rfl
  rw [Resynced.live, callbacks_append, hstore]
  rw [show callbacks (.callback (.synchronize pods ctrs) :: later) =
    .synchronize pods ctrs :: callbacks later from rfl, liveAfter_synchronize]
  exact tracks_resync hjson h.bare h.record h.later_records

omit [ParseQuantity] in
theorem callbacks_of_worker {as : List PluginAction} (has : ∀ a ∈ as, a.IsWorker) :
    callbacks as = [] := by
  refine List.filterMap_eq_nil_iff.mpr ?_
  intro a ha
  have hworker := has a ha
  cases a with
  | take => rfl
  | finish => rfl
  | callback cb => cases hworker
  | flush => cases hworker
  | recovered => cases hworker

theorem Resynced.worker (h : Resynced cfg d before pods ctrs later q) {as : List PluginAction}
    {q' : EventQueue} (has : ∀ a ∈ as, a.IsWorker) (hrun : q.run cfg as = some q') :
    Resynced cfg d before pods ctrs (later ++ as) q' := by
  have hnone := callbacks_of_worker has
  have hcallbacks : callbacks (later ++ as) = callbacks later := by
    rw [callbacks_append, hnone, List.append_nil]
  obtain ⟨p, hbefore, hlater, hkept⟩ := h.reached
  have hdropped : q'.dropped = q.dropped := by
    obtain ⟨-, lost, -, hlost, hsent, -⟩ := accepted_run hrun
    rw [sent_onQueue, hnone, List.filterMap_nil, List.sublist_nil] at hsent
    rw [hlost, hsent, List.append_nil]
  refine ⟨h.files, ⟨p, hbefore, ?_, hdropped.trans hkept⟩, ?_, ?_, h.record, ?_⟩
  · rw [← List.cons_append]
    exact run_append_eq_some.mpr ⟨q, hlater, hrun⟩
  · intro hmem
    rcases List.mem_append.mp hmem with hmem | hmem
    · exact h.calm hmem
    · exact has _ hmem
  · rw [hcallbacks]
    exact h.bare
  · rw [hcallbacks]
    exact h.later_records

end Resync

theorem exists_resynced_trainer :
    letI := gibQuantities
    let sync : Callback := .synchronize [trainerPod] [sidecarContainer, trainerContainer]
    ∃ q, EventQueue.run defaultConfig (.new leftoverDir) [.callback sync, .take, .finish] =
        some q ∧
      Resynced defaultConfig leftoverDir [] [trainerPod] [sidecarContainer, trainerContainer]
        [.take, .finish] q ∧ q.Idle := by
  let inst : ParseQuantity := gibQuantities
  have hresynced : Resynced defaultConfig leftoverDir [] [trainerPod]
      [sidecarContainer, trainerContainer] [.take, .finish] _ :=
    { files := jsonFiles_leftoverDir
      reached := ⟨_, rfl, rfl, rfl⟩
      calm := by simp
      bare := by
        intro cb hcb
        rw [List.mem_singleton.mp hcb]
        simp only [Callback.Bare]
        decide
      record := by decide
      later_records := by
        intro earlier cb hearlier
        exact absurd (List.prefix_nil.mp hearlier) (by simp) }
  exact ⟨_, rfl, hresynced, ⟨rfl, rfl⟩⟩

section Restored

variable [ParseQuantity] {cfg : Config} {d : MapDir} {before later : List PluginAction}
  {pods : List PodSandbox} {ctrs : List Container} {q : EventQueue}

/-- Whatever was lost before, a Synchronize with a record puts the directory in step again:
the worker comes to the end of the queue, and whenever it has, as long as nothing is lost. -/
theorem resync_restores_mapping (h : Resynced cfg d before pods ctrs later q) :
    (∃ as q', (∀ a ∈ as, a.IsWorker) ∧ q.run cfg as = some q' ∧ q'.Idle) ∧
    ∀ as q', (∀ a ∈ as, a.IsWorker) → q.run cfg as = some q' → q'.Idle →
      Tracks cfg (liveAfter cfg
        (callbacks (before ++ .callback (.synchronize pods ctrs) :: later))) q'.store := by
  constructor
  · obtain ⟨as, q', has, hrun, hidle, -⟩ := exists_drained cfg q
    exact ⟨as, q', has, hrun, hidle⟩
  · intro as q' has hrun hidle
    have htracks := (h.worker has hrun).tracks hidle
    rw [Resynced.live, ← List.cons_append, ← List.append_assoc, callbacks_append,
      callbacks_of_worker has, List.append_nil] at htracks
    exact htracks

end Restored

theorem resync_restores_mapping_trainer :
    letI := gibQuantities
    let sync : Callback := .synchronize [trainerPod] [sidecarContainer, trainerContainer]
    ∃ q, EventQueue.run defaultConfig (.new leftoverDir) [.callback sync, .take, .finish] =
        some q ∧ Tracks defaultConfig (liveAfter defaultConfig [sync]) q.store := by
  let inst : ParseQuantity := gibQuantities
  obtain ⟨q, hrun, hresynced, hidle⟩ := exists_resynced_trainer
  exact ⟨q, hrun, (resync_restores_mapping hresynced).2 [] q (by simp) rfl hidle⟩

end GpuFractioning.Fractiond
