import Mathlib.Data.List.Infix
import Mathlib.Data.List.Range
import Mathlib.Tactic.Common

/-!
# A bounded queue with one worker

Producers send work without waiting, so that a full queue drops it. A barrier
waits for room and is reported back when the worker comes to it. The worker
takes one item after the other and applies it to a store; a piece of work may
fail, which leaves the store as it is.

The state keeps the history that its rules speak of: what was let in, what the
worker has ended, and what of it was applied.
-/

namespace BoundedQueue

variable {ε σ : Type}

inductive Item (ε : Type) where
  | work (e : ε)
  | barrier (id : ℕ)
  deriving DecidableEq, Repr

namespace Item

def work? : Item ε → Option ε
  | work e => some e
  | barrier _ => none

def barrier? : Item ε → Option ℕ
  | work _ => none
  | barrier id => some id

end Item

structure State (ε σ : Type) where
  queue : List (Item ε)
  current : Option (Item ε)
  store : σ
  accepted : List (Item ε)
  ended : List (Item ε)
  applied : List ε
  dropped : List ε

inductive Action (ε : Type) where
  | send (e : ε)
  | post
  | take
  | finish
  | abandon
  deriving DecidableEq, Repr

def Action.sent? : Action ε → Option ε
  | send e => some e
  | _ => none

def Action.isPost : Action ε → Bool
  | post => true
  | _ => false

namespace State

def new (st : σ) : State ε σ :=
  { queue := [], current := none, store := st, accepted := [], ended := [], applied := [],
    dropped := [] }

/-- What the worker has still to do. -/
def pending (s : State ε σ) : List (Item ε) := s.current.toList ++ s.queue

def barriers (s : State ε σ) : List ℕ := s.accepted.filterMap Item.barrier?

def Idle (s : State ε σ) : Prop := s.queue = [] ∧ s.current = none

def put (s : State ε σ) (item : Item ε) : State ε σ :=
  { s with queue := s.queue ++ [item], accepted := s.accepted ++ [item] }

variable (depth : ℕ) (apply : ε → σ → σ)

def send (s : State ε σ) (e : ε) : State ε σ :=
  if s.queue.length < depth then s.put (.work e) else { s with dropped := s.dropped ++ [e] }

/-- Every barrier has its own number. -/
def post (s : State ε σ) : Option (State ε σ) :=
  if s.queue.length < depth then some (s.put (.barrier s.barriers.length)) else none

def take (s : State ε σ) : Option (State ε σ) :=
  match s.current, s.queue with
  | none, item :: queue => some { s with queue := queue, current := some item }
  | _, _ => none

def finish (s : State ε σ) : Option (State ε σ) :=
  match s.current with
  | none => none
  | some (.barrier id) => some { s with current := none, ended := s.ended ++ [.barrier id] }
  | some (.work e) => some
    { s with
      current := none
      store := apply e s.store
      ended := s.ended ++ [.work e]
      applied := s.applied ++ [e] }

def abandon (s : State ε σ) : Option (State ε σ) :=
  match s.current with
  | some (.work e) => some { s with current := none, ended := s.ended ++ [.work e] }
  | _ => none

/-- One action, if it is possible. -/
def step (s : State ε σ) : Action ε → Option (State ε σ)
  | .send e => some (s.send depth e)
  | .post => s.post depth
  | .take => s.take
  | .finish => s.finish apply
  | .abandon => s.abandon

def run (s : State ε σ) : List (Action ε) → Option (State ε σ)
  | [] => some s
  | a :: as => (s.step depth apply a).bind fun s' => run s' as

/-- The store once the pending work has been applied. -/
def drained (s : State ε σ) : σ :=
  (s.pending.filterMap Item.work?).foldl (fun st e => apply e st) s.store

end State

section Steps

variable (depth : ℕ) (apply : ε → σ → σ)

/-- The effects an action can have. -/
inductive Effect (s : State ε σ) : Action ε → State ε σ → Prop
  | accept {e} (hroom : s.queue.length < depth) : Effect s (.send e) (s.put (.work e))
  | drop {e} (hfull : depth ≤ s.queue.length) :
      Effect s (.send e) { s with dropped := s.dropped ++ [e] }
  | post (hroom : s.queue.length < depth) :
      Effect s .post (s.put (.barrier s.barriers.length))
  | take {item queue} (hidle : s.current = none) (hqueue : s.queue = item :: queue) :
      Effect s .take { s with queue := queue, current := some item }
  | release {id} (hbusy : s.current = some (.barrier id)) :
      Effect s .finish { s with current := none, ended := s.ended ++ [.barrier id] }
  | finish {e} (hbusy : s.current = some (.work e)) :
      Effect s .finish
        { s with
          current := none
          store := apply e s.store
          ended := s.ended ++ [.work e]
          applied := s.applied ++ [e] }
  | abandon {e} (hbusy : s.current = some (.work e)) :
      Effect s .abandon { s with current := none, ended := s.ended ++ [.work e] }

variable {depth apply} {s s' : State ε σ}

theorem effect_of_step {a : Action ε} (h : s.step depth apply a = some s') :
    Effect depth apply s a s' := by
  cases a with
  | send e =>
    cases h
    by_cases hroom : s.queue.length < depth
    · simpa only [State.send, if_pos hroom] using .accept hroom
    · simpa only [State.send, if_neg hroom] using .drop (not_lt.mp hroom)
  | post =>
    simp only [State.step, State.post] at h
    split_ifs at h with hroom
    cases h
    exact .post hroom
  | take =>
    simp only [State.step, State.take] at h
    split at h
    · next hidle hqueue =>
      cases h
      exact .take hidle hqueue
    · cases h
  | finish =>
    simp only [State.step, State.finish] at h
    split at h
    · cases h
    · next hbusy =>
      cases h
      exact .release hbusy
    · next hbusy =>
      cases h
      exact .finish hbusy
  | abandon =>
    simp only [State.step, State.abandon] at h
    split at h
    · next hbusy =>
      cases h
      exact .abandon hbusy
    · cases h

/-- The induction over runs: what holds at first and is kept by every step holds after. -/
theorem run_induction {P : State ε σ → Prop} {as : List (Action ε)} (hs : P s)
    (hstep : ∀ {t t' a}, a ∈ as → P t → Effect depth apply t a t' → P t')
    (h : s.run depth apply as = some s') : P s' := by
  induction as generalizing s with
  | nil =>
    cases h
    exact hs
  | cons a as ih =>
    obtain ⟨t, ht, hrest⟩ := Option.bind_eq_some_iff.mp h
    refine ih (hstep (by simp) hs (effect_of_step ht)) ?_ hrest
    intro t t' a ha
    exact hstep (List.mem_cons_of_mem _ ha)

theorem run_append (s : State ε σ) (as as' : List (Action ε)) :
    s.run depth apply (as ++ as') =
      (s.run depth apply as).bind fun t => t.run depth apply as' := by
  induction as generalizing s with
  | nil => rfl
  | cons a as ih =>
    cases h : s.step depth apply a with
    | none => simp [State.run, h]
    | some t => simp [State.run, h, ih]

end Steps

section Order

/-- The worker ends items in the order they were let in, and the store is what the applied
work has made of it. -/
structure Ordered (depth : ℕ) (apply : ε → σ → σ) (init : σ) (s : State ε σ) : Prop where
  fifo : s.accepted = s.ended ++ s.pending
  bounded : s.queue.length ≤ depth
  stored : s.store = s.applied.foldl (fun st e => apply e st) init
  applied : s.applied.Sublist (s.ended.filterMap Item.work?)
  numbered : s.barriers = List.range s.barriers.length

variable {depth : ℕ} {apply : ε → σ → σ} {init : σ} {s s' : State ε σ}

theorem ordered_new (depth : ℕ) (apply : ε → σ → σ) (init : σ) :
    Ordered depth apply init (.new init) where
  fifo := rfl
  bounded := Nat.zero_le depth
  stored := rfl
  applied := .slnil
  numbered := rfl

theorem Ordered.put (h : Ordered depth apply init s) (hroom : s.queue.length < depth)
    {item : Item ε} (hitem : ∀ id, item = .barrier id → id = s.barriers.length) :
    Ordered depth apply init (s.put item) where
  fifo := by
    have hfifo := h.fifo
    simp only [State.pending] at hfifo
    simp [State.put, State.pending, hfifo]
  bounded := by
    simp only [State.put, List.length_append, List.length_singleton]
    omega
  stored := h.stored
  applied := h.applied
  numbered := by
    have hnumbered := h.numbered
    cases item with
    | work e =>
      simpa [State.barriers, State.put, Item.barrier?, List.filterMap_cons] using hnumbered
    | barrier id =>
      have hid := hitem id rfl
      simp only [State.barriers] at hnumbered hid
      simp [State.barriers, State.put, Item.barrier?, List.range_succ, ← hnumbered, hid]

theorem Ordered.effect {a : Action ε} (h : Ordered depth apply init s)
    (hstep : Effect depth apply s a s') : Ordered depth apply init s' := by
  obtain ⟨hfifo, hbounded, hstored, happlied, hnumbered⟩ := h
  cases hstep with
  | accept hroom =>
    exact Ordered.put ⟨hfifo, hbounded, hstored, happlied, hnumbered⟩ hroom
      (fun id hid => by cases hid)
  | drop hfull => exact ⟨hfifo, hbounded, hstored, happlied, hnumbered⟩
  | post hroom =>
    exact Ordered.put ⟨hfifo, hbounded, hstored, happlied, hnumbered⟩ hroom
      (fun id hid => by cases hid; rfl)
  | take hidle hqueue =>
    refine ⟨?_, ?_, hstored, happlied, hnumbered⟩
    · simpa [State.pending, hidle, hqueue] using hfifo
    · simp only [hqueue, List.length_cons] at hbounded
      exact Nat.le_of_succ_le hbounded
  | release hbusy =>
    refine ⟨?_, hbounded, hstored, ?_, hnumbered⟩
    · simpa [State.pending, hbusy] using hfifo
    · simpa [Item.work?, List.filterMap_cons] using happlied
  | finish hbusy =>
    refine ⟨?_, hbounded, ?_, ?_, hnumbered⟩
    · simpa [State.pending, hbusy] using hfifo
    · simp [hstored]
    · simpa [Item.work?] using happlied
  | abandon hbusy =>
    refine ⟨?_, hbounded, hstored, ?_, hnumbered⟩
    · simpa [State.pending, hbusy] using hfifo
    · simpa [Item.work?] using happlied.trans (List.sublist_append_left _ _)

theorem Ordered.run {as : List (Action ε)} (h : Ordered depth apply init s)
    (hrun : s.run depth apply as = some s') : Ordered depth apply init s' :=
  run_induction h (fun _ ht hstep => ht.effect hstep) hrun

theorem Ordered.ended_prefix (h : Ordered depth apply init s) : s.ended <+: s.accepted := by
  rw [h.fifo]
  exact List.prefix_append _ _

theorem accepted_prefix_run {as : List (Action ε)} (hrun : s.run depth apply as = some s') :
    s.accepted <+: s'.accepted := by
  refine run_induction (P := fun t => s.accepted <+: t.accepted) (List.prefix_refl _) ?_ hrun
  intro t t' a _ ht hstep
  cases hstep with
  | accept _ => exact ht.trans (List.prefix_append _ _)
  | post _ => exact ht.trans (List.prefix_append _ _)
  | drop _ => exact ht
  | take _ _ => exact ht
  | release _ => exact ht
  | finish _ => exact ht
  | abandon _ => exact ht

theorem length_barriers_run {as : List (Action ε)} (hrun : s.run depth apply as = some s') :
    s'.barriers.length = s.barriers.length + as.countP Action.isPost := by
  induction as generalizing s with
  | nil =>
    cases hrun
    rfl
  | cons a as ih =>
    obtain ⟨t, ht, hrest⟩ := Option.bind_eq_some_iff.mp hrun
    rw [ih hrest]
    cases effect_of_step ht with
    | post _ =>
      simp only [State.barriers, State.put, List.filterMap_append, List.filterMap_cons,
        List.filterMap_nil, Item.barrier?, List.length_append, List.length_singleton,
        List.countP_cons, Action.isPost, if_true]
      omega
    | accept _ => simp [State.barriers, State.put, Item.barrier?, Action.isPost]
    | drop _ => simp [State.barriers, Action.isPost]
    | take _ _ => simp [State.barriers, Action.isPost]
    | release _ => simp [State.barriers, Action.isPost]
    | finish _ => simp [State.barriers, Action.isPost]
    | abandon _ => simp [State.barriers, Action.isPost]

/-- When a barrier comes back, everything that was let in before it has ended. -/
theorem Ordered.barrier {t : State ε σ} {as : List (Action ε)}
    (h : Ordered depth apply init s) (hpost : s.post depth = some t)
    (hrun : t.run depth apply as = some s')
    (hback : .barrier s.barriers.length ∈ s'.ended) :
    s.accepted ++ [.barrier s.barriers.length] <+: s'.ended := by
  simp only [State.post] at hpost
  split_ifs at hpost with hroom
  cases hpost
  have hs' := (h.effect (.post hroom)).run hrun
  have hlater : s.accepted ++ [.barrier s.barriers.length] <+: s'.accepted :=
    accepted_prefix_run hrun
  rcases List.prefix_or_prefix_of_prefix hlater hs'.ended_prefix with hdone | hshort
  · exact hdone
  · rcases List.prefix_concat_iff.mp hshort with heq | hbefore
    · rw [heq]
    · have hmem : s.barriers.length ∈ s.barriers := by
        refine List.mem_filterMap.mpr ⟨_, hbefore.subset hback, rfl⟩
      rw [h.numbered] at hmem
      simp at hmem

end Order

section Losses

variable {depth : ℕ} {apply : ε → σ → σ} {s s' : State ε σ}

theorem accepted_run {as : List (Action ε)} (hrun : s.run depth apply as = some s') :
    ∃ new lost, s'.accepted = s.accepted ++ new ∧ s'.dropped = s.dropped ++ lost ∧
      lost.Sublist (as.filterMap Action.sent?) ∧
      (lost = [] → new.filterMap Item.work? = as.filterMap Action.sent?) := by
  induction as generalizing s with
  | nil =>
    cases hrun
    exact ⟨[], [], by simp, by simp, .slnil, fun _ => rfl⟩
  | cons a as ih =>
    obtain ⟨t, ht, hrest⟩ := Option.bind_eq_some_iff.mp hrun
    obtain ⟨new, lost, hnew, hlost, hsub, hall⟩ := ih hrest
    cases effect_of_step ht with
    | @accept e hroom =>
      refine ⟨.work e :: new, lost, by simpa [State.put] using hnew, hlost, ?_, ?_⟩
      · simpa [Action.sent?] using hsub.cons e
      · simpa [Item.work?, Action.sent?] using hall
    | @drop e hfull =>
      refine ⟨new, e :: lost, hnew, by simpa using hlost, ?_, by simp⟩
      simpa [Action.sent?] using hsub
    | post hroom =>
      refine ⟨_ :: new, lost, by simpa [State.put] using hnew, hlost, hsub, ?_⟩
      simpa [Item.work?, Action.sent?, List.filterMap_cons] using hall
    | take _ _ => exact ⟨new, lost, hnew, hlost, hsub, hall⟩
    | release _ => exact ⟨new, lost, hnew, hlost, hsub, hall⟩
    | finish _ => exact ⟨new, lost, hnew, hlost, hsub, hall⟩
    | abandon _ => exact ⟨new, lost, hnew, hlost, hsub, hall⟩

theorem applied_run {as : List (Action ε)} (habandon : Action.abandon ∉ as)
    (hs : s.applied = s.ended.filterMap Item.work?) (hrun : s.run depth apply as = some s') :
    s'.applied = s'.ended.filterMap Item.work? := by
  refine run_induction (P := fun t => t.applied = t.ended.filterMap Item.work?) hs ?_ hrun
  intro t t' a ha ht hstep
  cases hstep with
  | accept _ => exact ht
  | drop _ => exact ht
  | post _ => exact ht
  | take _ _ => exact ht
  | release _ => simpa [Item.work?, List.filterMap_cons] using ht
  | finish _ => simp [Item.work?, ht]
  | abandon _ => exact absurd ha habandon

end Losses

section Draining

variable {depth : ℕ} {apply : ε → σ → σ} {s s' : State ε σ}

/-- Unless work fails, what the queue amounts to changes only by what is let in. -/
theorem drained_run {as : List (Action ε)} (habandon : Action.abandon ∉ as)
    (hrun : s.run depth apply as = some s') :
    ∃ new, s'.accepted = s.accepted ++ new ∧
      s'.drained apply =
        (new.filterMap Item.work?).foldl (fun st e => apply e st) (s.drained apply) := by
  refine run_induction (P := fun t => ∃ new, t.accepted = s.accepted ++ new ∧
    t.drained apply =
      (new.filterMap Item.work?).foldl (fun st e => apply e st) (s.drained apply))
    ⟨[], by simp⟩ ?_ hrun
  rintro t t' a ha ⟨new, haccepted, hdrained⟩ hstep
  have hput : ∀ item, (t.put item).accepted = s.accepted ++ (new ++ [item]) ∧
      (t.put item).drained apply =
        ((new ++ [item]).filterMap Item.work?).foldl (fun st e => apply e st)
          (s.drained apply) := by
    intro item
    constructor
    · simp [State.put, haccepted]
    · rw [List.filterMap_append, List.foldl_append, ← hdrained]
      simp [State.put, State.drained, State.pending]
  cases hstep with
  | accept _ => exact ⟨_, hput _⟩
  | post _ => exact ⟨_, hput _⟩
  | drop _ => exact ⟨new, haccepted, hdrained⟩
  | take hidle hqueue =>
    refine ⟨new, haccepted, ?_⟩
    rw [← hdrained]
    simp [State.drained, State.pending, hidle, hqueue]
  | release hbusy =>
    refine ⟨new, haccepted, ?_⟩
    rw [← hdrained]
    simp [State.drained, State.pending, hbusy, Item.work?, List.filterMap_cons]
  | finish hbusy =>
    refine ⟨new, haccepted, ?_⟩
    rw [← hdrained]
    simp [State.drained, State.pending, hbusy, Item.work?]
  | abandon hbusy => exact absurd ha habandon

theorem State.Idle.drained (h : s.Idle) : s.drained apply = s.store := by
  simp [State.drained, State.pending, h.1, h.2]

theorem exists_finish (depth : ℕ) (apply : ε → σ → σ) {item : Item ε}
    (h : s.current = some item) :
    ∃ s', s.step depth apply .finish = some s' ∧ s'.pending = s.queue ∧
      s'.accepted = s.accepted ∧ s'.dropped = s.dropped ∧ s'.ended = s.ended ++ [item] := by
  cases item with
  | work e =>
    simp only [State.step, State.finish, h]
    exact ⟨_, rfl, rfl, rfl, rfl, rfl⟩
  | barrier id =>
    simp only [State.step, State.finish, h]
    exact ⟨_, rfl, rfl, rfl, rfl, rfl⟩

theorem exists_drain (depth : ℕ) (apply : ε → σ → σ) (s : State ε σ) :
    ∃ as s', (∀ a ∈ as, a = .take ∨ a = .finish) ∧ s.run depth apply as = some s' ∧
      s'.Idle ∧ s'.accepted = s.accepted ∧ s'.dropped = s.dropped ∧
      s'.ended = s.ended ++ s.pending := by
  generalize hpending : s.pending = items
  induction items generalizing s with
  | nil =>
    simp only [State.pending, List.append_eq_nil_iff, Option.toList_eq_nil_iff] at hpending
    exact ⟨[], s, by simp, rfl, hpending.symm, rfl, rfl, by simp⟩
  | cons item items ih =>
    cases hcurrent : s.current with
    | some busy =>
      obtain ⟨t, ht, hrest, haccepted, hdropped, hended⟩ := exists_finish depth apply hcurrent
      simp only [State.pending, hcurrent, Option.toList_some, List.singleton_append,
        List.cons.injEq] at hpending
      obtain ⟨rfl, hqueue⟩ := hpending
      obtain ⟨as, s', has, hrun, hidle, haccepted', hdropped', hended'⟩ := ih t (hrest.trans hqueue)
      refine ⟨.finish :: as, s', by simpa using has, ?_, hidle, haccepted'.trans haccepted,
        hdropped'.trans hdropped, ?_⟩
      · rw [State.run, ht]
        exact hrun
      · simp [hended', hended]
    | none =>
      simp only [State.pending, hcurrent, Option.toList_none, List.nil_append] at hpending
      obtain ⟨t, ht, hrest, haccepted, hdropped, hended⟩ :=
        exists_finish (s := { s with queue := items, current := some item }) depth apply rfl
      obtain ⟨as, s', has, hrun, hidle, haccepted', hdropped', hended'⟩ := ih t hrest
      refine ⟨.take :: .finish :: as, s', by simpa using has, ?_, hidle,
        haccepted'.trans haccepted, hdropped'.trans hdropped, ?_⟩
      · simp only [State.run, State.step, State.take, hcurrent, hpending, Option.bind_some]
        simp only [State.step] at ht
        rw [ht]
        exact hrun
      · simp [hended', hended]

end Draining

end BoundedQueue
