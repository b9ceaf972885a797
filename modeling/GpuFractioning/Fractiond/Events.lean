import GpuFractioning.Fractiond.Adapter
import GpuFractioning.Fractiond.Plugin
import GpuFractioning.Mapping.Refinement

/-!
# The events processor behind the NRI callbacks

`fractiond/internal/events/events.go` and the mapping half of the handlers of
`fractiond/internal/plugin.go`. A callback queues at most one event and
returns; one worker takes events from the bounded queue and applies them to
the mapping directory in order. The adapters are pure functions of the runtime
objects they capture, so an event carries their result.
-/

namespace GpuFractioning.Fractiond

open FileSystem Mapping

def defaultQueueDepth : ℕ := 10 * 1024

inductive Event where
  | upsert (adapt : Option ContainerInfo)
  | remove (containerID : String)
  | replace (syncAdapt : List ContainerInfo) (fromReconnect : Bool)
  deriving DecidableEq, Repr

/-- `apply`: the call of the writer an event leads to, if any. A resync that found
no container is skipped. -/
def Event.update : Event → Option Update
  | .upsert none => none
  | .upsert (some info) => some (.upsert info)
  | .remove containerID => some (.delete containerID)
  | .replace infos fromReconnect =>
    if fromReconnect && infos.isEmpty then none else some (.replace infos)

def Event.apply (ev : Event) (d : MapDir) : MapDir :=
  match ev.update with
  | none => d
  | some u => (exec u.onDir d).2

/-- The NRI callbacks that concern the mapping. -/
inductive Callback where
  | createContainer (pod : PodSandbox) (ctr : Container)
  | removeContainer (ctr : Container)
  | synchronize (pods : List PodSandbox) (ctrs : List Container)

def Config.adapter (cfg : Config) : Adapter := ⟨cfg.annotationPrefix⟩

/-- The event a callback queues; a blocked creation queues none. -/
def Callback.event [ParseQuantity] (cfg : Config) : Callback → Option Event
  | .createContainer pod ctr =>
    match buildAdjustment cfg pod ctr with
    | .error _ => none
    | .ok _ => some (.upsert (cfg.adapter.container (some pod) (some ctr)))
  | .removeContainer ctr => some (.remove ctr.id)
  | .synchronize pods ctrs => some (.replace (cfg.adapter.containers pods ctrs) true)

/-- The processor: the queue, the event the worker is applying and the directory. -/
structure Processor where
  queue : List Event
  current : Option Event
  dir : MapDir

namespace Processor

def new (d : MapDir) : Processor := { queue := [], current := none, dir := d }

/-- A full queue drops the event. -/
def enqueue (p : Processor) (ev : Event) : Processor :=
  if p.queue.length < defaultQueueDepth then { p with queue := p.queue ++ [ev] } else p

/-- Everything queued so far has been applied, as `Flush` waits for. -/
def Flushed (p : Processor) : Prop := p.queue = [] ∧ p.current = none

/-- The directory once the pending events have been applied. -/
def drained (p : Processor) : MapDir :=
  (p.current.toList ++ p.queue).foldl (fun d ev => ev.apply d) p.dir

/-- The processor after a sequence of callbacks, none of whose events was dropped,
interleaved in any way with the steps of the worker. -/
inductive Reaches [ParseQuantity] (cfg : Config) (d : MapDir) : List Callback → Processor → Prop
  | new : Reaches cfg d [] (.new d)
  | queued {cbs p cb ev} (h : Reaches cfg d cbs p) (hev : Callback.event cfg cb = some ev)
      (hroom : p.queue.length < defaultQueueDepth) :
      Reaches cfg d (cbs ++ [cb]) (p.enqueue ev)
  | silent {cbs p cb} (h : Reaches cfg d cbs p) (hev : Callback.event cfg cb = none) :
      Reaches cfg d (cbs ++ [cb]) p
  | take {cbs p ev queue} (h : Reaches cfg d cbs p) (hidle : p.current = none)
      (hqueue : p.queue = ev :: queue) :
      Reaches cfg d cbs { p with queue := queue, current := some ev }
  | finish {cbs p ev} (h : Reaches cfg d cbs p) (hbusy : p.current = some ev) :
      Reaches cfg d cbs { p with current := none, dir := ev.apply p.dir }

end Processor

section Runs

variable [ParseQuantity] {cfg : Config}

/-- The directory after the events of a sequence of callbacks, applied in order. -/
def dirAfter (cfg : Config) (cbs : List Callback) (d : MapDir) : MapDir :=
  (cbs.filterMap (Callback.event cfg)).foldl (fun d ev => ev.apply d) d

theorem dirAfter_append (cbs : List Callback) (cb : Callback) (d : MapDir) :
    dirAfter cfg (cbs ++ [cb]) d =
      match Callback.event cfg cb with
      | none => dirAfter cfg cbs d
      | some ev => ev.apply (dirAfter cfg cbs d) := by
  cases h : Callback.event cfg cb <;> simp [dirAfter, List.filterMap_append, h]

omit [ParseQuantity] in
theorem Processor.drained_enqueue {p : Processor} (ev : Event)
    (hroom : p.queue.length < defaultQueueDepth) :
    (p.enqueue ev).drained = ev.apply p.drained := by
  simp [Processor.enqueue, hroom, Processor.drained, ← List.append_assoc]

theorem Processor.Reaches.drained_eq {d : MapDir} {cbs : List Callback} {p : Processor}
    (h : Processor.Reaches cfg d cbs p) : p.drained = dirAfter cfg cbs d := by
  induction h with
  | new => rfl
  | queued _ hev hroom ih =>
    rw [dirAfter_append, hev, Processor.drained_enqueue _ hroom, ih]
  | silent _ hev ih => rw [dirAfter_append, hev, ih]
  | take _ hidle hqueue ih =>
    rw [← ih]
    simp [Processor.drained, hidle, hqueue]
  | finish _ hbusy ih =>
    rw [← ih]
    simp [Processor.drained, hbusy]

omit [ParseQuantity] in
theorem Processor.Flushed.drained {p : Processor} (h : p.Flushed) : p.drained = p.dir := by
  simp [Processor.drained, h.1, h.2]

theorem Processor.exists_flushed (cfg : Config) (cbs : List Callback) (d : MapDir) :
    ∃ p, Processor.Reaches cfg d cbs p ∧ p.Flushed := by
  induction cbs using List.reverseRecOn with
  | nil => exact ⟨_, .new, rfl, rfl⟩
  | append_singleton cbs cb ih =>
    obtain ⟨p, hp, hqueue, hidle⟩ := ih
    cases hev : Callback.event cfg cb with
    | none => exact ⟨p, .silent hp hev, hqueue, hidle⟩
    | some ev =>
      have hroom : p.queue.length < defaultQueueDepth := by
        rw [hqueue]
        decide
      have hqueue' : (p.enqueue ev).queue = [ev] := by
        rw [Processor.enqueue, if_pos hroom, hqueue]
        rfl
      have hidle' : (p.enqueue ev).current = none := by
        rw [Processor.enqueue, if_pos hroom]
        exact hidle
      have htaken := (Processor.Reaches.queued hp hev hroom).take hidle' hqueue'
      exact ⟨_, htaken.finish rfl, rfl, rfl⟩

end Runs

end GpuFractioning.Fractiond
