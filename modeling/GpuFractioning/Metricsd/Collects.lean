import GpuFractioning.Metricsd.Engine

/-!
# Runs of collects

The engine is only changed by its collects, one after the other. A run is the
list of what they read.
-/

namespace GpuFractioning.Metricsd

/-- What one collect reads: the container mapping and, if it asks for it, the NVML snapshot. -/
structure Cycle where
  pods : PodSource
  nvml : GPUProcessSnapshot

namespace PodSource

open Mapping

/-- No container is active. -/
def idle : PodSource :=
  { store := ∅
    resolveProcess := fun _ => none
    resolved_mem := by rintro process info ⟨⟩ }

/-- One container is active, and one process is attributed to it. -/
def single (container : ContainerInfo) (pid : ℕ) : PodSource :=
  { store := (∅ : ContainerStore).insert container.containerID container
    resolveProcess := fun process => if process.pid = pid then some container else none
    resolved_mem := by
      intro process info h
      split_ifs at h
      cases h
      exact List.mem_singleton_self container }

theorem activeContainers_single (container : ContainerInfo) (pid : ℕ) :
    (single container pid).activeContainers = [container] := rfl

end PodSource

namespace Engine

def step (e : Engine) (cycle : Cycle) : Engine := e.collect cycle.pods cycle.nvml

/-- The engine after a run of collects, the oldest first. -/
def run (e : Engine) (cycles : List Cycle) : Engine := cycles.foldl step e

@[simp] theorem run_nil (e : Engine) : e.run [] = e := rfl

@[simp] theorem run_snoc (e : Engine) (cycles : List Cycle) (cycle : Cycle) :
    e.run (cycles ++ [cycle]) = (e.run cycles).step cycle := by
  simp [run]

theorem run_invariant {P : Engine → Prop} (hstep : ∀ e cycle, P e → P (e.step cycle)) {e : Engine}
    (he : P e) (cycles : List Cycle) : P (e.run cycles) := by
  induction cycles using List.reverseRecOn with
  | nil => exact he
  | append_singleton cycles cycle ih =>
    rw [run_snoc]
    exact hstep _ _ ih

end Engine

end GpuFractioning.Metricsd
