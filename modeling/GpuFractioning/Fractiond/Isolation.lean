import GpuFractioning.Fractiond.Adapter
import GpuFractioning.Fractiond.Audit

/-!
# The containers of one pod

The annotations of all containers of a pod are in one map, told apart by their
keys alone, and the name of a container may hold dots and even the words the
keys end in. The create hook, the mapping and the audit read a container's own
keys only, and no key of one name is a key of another: the four kinds of keys
differ in their last two characters, and within a kind the name is what
remains.
-/

namespace GpuFractioning.Fractiond

open Annotations

/-- The kinds of annotations of a container. -/
inductive Slot where
  | request
  | limit
  | devices
  | computeMode
  deriving DecidableEq, Repr

namespace Slot

def suffix : Slot → String
  | request => "." ++ memoryInfix ++ "." ++ annotationSuffixRequest
  | limit => "." ++ memoryInfix ++ "." ++ annotationSuffixLimit
  | devices => "." ++ devicesSuffix
  | computeMode => "." ++ computeModeSuffix

/-- The key of the annotation, by the key builder of its kind. -/
def key (pre name : String) : Slot → String
  | request => containerMemoryAnnotationKey pre name annotationSuffixRequest
  | limit => containerMemoryAnnotationKey pre name annotationSuffixLimit
  | devices => containerDevicesAnnotationKey pre name
  | computeMode => containerComputeModeAnnotationKey pre name

theorem key_eq (pre name : String) (slot : Slot) :
    slot.key pre name = pre ++ name ++ slot.suffix := by
  cases slot <;>
    simp only [key, suffix, containerMemoryAnnotationKey, containerDevicesAnnotationKey,
      containerComputeModeAnnotationKey, String.append_assoc]

/-- The last two characters of a key. -/
def tail (s : String) : List Char := s.toList.reverse.take 2

theorem tail_key (pre name : String) (slot : Slot) :
    tail (slot.key pre name) = tail slot.suffix := by
  have hlen : 2 ≤ slot.suffix.toList.reverse.length := by cases slot <;> decide
  rw [key_eq, tail, String.toList_append, List.reverse_append, List.take_append_of_le_length hlen]
  rfl

theorem tail_suffix_injective : Function.Injective fun slot : Slot => tail slot.suffix := by
  intro slot slot' h
  revert h
  cases slot <;> cases slot' <;> decide

theorem key_inj {pre c c' : String} {slot slot' : Slot} (h : slot.key pre c = slot'.key pre c') :
    c = c' ∧ slot = slot' := by
  have hslot : slot = slot' := by
    apply tail_suffix_injective
    simp only [← tail_key pre c slot, ← tail_key pre c' slot', h]
  subst hslot
  rw [key_eq, key_eq, ← String.toList_inj] at h
  simp only [String.toList_append, List.append_assoc, List.append_cancel_left_eq,
    List.append_cancel_right_eq] at h
  exact ⟨String.toList_inj.mp h, rfl⟩

end Slot

/-- The two maps agree on every key that is not one of the container's. -/
def AgreeExcept (pre name : String) (annotations annotations' : AnnotationMap) : Prop :=
  ∀ key, (∀ slot : Slot, key ≠ slot.key pre name) → annotations key = annotations' key

section Isolation

variable {pre c d : String} {annotations annotations' : AnnotationMap}

theorem AgreeExcept.slot (h : AgreeExcept pre d annotations annotations') (hne : c ≠ d)
    (slot : Slot) : annotations (slot.key pre c) = annotations' (slot.key pre c) := by
  apply h
  intro slot' heq
  exact hne (Slot.key_inj heq).1

theorem AgreeExcept.parseGPUMemory [ParseQuantity]
    (h : AgreeExcept pre d annotations annotations') (hne : c ≠ d) :
    parseGPUMemoryAnnotations annotations c pre = parseGPUMemoryAnnotations annotations' c pre := by
  have hrequest := h.slot hne .request
  have hlimit := h.slot hne .limit
  simp only [Slot.key] at hrequest hlimit
  simp only [parseGPUMemoryAnnotations, parseMemoryAnnotation, hrequest, hlimit]

theorem AgreeExcept.parseVisibleDevices (h : AgreeExcept pre d annotations annotations')
    (hne : c ≠ d) :
    Annotations.parseVisibleDevices annotations c pre =
      Annotations.parseVisibleDevices annotations' c pre := by
  have hdevices := h.slot hne .devices
  simp only [Slot.key] at hdevices
  simp only [Annotations.parseVisibleDevices, hdevices]

theorem AgreeExcept.parseComputeMode (h : AgreeExcept pre d annotations annotations')
    (hne : c ≠ d) (smSharingEnabled : Bool) :
    Annotations.parseComputeMode annotations c pre smSharingEnabled =
      Annotations.parseComputeMode annotations' c pre smSharingEnabled := by
  have hmode := h.slot hne .computeMode
  simp only [Slot.key] at hmode
  simp only [Annotations.parseComputeMode, hmode]

end Isolation

/-- What is done for a container does not depend on the annotations of another one. -/
theorem container_isolated [ParseQuantity] (cfg : Config) (pod : PodSandbox)
    (annotations' : AnnotationMap) (ctr : Container) (d : String) (hne : ctr.name ≠ d)
    (hagree : AgreeExcept cfg.annotationPrefix d pod.annotations annotations') :
    let pod' := { pod with annotations := annotations' }
    let adapter : Adapter := ⟨cfg.annotationPrefix⟩
    buildAdjustment cfg pod ctr = buildAdjustment cfg pod' ctr ∧
      adapter.container (some pod) (some ctr) = adapter.container (some pod') (some ctr) ∧
      cfg.detector.check (some pod) (some ctr) = cfg.detector.check (some pod') (some ctr) := by
  have hmemory := hagree.parseGPUMemory hne
  have hdevices := hagree.parseVisibleDevices hne
  have hmode := hagree.parseComputeMode hne cfg.supportSMSharing
  refine ⟨?_, ?_, ?_⟩
  · simp only [buildAdjustment, hmemory, hdevices, hmode]
  · simp only [Adapter.container, Adapter.isFractionalGPUContainer, hmemory, Option.map_some]
  · have hreport : ∀ memory mode, cfg.detector.report pod ctr memory mode =
        cfg.detector.report { pod with annotations := annotations' } ctr memory mode := by
      intro memory mode
      unfold Detector.report Config.detector
      rw [hdevices]
    simp only [Detector.check, hreport]
    simp only [Config.detector, hmemory, hmode]

/-- The keys of `trainer` and those of `trainer.gpu-memory` do not meet, so that the limit of the
one leaves the other alone. -/
theorem container_isolated_trainer :
    let annotations' : AnnotationMap := fun key =>
      if key = "nvidia.com/container.trainer.gpu-memory.gpu-memory.limit" then some "2Gi"
      else trainerPod.annotations key
    let pod' := { trainerPod with annotations := annotations' }
    trainerContainer.name ≠ "trainer.gpu-memory" ∧
      @buildAdjustment gibQuantities defaultConfig trainerPod trainerContainer =
        @buildAdjustment gibQuantities defaultConfig pod' trainerContainer :=
  ⟨by decide, (@container_isolated gibQuantities defaultConfig trainerPod _ trainerContainer
    "trainer.gpu-memory" (by decide) (by
      intro key hkey
      have hne : key ≠ "nvidia.com/container.trainer.gpu-memory.gpu-memory.limit" := hkey .limit
      simp only [if_neg hne])).1⟩

end GpuFractioning.Fractiond
