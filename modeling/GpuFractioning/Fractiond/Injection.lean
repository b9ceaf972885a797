import GpuFractioning.Fractiond.Annotations
import GpuFractioning.Lib.FiniteMap
import GpuFractioning.Lib.GoPath

/-!
# Runtime objects and the injection contract

The part of the NRI `api` types that fractiond reads and writes, and
`fractiond/internal/injection/injection.go`: the environment variables, the
CDI devices and the MPS pipe mount a fractional container receives.
-/

namespace GpuFractioning.Fractiond

inductive ContainerState where
  | unknown
  | created
  | paused
  | running
  | stopped
  deriving DecidableEq, Repr

structure Mount where
  destination : String
  type : String
  source : String
  options : List String
  deriving DecidableEq, Repr

structure LinuxDevice where
  major : ℤ
  minor : ℤ
  deriving DecidableEq, Repr

structure LinuxContainer where
  devices : List LinuxDevice
  cgroupsPath : String
  deriving DecidableEq, Repr

structure PodSandbox where
  id : String
  name : String
  uid : String
  namespace_ : String
  annotations : AnnotationMap

structure Container where
  id : String
  podSandboxId : String
  name : String
  state : ContainerState
  env : List String
  mounts : List Mount
  linux : Option LinuxContainer
  deriving DecidableEq, Repr

/-- `podSandboxLookup`: the pods by ID; one without an ID cannot be matched. -/
def podSandboxLookup (pods : List PodSandbox) : FiniteMap String PodSandbox :=
  pods.foldl (fun out pod => if pod.id = "" then out else out.insert pod.id pod) ∅

theorem podSandboxLookup_eq_some {pods : List PodSandbox} {id : String} {pod : PodSandbox}
    (h : (podSandboxLookup pods).lookup id = some pod) : pod ∈ pods ∧ pod.id = id := by
  induction pods using List.reverseRecOn with
  | nil => cases h
  | append_singleton pods last ih =>
    simp only [podSandboxLookup, List.foldl_append, List.foldl_cons, List.foldl_nil] at h ih
    split_ifs at h
    · exact ⟨List.mem_append_left _ (ih h).1, (ih h).2⟩
    · rw [FiniteMap.lookup_insert] at h
      split_ifs at h with hid
      · cases h
        exact ⟨by simp, hid.symm⟩
      · exact ⟨List.mem_append_left _ (ih h).1, (ih h).2⟩

/-- `api.KeyValue`: a change of one environment variable. -/
structure KeyValue where
  key : String
  value : String
  deriving DecidableEq, Repr

structure ContainerAdjustment where
  env : List KeyValue
  mounts : List Mount
  cdiDevices : List String
  deriving DecidableEq, Repr

namespace ContainerAdjustment

def empty : ContainerAdjustment := { env := [], mounts := [], cdiDevices := [] }

def addEnv (a : ContainerAdjustment) (key value : String) : ContainerAdjustment :=
  { a with env := a.env ++ [⟨key, value⟩] }

/-- `api.MarkForRemoval`. -/
def markForRemoval (key : String) : String := "-" ++ key

def removeEnv (a : ContainerAdjustment) (key : String) : ContainerAdjustment :=
  { a with env := a.env ++ [⟨markForRemoval key, ""⟩] }

def addMount (a : ContainerAdjustment) (m : Mount) : ContainerAdjustment :=
  { a with mounts := a.mounts ++ [m] }

def addCDIDevice (a : ContainerAdjustment) (name : String) : ContainerAdjustment :=
  { a with cdiDevices := a.cdiDevices ++ [name] }

/-- The variables the adjustment adds, as opposed to those it marks for removal. -/
def addedEnv (a : ContainerAdjustment) : List KeyValue :=
  a.env.filter fun e => !GoString.hasPrefix e.key "-"

/-- The keys the adjustment marks for removal. -/
def removedKeys (a : ContainerAdjustment) : List String :=
  a.env.filterMap fun e =>
    if GoString.hasPrefix e.key "-" then some (String.ofList (e.key.toList.drop 1)) else none

theorem addedEnv_addEnv (a : ContainerAdjustment) {key : String} (value : String)
    (hkey : GoString.hasPrefix key "-" = false) :
    (a.addEnv key value).addedEnv = a.addedEnv ++ [⟨key, value⟩] := by
  simp [addedEnv, addEnv, hkey]

@[simp] theorem addedEnv_removeEnv (a : ContainerAdjustment) (key : String) :
    (a.removeEnv key).addedEnv = a.addedEnv := by
  have hmark : GoString.hasPrefix (markForRemoval key) "-" = true := GoString.hasPrefix_append _ _
  simp [addedEnv, removeEnv, hmark]

@[simp] theorem addedEnv_addMount (a : ContainerAdjustment) (m : Mount) :
    (a.addMount m).addedEnv = a.addedEnv := rfl

@[simp] theorem addedEnv_empty : empty.addedEnv = [] := rfl

theorem foldl_addCDIDevice (names : List String) (a : ContainerAdjustment) :
    (names.foldl addCDIDevice a).addedEnv = a.addedEnv ∧
      (names.foldl addCDIDevice a).mounts = a.mounts := by
  induction names generalizing a with
  | nil => exact ⟨rfl, rfl⟩
  | cons name names ih => exact ih (a.addCDIDevice name)

end ContainerAdjustment

namespace Injection

open Annotations

def envGPUMemoryRequest : String := "NVIDIA_GPU_MEMORY_REQUEST"

def envGPUMemoryLimit : String := "NVIDIA_GPU_MEMORY_LIMIT"

def envMPSPipeDirectory : String := "CUDA_MPS_PIPE_DIRECTORY"

def envVisibleDevices : String := "NVIDIA_VISIBLE_DEVICES"

def allEnvKeys : List String :=
  [envGPUMemoryRequest, envGPUMemoryLimit, envMPSPipeDirectory, envVisibleDevices]

/-- None of the keys reads as a removal mark. -/
theorem allEnvKeys_unmarked : ∀ key ∈ allEnvKeys, GoString.hasPrefix key "-" = false := by decide

def cdiKindDevicePlugin : String := "k8s.device-plugin.nvidia.com/gpu"

def cdiNonDeviceValues : List String := ["all", "void", "none", ""]

/-- Each element of the device assignment that names a device, fully qualified. -/
def cdiDeviceNames (visibleDevices : String) : List String :=
  (GoString.split ',' visibleDevices).filterMap fun device =>
    let device := GoString.trimSpace device
    if device ∈ cdiNonDeviceValues then none else some (cdiKindDevicePlugin ++ "=" ++ device)

def sharedMPSSocketPath : String := "shared/default"

def containerMPSPipeDirectory : String := "/tmp/nvidia-mps"

/-- Source and destination of the MPS pipe mount. -/
def mpsPipeMount (mpsPipeDir : String) : ComputeMode → String × String
  | .smSharing => (GoPath.join [mpsPipeDir, sharedMPSSocketPath], containerMPSPipeDirectory)
  | .timeSlicing => (mpsPipeDir, mpsPipeDir)

end Injection

end GpuFractioning.Fractiond
