import GpuFractioning.Fractiond.Injection
import GpuFractioning.Mapping.ContainerStore

/-!
# From runtime objects to mapping records

`fractiond/internal/adapter.go`, and `FromContainer` of
`fractiond/internal/gpudevices/gpudevices.go`.
-/

namespace GpuFractioning.Fractiond

open Annotations Mapping

namespace GpuDevices

def nvidiaDeviceMajor : ℤ := 195

def maxNVIDIAGPUMinor : ℤ := 32

def gpuIndexFromLinuxDevice (device : LinuxDevice) : Option ℤ :=
  if device.major ≠ nvidiaDeviceMajor then none
  else if device.minor < 0 ∨ device.minor > maxNVIDIAGPUMinor then none
  else some device.minor

/-- The loop of `FromContainer`; `seen` holds the indices added so far. -/
def collectDevices (seen : List ℤ) : List LinuxDevice → List GPUDevice
  | [] => []
  | device :: devices =>
    match gpuIndexFromLinuxDevice device with
    | none => collectDevices seen devices
    | some index =>
      if index ∈ seen then collectDevices seen devices
      else ⟨0, index, ""⟩ :: collectDevices (index :: seen) devices

/-- The NVIDIA device nodes of a container, each minor number once. -/
def fromContainer (container : Container) : List GPUDevice :=
  match container.linux with
  | none => []
  | some linux => collectDevices [] linux.devices

end GpuDevices

/-- The adapter of the plugin, which only holds the annotation prefix. -/
structure Adapter where
  annotationPrefix : String
  deriving DecidableEq, Repr

namespace Adapter

variable [ParseQuantity]

/-- The memory configuration of a fractional container; a nil pod has no annotations. -/
def isFractionalGPUContainer (a : Adapter) (pod : Option PodSandbox) (containerName : String) :
    Option GPUMemoryConfig :=
  let annotations : AnnotationMap := match pod with
    | some pod => pod.annotations
    | none => fun _ => none
  match parseGPUMemoryAnnotations annotations containerName a.annotationPrefix with
  | .error _ => none
  | .ok cfg => if cfg.isEmpty then none else some cfg

/-- The record of one container, if it is fractional. -/
def container (a : Adapter) (pod : Option PodSandbox) (container : Option Container) :
    Option ContainerInfo :=
  match container with
  | none => none
  | some container =>
    if container.id = "" then none
    else
      match a.isFractionalGPUContainer pod container.name with
      | none => none
      | some cfg => some
        { containerID := container.id
          container := container.name
          pod := (pod.map PodSandbox.name).getD ""
          namespace_ := (pod.map PodSandbox.namespace_).getD ""
          podUID := (pod.map PodSandbox.uid).getD ""
          cgroupPath := (container.linux.map LinuxContainer.cgroupsPath).getD ""
          gpuDevices := GpuDevices.fromContainer container
          requestedMemoryMiB := cfg.effectiveMemoryMiB }

/-- The records of a Synchronize; each container is matched to its pod by ID. -/
def containers (a : Adapter) (pods : List PodSandbox) (ctrs : List Container) :
    List ContainerInfo :=
  ctrs.filterMap fun ctr =>
    a.container ((podSandboxLookup pods).lookup ctr.podSandboxId) (some ctr)

theorem container_containerID {a : Adapter} {pod : Option PodSandbox} {ctr : Container}
    {info : ContainerInfo} (h : a.container pod (some ctr) = some info) :
    info.containerID = ctr.id := by
  simp only [container] at h
  split_ifs at h
  split at h
  · cases h
  · cases h
    rfl

end Adapter

end GpuFractioning.Fractiond
