import GpuFractioning.Fractiond.Injection

/-!
# The create hook

The configuration of `Plugin` and its mutation logic, `buildAdjustment`, of
`fractiond/internal/plugin.go`.
-/

namespace GpuFractioning.Fractiond

open Annotations Injection

/-- The fields of `internal.Config` that decide what is injected. -/
structure Config where
  annotationPrefix : String
  mpsPipeDirectory : String
  failOpen : Bool
  supportSMSharing : Bool
  injectCDIDevice : Bool
  deriving DecidableEq, Repr

/-- An error that blocks the creation of a container. -/
structure CreateError where
  container : String
  pod : String
  cause : ParseError
  deriving DecidableEq, Repr

/-- Whether the container defines the variable, as `KEY=VALUE` or a bare `KEY`. -/
def containerHasEnv (ctr : Container) (key : String) : Bool :=
  ctr.env.any fun kv => kv == key || GoString.hasPrefix kv (key ++ "=")

/-- The promotion of the device assignment at the end of `buildAdjustment`. -/
def addVisibleDevices (cfg : Config) (ctr : Container) (visibleDevices : String)
    (adj : ContainerAdjustment) : ContainerAdjustment :=
  if visibleDevices = "" then adj
  else
    let adj :=
      if containerHasEnv ctr envVisibleDevices then adj.removeEnv envVisibleDevices else adj
    let adj := adj.addEnv envVisibleDevices visibleDevices
    if cfg.injectCDIDevice then
      (cdiDeviceNames visibleDevices).foldl ContainerAdjustment.addCDIDevice adj
    else adj

/-- The adjustment itself, once request, limit and compute mode are settled. -/
def adjustment (cfg : Config) (ctr : Container) (memory : GPUMemoryConfig) (mode : ComputeMode)
    (visibleDevices : String) : ContainerAdjustment :=
  let pipe := mpsPipeMount cfg.mpsPipeDirectory mode
  let adj := ContainerAdjustment.empty
  let adj := if memory.request = "" then adj else adj.addEnv envGPUMemoryRequest memory.request
  let adj := if memory.limit = "" then adj else adj.addEnv envGPUMemoryLimit memory.limit
  let adj := adj.addEnv envMPSPipeDirectory pipe.2
  let adj := adj.addMount
    { destination := pipe.2, type := "bind", source := pipe.1, options := ["bind", "rw"] }
  addVisibleDevices cfg ctr visibleDevices adj

/-- No adjustment for a container without memory annotations; a parse error blocks
the container unless the plugin fails open. -/
def buildAdjustment [ParseQuantity] (cfg : Config) (pod : PodSandbox) (ctr : Container) :
    Except CreateError (Option ContainerAdjustment) :=
  match parseGPUMemoryAnnotations pod.annotations ctr.name cfg.annotationPrefix with
  | .error e =>
    if !cfg.failOpen then .error ⟨ctr.name, pod.name, e⟩ else .ok none
  | .ok memory =>
    if memory.isEmpty then .ok none
    else
      let memory := memory.applyDefaults
      let visibleDevices := parseVisibleDevices pod.annotations ctr.name cfg.annotationPrefix
      match parseComputeMode pod.annotations ctr.name cfg.annotationPrefix cfg.supportSMSharing with
      | .ok mode => .ok (some (adjustment cfg ctr memory mode visibleDevices))
      | .error e =>
        if !cfg.failOpen then .error ⟨ctr.name, pod.name, e⟩
        else .ok (some (adjustment cfg ctr memory .timeSlicing visibleDevices))

/-- What a container is owed: the outcome of the shared part of the create hook
and of the audit. -/
structure Owed where
  memory : GPUMemoryConfig
  mode : ComputeMode
  visibleDevices : String
  deriving DecidableEq, Repr

/-- The compute mode a container gets, if its annotation does not block it. -/
def effectiveMode (cfg : Config) (annotations : AnnotationMap) (name : String) :
    Option ComputeMode :=
  match parseComputeMode annotations name cfg.annotationPrefix cfg.supportSMSharing with
  | .ok mode => some mode
  | .error _ => if cfg.failOpen then some .timeSlicing else none

/-- The injection a container named `name` is owed under the pod's annotations, if any. -/
def owed [ParseQuantity] (cfg : Config) (annotations : AnnotationMap) (name : String) :
    Option Owed :=
  match parseGPUMemoryAnnotations annotations name cfg.annotationPrefix with
  | .error _ => none
  | .ok memory =>
    if memory.isEmpty then none
    else (effectiveMode cfg annotations name).map fun mode =>
      ⟨memory.applyDefaults, mode, parseVisibleDevices annotations name cfg.annotationPrefix⟩

theorem owed_memory_nonempty [ParseQuantity] {cfg : Config} {annotations : AnnotationMap}
    {name : String} {o : Owed} (h : owed cfg annotations name = some o) :
    o.memory.request ≠ "" ∧ o.memory.limit ≠ "" := by
  unfold owed at h
  split at h
  · cases h
  · split_ifs at h with hempty
    obtain ⟨mode, -, rfl⟩ := Option.map_eq_some_iff.mp h
    exact GPUMemoryConfig.applyDefaults_nonempty (Bool.eq_false_iff.mpr hempty)

theorem buildAdjustment_eq_some [ParseQuantity] {cfg : Config} {pod : PodSandbox}
    {ctr : Container} {adj : ContainerAdjustment} :
    buildAdjustment cfg pod ctr = .ok (some adj) ↔
      ∃ o, owed cfg pod.annotations ctr.name = some o ∧
        adj = adjustment cfg ctr o.memory o.mode o.visibleDevices := by
  unfold buildAdjustment owed effectiveMode
  cases parseGPUMemoryAnnotations pod.annotations ctr.name cfg.annotationPrefix with
  | error e => by_cases hf : cfg.failOpen <;> simp [hf]
  | ok memory =>
    by_cases hempty : memory.isEmpty
    · simp [hempty]
    · cases parseComputeMode pod.annotations ctr.name cfg.annotationPrefix
          cfg.supportSMSharing with
      | ok mode => simp [hempty, eq_comm]
      | error e => by_cases hf : cfg.failOpen <;> simp [hempty, hf, eq_comm]

/-- The keys an injection adds. -/
def Owed.keys (o : Owed) : List String :=
  [envGPUMemoryRequest, envGPUMemoryLimit, envMPSPipeDirectory] ++
    if o.visibleDevices = "" then [] else [envVisibleDevices]

theorem addVisibleDevices_mounts (cfg : Config) (ctr : Container) (visibleDevices : String)
    (adj : ContainerAdjustment) :
    (addVisibleDevices cfg ctr visibleDevices adj).mounts = adj.mounts := by
  unfold addVisibleDevices
  split_ifs <;> simp [ContainerAdjustment.foldl_addCDIDevice, ContainerAdjustment.addEnv,
    ContainerAdjustment.removeEnv]

theorem addVisibleDevices_addedEnv (cfg : Config) (ctr : Container) (visibleDevices : String)
    (adj : ContainerAdjustment) :
    (addVisibleDevices cfg ctr visibleDevices adj).addedEnv =
      adj.addedEnv ++
        if visibleDevices = "" then [] else [⟨envVisibleDevices, visibleDevices⟩] := by
  have hkey := allEnvKeys_unmarked envVisibleDevices (by decide)
  unfold addVisibleDevices
  split_ifs <;> simp [ContainerAdjustment.foldl_addCDIDevice,
    ContainerAdjustment.addedEnv_addEnv _ _ hkey]

theorem adjustment_addedKeys (cfg : Config) (ctr : Container) {o : Owed}
    (hrequest : o.memory.request ≠ "") (hlimit : o.memory.limit ≠ "") :
    (adjustment cfg ctr o.memory o.mode o.visibleDevices).addedEnv.map KeyValue.key = o.keys := by
  have h1 := allEnvKeys_unmarked envGPUMemoryRequest (by decide)
  have h2 := allEnvKeys_unmarked envGPUMemoryLimit (by decide)
  have h3 := allEnvKeys_unmarked envMPSPipeDirectory (by decide)
  by_cases hd : o.visibleDevices = "" <;>
    simp [adjustment, addVisibleDevices_addedEnv, hrequest, hlimit, hd, Owed.keys,
      ContainerAdjustment.addedEnv_addEnv, h1, h2, h3]

theorem adjustment_mounts (cfg : Config) (ctr : Container) (o : Owed) :
    (adjustment cfg ctr o.memory o.mode o.visibleDevices).mounts =
      [{ destination := (mpsPipeMount cfg.mpsPipeDirectory o.mode).2, type := "bind",
         source := (mpsPipeMount cfg.mpsPipeDirectory o.mode).1, options := ["bind", "rw"] }] := by
  simp only [adjustment, addVisibleDevices_mounts]
  split_ifs <;> rfl

section Trainer

/-- The quantities one and two GiB, for concrete pods. -/
@[reducible] def gibQuantities : ParseQuantity :=
  ⟨fun s => if s = "1Gi" then some (2 ^ 30) else if s = "2Gi" then some (2 ^ 31) else none⟩

def defaultConfig : Config :=
  { annotationPrefix := "nvidia.com/container."
    mpsPipeDirectory := "/run/nvidia-mps"
    failOpen := false
    supportSMSharing := true
    injectCDIDevice := false }

/-- A pod that limits its container `trainer` to 1 GiB on one GPU. -/
def trainerPod : PodSandbox :=
  { id := "p1", name := "job", uid := "u1", namespace_ := "team"
    annotations := fun key =>
      if key = "nvidia.com/container.trainer.gpu-memory.limit" then some "1Gi"
      else if key = "nvidia.com/container.trainer.gpus.devices" then some "GPU-a"
      else none }

def trainerContainer : Container :=
  { id := "c1", podSandboxId := "p1", name := "trainer", state := .running
    env := ["PATH=/bin", "NVIDIA_VISIBLE_DEVICES=void"], mounts := [], linux := none }

end Trainer

end GpuFractioning.Fractiond
