import GpuFractioning.Fractiond.Plugin

/-!
# The audit, and its agreement with the create hook

`fractiond/internal/audit/detector.go` decides which running containers lack
their injection and are stopped; `buildAdjustment` decides what a container is
given when it is created again. The two are written separately. Here both are
shown to follow from what a container is owed, so that the audit stops only
containers the hook will adjust, never one the hook has adjusted, and misses
none that lacks a part of its adjustment.
-/

namespace GpuFractioning.Fractiond

open Annotations Injection

structure Violator where
  containerID : String
  container : String
  pod : String
  namespace_ : String
  missing : List String
  deriving DecidableEq, Repr

structure Detector where
  annotationPrefix : String
  mpsPipeDirectory : String
  smSharingEnabled : Bool
  failOpen : Bool
  deriving DecidableEq, Repr

/-- The detector `NewPlugin` builds from the plugin's own configuration. -/
def Config.detector (cfg : Config) : Detector :=
  { annotationPrefix := cfg.annotationPrefix
    mpsPipeDirectory := cfg.mpsPipeDirectory
    smSharingEnabled := cfg.supportSMSharing
    failOpen := cfg.failOpen }

/-- The key of one environment entry: the part before the first `=`. -/
def envKey (kv : String) : String := GoString.before '=' kv

/-- The injected keys that are present, and only those. -/
def presentEnv (env : List String) : List String :=
  (env.map envKey).filter fun k => k ∈ allEnvKeys

def hasMount (mounts : List Mount) (source destination : String) : Bool :=
  mounts.any fun m => m.source == source && m.destination == destination

namespace Detector

/-- The expected pieces that are absent, in the order they are tested. -/
def missingInjection (d : Detector) (memory : GPUMemoryConfig) (visibleDevices : String)
    (mode : ComputeMode) (container : Container) : List String :=
  let env := presentEnv container.env
  let expected := mpsPipeMount d.mpsPipeDirectory mode
  (if envMPSPipeDirectory ∉ env then ["env:" ++ envMPSPipeDirectory] else []) ++
  (if memory.limit ≠ "" ∧ envGPUMemoryLimit ∉ env then ["env:" ++ envGPUMemoryLimit] else []) ++
  (if memory.request ≠ "" ∧ envGPUMemoryRequest ∉ env then ["env:" ++ envGPUMemoryRequest]
    else []) ++
  (if visibleDevices ≠ "" ∧ envVisibleDevices ∉ env then ["env:" ++ envVisibleDevices] else []) ++
  (if hasMount container.mounts expected.1 expected.2 = false then
    ["mount:" ++ expected.1 ++ ":" ++ expected.2] else [])

/-- The end of `check`, once memory and compute mode are settled. -/
def report (d : Detector) (pod : PodSandbox) (container : Container) (memory : GPUMemoryConfig)
    (mode : ComputeMode) : Option Violator :=
  let visibleDevices := parseVisibleDevices pod.annotations container.name d.annotationPrefix
  let missing := d.missingInjection memory visibleDevices mode container
  if missing = [] then none
  else some
    { containerID := container.id
      container := container.name
      pod := pod.name
      namespace_ := pod.namespace_
      missing := missing }

/-- `check`; nil pointers are `none`, and so is a container that must not be stopped. -/
def check [ParseQuantity] (d : Detector) (pod : Option PodSandbox) (container : Option Container) :
    Option Violator :=
  match container, pod with
  | some container, some pod =>
    if container.id = "" then none
    else if container.state ≠ .created ∧ container.state ≠ .running then none
    else
      match parseGPUMemoryAnnotations pod.annotations container.name d.annotationPrefix with
      | .error _ => none
      | .ok memory =>
        if memory.isEmpty then none
        else
          match parseComputeMode pod.annotations container.name d.annotationPrefix
              d.smSharingEnabled with
          | .ok mode => d.report pod container memory.applyDefaults mode
          | .error _ =>
            if !d.failOpen then none
            else d.report pod container memory.applyDefaults .timeSlicing
  | _, _ => none

/-- The violators of one Synchronize snapshot. -/
def violators [ParseQuantity] (d : Detector) (pods : List PodSandbox)
    (containers : List Container) : List Violator :=
  containers.filterMap fun container =>
    d.check ((podSandboxLookup pods).lookup container.podSandboxId) (some container)

theorem report_isSome (d : Detector) (pod : PodSandbox) (container : Container)
    (memory : GPUMemoryConfig) (mode : ComputeMode) :
    (d.report pod container memory mode).isSome ↔
      d.missingInjection memory
        (parseVisibleDevices pod.annotations container.name d.annotationPrefix) mode
        container ≠ [] := by
  simp only [report]
  split_ifs with h <;> simp [h]

end Detector

/-- The two tests for a variable agree on the injected keys, which hold no `=`. -/
theorem mem_presentEnv_iff {ctr : Container} {key : String} (hkey : key ∈ allEnvKeys) :
    key ∈ presentEnv ctr.env ↔ containerHasEnv ctr key = true := by
  have hplain : ∀ key ∈ allEnvKeys, '=' ∉ key.toList := by decide
  have hentry : ∀ kv, envKey kv = key ↔
      (kv == key || GoString.hasPrefix kv (key ++ "=")) = true := by
    intro kv
    rw [envKey, GoString.before_eq_iff (hplain key hkey), Bool.or_eq_true, beq_iff_eq]
    rfl
  simp only [presentEnv, List.mem_filter, List.mem_map, hkey, decide_true, and_true, hentry,
    containerHasEnv, List.any_eq_true]

theorem hasMount_iff {mounts : List Mount} {source destination : String} :
    hasMount mounts source destination = true ↔
      ∃ m ∈ mounts, m.source = source ∧ m.destination = destination := by
  simp [hasMount]

theorem Owed.keys_subset (o : Owed) : ∀ key ∈ o.keys, key ∈ allEnvKeys := by
  intro key hkey
  unfold Owed.keys at hkey
  split_ifs at hkey <;> simp [allEnvKeys] at hkey ⊢ <;> tauto

theorem missingInjection_eq_nil (d : Detector) {o : Owed} (hrequest : o.memory.request ≠ "")
    (hlimit : o.memory.limit ≠ "") (ctr : Container) :
    d.missingInjection o.memory o.visibleDevices o.mode ctr = [] ↔
      (∀ key ∈ o.keys, containerHasEnv ctr key = true) ∧
        hasMount ctr.mounts (mpsPipeMount d.mpsPipeDirectory o.mode).1
          (mpsPipeMount d.mpsPipeDirectory o.mode).2 = true := by
  have hpresent : ∀ key ∈ o.keys, (key ∈ presentEnv ctr.env ↔ containerHasEnv ctr key = true) :=
    fun key hkey => mem_presentEnv_iff (o.keys_subset key hkey)
  rw [← forall₂_congr hpresent]
  by_cases hd : o.visibleDevices = "" <;>
    simp [Detector.missingInjection, Owed.keys, hrequest, hlimit, hd] <;> tauto

/-- The audit reports exactly the live containers that miss a part of what they are owed. -/
theorem check_isSome [ParseQuantity] {cfg : Config} {pod : PodSandbox} {ctr : Container} :
    (cfg.detector.check (some pod) (some ctr)).isSome ↔
      ctr.id ≠ "" ∧ (ctr.state = .created ∨ ctr.state = .running) ∧
        ∃ o, owed cfg pod.annotations ctr.name = some o ∧
          cfg.detector.missingInjection o.memory o.visibleDevices o.mode ctr ≠ [] := by
  unfold Detector.check owed effectiveMode
  by_cases hid : ctr.id = ""
  · simp [hid]
  by_cases hstate : ctr.state ≠ .created ∧ ctr.state ≠ .running
  · simp [hid, hstate]
  have hlive : ctr.state = .created ∨ ctr.state = .running := by tauto
  have hd : cfg.detector.annotationPrefix = cfg.annotationPrefix ∧
      cfg.detector.smSharingEnabled = cfg.supportSMSharing ∧
      cfg.detector.failOpen = cfg.failOpen := ⟨rfl, rfl, rfl⟩
  simp only [hid, hstate, hlive, if_false, ne_eq, not_false_eq_true, true_and, hd]
  cases parseGPUMemoryAnnotations pod.annotations ctr.name cfg.annotationPrefix with
  | error e => simp
  | ok memory =>
    by_cases hempty : memory.isEmpty
    · simp [hempty]
    · cases parseComputeMode pod.annotations ctr.name cfg.annotationPrefix
          cfg.supportSMSharing with
      | ok mode => simp [hempty, Detector.report_isSome, hd]
      | error e => by_cases hf : cfg.failOpen <;> simp [hempty, hf, Detector.report_isSome, hd]

/-- What the runtime makes of an adjustment: removed keys are dropped, added
variables and mounts are there. State and other fields may have changed since. -/
structure Applied (adj : ContainerAdjustment) (ctr ctr' : Container) : Prop where
  name : ctr'.name = ctr.name
  removed : ∀ kv ∈ ctr'.env, envKey kv ∈ adj.removedKeys →
    ∃ e ∈ adj.addedEnv, kv = e.key ++ "=" ++ e.value
  added : ∀ e ∈ adj.addedEnv, e.key ++ "=" ++ e.value ∈ ctr'.env
  mounts : ∀ m ∈ adj.mounts, m ∈ ctr'.mounts

/-- The container a runtime creates from an adjustment. -/
def applyAdjustment (adj : ContainerAdjustment) (ctr : Container) : Container :=
  { ctr with
    env := (ctr.env.filter fun kv => envKey kv ∉ adj.removedKeys) ++
      adj.addedEnv.map fun e => e.key ++ "=" ++ e.value
    mounts := ctr.mounts ++ adj.mounts }

theorem applyAdjustment_applied (adj : ContainerAdjustment) (ctr : Container) :
    Applied adj ctr (applyAdjustment adj ctr) where
  name := rfl
  removed kv hkv hremoved := by
    rcases List.mem_append.mp hkv with hkv | hkv
    · exact absurd hremoved (by simpa using (List.mem_filter.mp hkv).2)
    · obtain ⟨e, he, rfl⟩ := List.mem_map.mp hkv
      exact ⟨e, he, rfl⟩
  added e he := List.mem_append_right _ (List.mem_map.mpr ⟨e, he, rfl⟩)
  mounts m hm := List.mem_append_right _ hm

theorem Applied.hasEnv {adj : ContainerAdjustment} {ctr ctr' : Container}
    (h : Applied adj ctr ctr') {key : String} (hkey : key ∈ adj.addedEnv.map KeyValue.key) :
    containerHasEnv ctr' key = true := by
  obtain ⟨e, he, rfl⟩ := List.mem_map.mp hkey
  simp only [containerHasEnv, List.any_eq_true, Bool.or_eq_true]
  exact ⟨_, h.added e he, Or.inr (GoString.hasPrefix_append _ _)⟩

section Agreement

variable [ParseQuantity] {cfg : Config} {pod : PodSandbox} {ctr : Container}

theorem buildAdjustment_of_check (h : (cfg.detector.check (some pod) (some ctr)).isSome) :
    ∃ adj, buildAdjustment cfg pod ctr = .ok (some adj) := by
  obtain ⟨-, -, o, ho, -⟩ := check_isSome.mp h
  exact ⟨_, buildAdjustment_eq_some.mpr ⟨o, ho, rfl⟩⟩

theorem check_applied {adj : ContainerAdjustment}
    (h : buildAdjustment cfg pod ctr = .ok (some adj)) {ctr' : Container}
    (happ : Applied adj ctr ctr') : cfg.detector.check (some pod) (some ctr') = none := by
  obtain ⟨o, ho, rfl⟩ := buildAdjustment_eq_some.mp h
  obtain ⟨hrequest, hlimit⟩ := owed_memory_nonempty ho
  rw [← Option.not_isSome_iff_eq_none, check_isSome]
  rintro ⟨-, -, o', ho', hmissing⟩
  rw [happ.name, ho] at ho'
  cases ho'
  apply hmissing
  rw [missingInjection_eq_nil _ hrequest hlimit]
  refine ⟨?_, ?_⟩
  · intro key hkey
    rw [← adjustment_addedKeys cfg ctr hrequest hlimit] at hkey
    exact happ.hasEnv hkey
  · rw [hasMount_iff]
    exact ⟨_, happ.mounts _ (by rw [adjustment_mounts]; exact List.mem_singleton_self _), rfl, rfl⟩

theorem check_of_lacking {adj : ContainerAdjustment}
    (h : buildAdjustment cfg pod ctr = .ok (some adj)) (hid : ctr.id ≠ "")
    (hstate : ctr.state = .created ∨ ctr.state = .running)
    (hlack : (∃ e ∈ adj.addedEnv, containerHasEnv ctr e.key = false) ∨
      ∃ m ∈ adj.mounts, hasMount ctr.mounts m.source m.destination = false) :
    (cfg.detector.check (some pod) (some ctr)).isSome := by
  obtain ⟨o, ho, rfl⟩ := buildAdjustment_eq_some.mp h
  obtain ⟨hrequest, hlimit⟩ := owed_memory_nonempty ho
  refine check_isSome.mpr ⟨hid, hstate, o, ho, ?_⟩
  rw [ne_eq, missingInjection_eq_nil _ hrequest hlimit]
  rintro ⟨henv, hmount⟩
  rcases hlack with ⟨e, he, hno⟩ | ⟨m, hm, hno⟩
  · have hkey : e.key ∈ o.keys := by
      rw [← adjustment_addedKeys cfg ctr hrequest hlimit]
      exact List.mem_map_of_mem he
    rw [henv e.key hkey] at hno
    cases hno
  · rw [adjustment_mounts, List.mem_singleton] at hm
    subst hm
    have hdir : cfg.detector.mpsPipeDirectory = cfg.mpsPipeDirectory := rfl
    rw [hdir] at hmount
    rw [hmount] at hno
    cases hno

theorem violators_adjustable {pods : List PodSandbox} {ctrs : List Container} {v : Violator}
    (h : v ∈ cfg.detector.violators pods ctrs) :
    ∃ pod ∈ pods, ∃ ctr ∈ ctrs, ctr.podSandboxId = pod.id ∧
      ∃ adj, buildAdjustment cfg pod ctr = .ok (some adj) := by
  obtain ⟨ctr, hctr, hcheck⟩ := List.mem_filterMap.mp h
  cases hpod : (podSandboxLookup pods).lookup ctr.podSandboxId with
  | none =>
    rw [hpod] at hcheck
    cases hcheck
  | some pod =>
    rw [hpod] at hcheck
    obtain ⟨hmem, hid⟩ := podSandboxLookup_eq_some hpod
    exact ⟨pod, hmem, ctr, hctr, hid.symm, buildAdjustment_of_check (by simp [hcheck])⟩

end Agreement

/-- The audit and the create hook agree: a reported container would be adjusted;
an adjusted container is not reported; a live container that lacks an added
variable or the mount is reported. -/
theorem audit_agrees_with_create_hook [ParseQuantity] (cfg : Config) (pod : PodSandbox)
    (ctr : Container) :
    (∀ v, cfg.detector.check (some pod) (some ctr) = some v →
      ∃ adj, buildAdjustment cfg pod ctr = .ok (some adj)) ∧
    (∀ adj, buildAdjustment cfg pod ctr = .ok (some adj) →
      ∀ ctr', Applied adj ctr ctr' → cfg.detector.check (some pod) (some ctr') = none) ∧
    (∀ adj, buildAdjustment cfg pod ctr = .ok (some adj) → ctr.id ≠ "" →
      ctr.state = .created ∨ ctr.state = .running →
      (∃ e ∈ adj.addedEnv, containerHasEnv ctr e.key = false) ∨
        (∃ m ∈ adj.mounts, hasMount ctr.mounts m.source m.destination = false) →
      ∃ v, cfg.detector.check (some pod) (some ctr) = some v) := by
  refine ⟨?_, ?_, ?_⟩
  · intro v hv
    exact buildAdjustment_of_check (by simp [hv])
  · intro adj hadj ctr' happ
    exact check_applied hadj happ
  · intro adj hadj hid hstate hlack
    exact Option.isSome_iff_exists.mp (check_of_lacking hadj hid hstate hlack)

/-- A running container without its injection is reported; once it has been
created again with the adjustment it is not. -/
theorem audit_agrees_with_create_hook_trainer :
    letI := gibQuantities
    (∃ v, defaultConfig.detector.check (some trainerPod) (some trainerContainer) = some v) ∧
      ∃ adj, buildAdjustment defaultConfig trainerPod trainerContainer = .ok (some adj) ∧
        defaultConfig.detector.check (some trainerPod)
          (some (applyAdjustment adj trainerContainer)) = none := by
  let inst : ParseQuantity := gibQuantities
  obtain ⟨-, hfixed, -⟩ :=
    audit_agrees_with_create_hook defaultConfig trainerPod trainerContainer
  obtain ⟨o, ho⟩ := Option.isSome_iff_exists.mp
    (by decide : (owed defaultConfig trainerPod.annotations trainerContainer.name).isSome)
  have hadj := buildAdjustment_eq_some.mpr ⟨o, ho, rfl⟩
  obtain ⟨v, hv⟩ := Option.isSome_iff_exists.mp
    (by decide : (defaultConfig.detector.check (some trainerPod) (some trainerContainer)).isSome)
  exact ⟨⟨v, hv⟩, _, hadj, hfixed _ hadj _ (applyAdjustment_applied _ _)⟩

end GpuFractioning.Fractiond
