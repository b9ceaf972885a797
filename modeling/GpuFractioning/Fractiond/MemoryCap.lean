import GpuFractioning.Fractiond.Events

/-!
# The memory cap and the recorded memory

A container's annotations are parsed twice: by the create hook, which injects the
memory cap, and later by the events worker, which records the memory for the
metrics. Both arrive at the same number of MiB.
-/

namespace GpuFractioning.Fractiond

open Annotations Injection Mapping

/-- `m` MiB are `b` bytes, rounded up. -/
structure RoundsUp (b m : ℤ) : Prop where
  minimum : 2 ^ 20 ≤ b
  lower : (m - 1) * 2 ^ 20 < b
  upper : b ≤ m * 2 ^ 20

/-- What `resource.Quantity.Value` returns is an `int64`. -/
def ValuesInInt64 [ParseQuantity] : Prop :=
  ∀ s b, ParseQuantity.value s = some b → GoStrconv.minInt64 ≤ b ∧ b ≤ GoStrconv.maxInt64

/-- The values an adjustment injects for a variable. -/
def ContainerAdjustment.injected (adj : ContainerAdjustment) (key : String) : List String :=
  (adj.addedEnv.filter fun e => e.key = key).map KeyValue.value

section Parsing

variable [ParseQuantity] {annotations : AnnotationMap} {name pre key text : String}

/-- The bytes an annotation stands for, if it is there and parses. -/
def annotationBytes (annotations : AnnotationMap) (key : String) : Option ℤ :=
  (annotations key).bind ParseQuantity.value

def requestKey (pre name : String) : String :=
  containerMemoryAnnotationKey pre name annotationSuffixRequest

def limitKey (pre name : String) : String :=
  containerMemoryAnnotationKey pre name annotationSuffixLimit

/-- The annotation the cap is taken from. -/
def capKey (annotations : AnnotationMap) (pre name : String) : String :=
  if (annotations (limitKey pre name)).isSome then limitKey pre name else requestKey pre name

/-- An annotation that is there and was parsed is the decimal form of its MiB. -/
structure ParsedAs (annotations : AnnotationMap) (key text : String) (m : ℤ) : Prop where
  text_eq : text = GoStrconv.formatInt m
  bytes : ∃ b, annotationBytes annotations key = some b ∧ RoundsUp b m
  readBack : GoStrconv.parseInt text = some m

theorem quantityToMemoryMiB_ok (hvalues : ValuesInInt64) {value : String} {m : ℤ}
    (h : quantityToMemoryMiB value = .ok m) :
    ∃ b, ParseQuantity.value value = some b ∧ RoundsUp b m ∧ 0 < m ∧ m ≤ GoStrconv.maxInt64 := by
  unfold quantityToMemoryMiB at h
  cases hb : ParseQuantity.value value with
  | none => simp [hb] at h
  | some b =>
    simp only [hb] at h
    split_ifs at h with hneg hsmall
    have hmin : (2 : ℤ) ^ 20 ≤ b := by
      unfold minMemoryBytes bytesPerMiB at hsmall
      omega
    have hmax := (hvalues value b hb).2
    have hbounds := ceilDiv_bounds (by omega) hmax (show 0 < bytesPerMiB by decide)
    rw [Except.ok.inj h] at hbounds
    obtain ⟨hlower, hupper, hpos, hle⟩ := hbounds
    exact ⟨b, rfl, ⟨hmin, hlower, hupper⟩, hpos, hle.trans hmax⟩

theorem ParsedAs.ne_empty {m : ℤ} (h : ParsedAs annotations key text m) : text ≠ "" := by
  rw [h.text_eq]
  exact GoStrconv.formatInt_ne_empty m

/-- The annotation `key` after parsing: either absent and empty, or its number of MiB. -/
inductive ParseOutcome (annotations : AnnotationMap) (key text : String) : Prop
  | absent (hkey : annotations key = none) (htext : text = "")
  | present (hkey : (annotations key).isSome) (m : ℤ) (hparsed : ParsedAs annotations key text m)

theorem parseMemoryAnnotation_ok (hvalues : ValuesInInt64)
    (h : parseMemoryAnnotation annotations key = .ok text) :
    ParseOutcome annotations key text := by
  unfold parseMemoryAnnotation at h
  cases hvalue : annotations key with
  | none =>
    simp only [hvalue, Except.ok.injEq] at h
    exact .absent hvalue h.symm
  | some value =>
    simp only [hvalue, parseToMemoryMiB] at h
    cases hm : quantityToMemoryMiB value with
    | error err => simp [hm, Except.map, Except.mapError] at h
    | ok m =>
      have htext : GoStrconv.formatInt m = text := by
        simpa [hm, Except.map, Except.mapError] using h
      obtain ⟨b, hb, hround, hpos, hmax⟩ := quantityToMemoryMiB_ok hvalues hm
      refine .present (by simp [hvalue]) m ⟨htext.symm, ⟨b, ?_, hround⟩, ?_⟩
      · rw [annotationBytes, hvalue]
        exact hb
      · rw [← htext]
        refine GoStrconv.parseInt_formatInt ?_ hmax
        unfold GoStrconv.minInt64
        omega

theorem parseGPUMemoryAnnotations_ok (hvalues : ValuesInInt64) {memory : GPUMemoryConfig}
    (h : parseGPUMemoryAnnotations annotations name pre = .ok memory) :
    ParseOutcome annotations (requestKey pre name) memory.request ∧
      ParseOutcome annotations (limitKey pre name) memory.limit := by
  unfold parseGPUMemoryAnnotations at h
  cases hrequest : parseMemoryAnnotation annotations
      (containerMemoryAnnotationKey pre name annotationSuffixRequest) with
  | error err => simp [hrequest, bind, Except.bind] at h
  | ok request =>
    cases hlimit : parseMemoryAnnotation annotations
        (containerMemoryAnnotationKey pre name annotationSuffixLimit) with
    | error err => simp [hrequest, hlimit, bind, Except.bind] at h
    | ok limit =>
      simp only [hrequest, hlimit, bind, Except.bind, pure, Except.pure,
        Except.ok.injEq] at h
      subst h
      exact ⟨parseMemoryAnnotation_ok hvalues hrequest, parseMemoryAnnotation_ok hvalues hlimit⟩

/-- What the parsed configuration of a fractional container comes to: `m` MiB for the
cap and the record, `q` MiB for the request. -/
structure Settled (annotations : AnnotationMap) (pre name : String) (memory : GPUMemoryConfig)
    (m q : ℤ) : Prop where
  effective : memory.effectiveMemoryMiB = m
  limit : memory.applyDefaults.limit = GoStrconv.formatInt m
  request : memory.applyDefaults.request = GoStrconv.formatInt q
  cap : ∃ b, annotationBytes annotations (capKey annotations pre name) = some b ∧ RoundsUp b m
  request_of_isSome : (annotations (requestKey pre name)).isSome →
    ∃ b, annotationBytes annotations (requestKey pre name) = some b ∧ RoundsUp b q
  request_of_none : annotations (requestKey pre name) = none → q = m

theorem exists_settled (hvalues : ValuesInInt64) {memory : GPUMemoryConfig}
    (h : parseGPUMemoryAnnotations annotations name pre = .ok memory)
    (hset : memory.isEmpty = false) : ∃ m q, Settled annotations pre name memory m q := by
  obtain ⟨request, limit⟩ := memory
  obtain ⟨hrequest, hlimit⟩ := parseGPUMemoryAnnotations_ok hvalues h
  simp only at hrequest hlimit
  cases hlimit with
  | absent hkey htext =>
    have hcap : capKey annotations pre name = requestKey pre name := by simp [capKey, hkey]
    cases hrequest with
    | absent _ htext' => simp [GPUMemoryConfig.isEmpty, htext, htext'] at hset
    | present hkey' q hq =>
      refine ⟨q, q, ⟨?_, ?_, ?_, ?_, fun _ => hq.bytes, fun _ => rfl⟩⟩
      · simp [GPUMemoryConfig.effectiveMemoryMiB, htext, hq.ne_empty, hq.readBack]
      · simpa [GPUMemoryConfig.applyDefaults_eq, htext] using hq.text_eq
      · simpa [GPUMemoryConfig.applyDefaults_eq, hq.ne_empty] using hq.text_eq
      · rw [hcap]
        exact hq.bytes
  | present hkey m hm =>
    have hcap : capKey annotations pre name = limitKey pre name := by simp [capKey, hkey]
    have heffective : GPUMemoryConfig.effectiveMemoryMiB ⟨request, limit⟩ = m := by
      simp [GPUMemoryConfig.effectiveMemoryMiB, hm.ne_empty, hm.readBack]
    have hbytes : ∃ b, annotationBytes annotations (capKey annotations pre name) = some b ∧
        RoundsUp b m := by
      rw [hcap]
      exact hm.bytes
    cases hrequest with
    | absent hkey' htext' =>
      refine ⟨m, m, ⟨heffective, ?_, ?_, hbytes, ?_, fun _ => rfl⟩⟩
      · simpa [GPUMemoryConfig.applyDefaults_eq, hm.ne_empty] using hm.text_eq
      · simpa [GPUMemoryConfig.applyDefaults_eq, htext'] using hm.text_eq
      · simp [hkey']
    | present hkey' q hq =>
      refine ⟨m, q, ⟨heffective, ?_, ?_, hbytes, fun _ => hq.bytes, ?_⟩⟩
      · simpa [GPUMemoryConfig.applyDefaults_eq, hm.ne_empty] using hm.text_eq
      · simpa [GPUMemoryConfig.applyDefaults_eq, hq.ne_empty] using hq.text_eq
      · intro hnone
        simp [hnone] at hkey'

end Parsing

section Hook

variable [ParseQuantity] {cfg : Config} {pod : PodSandbox} {ctr : Container}

omit [ParseQuantity] in
theorem injected_adjustment (cfg : Config) (ctr : Container) {memory : GPUMemoryConfig}
    (hrequest : memory.request ≠ "") (hlimit : memory.limit ≠ "") (mode : ComputeMode)
    (visibleDevices : String) :
    (adjustment cfg ctr memory mode visibleDevices).injected envGPUMemoryLimit = [memory.limit] ∧
      (adjustment cfg ctr memory mode visibleDevices).injected envGPUMemoryRequest =
        [memory.request] := by
  have h1 := allEnvKeys_unmarked envGPUMemoryRequest (by decide)
  have h2 := allEnvKeys_unmarked envGPUMemoryLimit (by decide)
  have h3 := allEnvKeys_unmarked envMPSPipeDirectory (by decide)
  have hadded : (adjustment cfg ctr memory mode visibleDevices).addedEnv =
      [⟨envGPUMemoryRequest, memory.request⟩, ⟨envGPUMemoryLimit, memory.limit⟩,
        ⟨envMPSPipeDirectory, (mpsPipeMount cfg.mpsPipeDirectory mode).2⟩] ++
      if visibleDevices = "" then [] else [⟨envVisibleDevices, visibleDevices⟩] := by
    simp [adjustment, addVisibleDevices_addedEnv, hrequest, hlimit,
      ContainerAdjustment.addedEnv_addEnv, h1, h2, h3]
  unfold ContainerAdjustment.injected
  rw [hadded]
  by_cases hdevices : visibleDevices = ""
  · simp [hdevices, envGPUMemoryLimit, envGPUMemoryRequest, envMPSPipeDirectory]
  · simp [hdevices, envGPUMemoryLimit, envGPUMemoryRequest, envMPSPipeDirectory,
      envVisibleDevices]

theorem container_of_parse (hid : ctr.id ≠ "") {memory : GPUMemoryConfig}
    (hparse : parseGPUMemoryAnnotations pod.annotations ctr.name cfg.annotationPrefix = .ok memory)
    (hempty : memory.isEmpty = false) :
    ∃ info, cfg.adapter.container (some pod) (some ctr) = some info ∧
      info.requestedMemoryMiB = memory.effectiveMemoryMiB := by
  simp [Adapter.container, hid, Adapter.isFractionalGPUContainer, Config.adapter, hparse, hempty]

/-- The hook adjusts a container exactly when its memory annotations parse to something,
and the adapter records the same containers. -/
theorem record_of_buildAdjustment (hid : ctr.id ≠ "") {adj : Option ContainerAdjustment}
    (h : buildAdjustment cfg pod ctr = .ok adj) :
    (cfg.adapter.container (some pod) (some ctr) = none ∧ adj = none) ∨
      ∃ memory mode visibleDevices info,
        parseGPUMemoryAnnotations pod.annotations ctr.name cfg.annotationPrefix = .ok memory ∧
        memory.isEmpty = false ∧
        adj = some (adjustment cfg ctr memory.applyDefaults mode visibleDevices) ∧
        cfg.adapter.container (some pod) (some ctr) = some info ∧
        info.requestedMemoryMiB = memory.effectiveMemoryMiB := by
  unfold buildAdjustment at h
  cases hparse : parseGPUMemoryAnnotations pod.annotations ctr.name cfg.annotationPrefix with
  | error err =>
    simp only [hparse] at h
    split_ifs at h
    refine .inl ⟨?_, (Except.ok.inj h).symm⟩
    simp [Adapter.container, hid, Adapter.isFractionalGPUContainer, Config.adapter, hparse]
  | ok memory =>
    simp only [hparse] at h
    by_cases hempty : memory.isEmpty = true
    · rw [if_pos hempty] at h
      refine .inl ⟨?_, (Except.ok.inj h).symm⟩
      simp [Adapter.container, hid, Adapter.isFractionalGPUContainer, Config.adapter, hparse,
        hempty]
    · rw [if_neg hempty] at h
      have hadj : ∃ mode, adj = some (adjustment cfg ctr memory.applyDefaults mode
          (parseVisibleDevices pod.annotations ctr.name cfg.annotationPrefix)) := by
        split at h
        · exact ⟨_, (Except.ok.inj h).symm⟩
        · split_ifs at h
          exact ⟨_, (Except.ok.inj h).symm⟩
      obtain ⟨mode, hadj⟩ := hadj
      have hset := Bool.eq_false_iff.mpr hempty
      obtain ⟨info, hrecord, hmemory⟩ := container_of_parse hid hparse hset
      exact .inr ⟨memory, mode, _, info, rfl, hset, hadj, hrecord, hmemory⟩

theorem event_createContainer {adj : Option ContainerAdjustment}
    (h : buildAdjustment cfg pod ctr = .ok adj) :
    Callback.event cfg (.createContainer pod ctr) =
      some (.upsert (cfg.adapter.container (some pod) (some ctr))) := by
  simp [Callback.event, h]

/-- The cap a container gets and the memory recorded for it are the same number of
MiB, its annotated bytes rounded up. -/
theorem memory_cap_is_recorded (hvalues : ValuesInInt64) (cfg : Config) (pod : PodSandbox)
    (ctr : Container) (hid : ctr.id ≠ "") :
    (∀ err, buildAdjustment cfg pod ctr = .error err →
      Callback.event cfg (.createContainer pod ctr) = none) ∧
    (∀ adj, buildAdjustment cfg pod ctr = .ok adj →
      ∃ record, Callback.event cfg (.createContainer pod ctr) = some (.upsert record) ∧
        (record.isSome ↔ adj.isSome)) ∧
    (∀ adj, buildAdjustment cfg pod ctr = .ok (some adj) →
      ∃ info q, Callback.event cfg (.createContainer pod ctr) = some (.upsert (some info)) ∧
        adj.injected envGPUMemoryLimit = [GoStrconv.formatInt info.requestedMemoryMiB] ∧
        (∃ b, annotationBytes pod.annotations
            (capKey pod.annotations cfg.annotationPrefix ctr.name) = some b ∧
          RoundsUp b info.requestedMemoryMiB) ∧
        adj.injected envGPUMemoryRequest = [GoStrconv.formatInt q] ∧
        ((pod.annotations (requestKey cfg.annotationPrefix ctr.name)).isSome →
          ∃ b, annotationBytes pod.annotations (requestKey cfg.annotationPrefix ctr.name) =
              some b ∧ RoundsUp b q) ∧
        (pod.annotations (requestKey cfg.annotationPrefix ctr.name) = none →
          q = info.requestedMemoryMiB)) := by
  refine ⟨?_, ?_, ?_⟩
  · intro err herr
    simp [Callback.event, herr]
  · intro adj hadj
    refine ⟨_, event_createContainer hadj, ?_⟩
    rcases record_of_buildAdjustment hid hadj with ⟨hrecord, hnone⟩ |
      ⟨memory, mode, devices, info, -, -, hsome, hrecord, -⟩
    · simp [hrecord, hnone]
    · simp [hrecord, hsome]
  · intro adj hadj
    rcases record_of_buildAdjustment hid hadj with ⟨-, hnone⟩ |
      ⟨memory, mode, devices, info, hparse, hempty, hsome, hrecord, hmemory⟩
    · cases hnone
    · obtain ⟨m, q, hsettled⟩ := exists_settled hvalues hparse hempty
      obtain ⟨hrequest, hlimit⟩ := GPUMemoryConfig.applyDefaults_nonempty hempty
      have hinjected := injected_adjustment cfg ctr hrequest hlimit mode devices
      have hm : info.requestedMemoryMiB = m := hmemory.trans hsettled.effective
      rw [← Option.some.inj hsome, hsettled.limit, hsettled.request] at hinjected
      refine ⟨info, q, ?_, ?_, ?_, hinjected.2, hsettled.request_of_isSome, ?_⟩
      · rw [event_createContainer hadj, hrecord]
      · rw [hm]
        exact hinjected.1
      · rw [hm]
        exact hsettled.cap
      · rw [hm]
        exact hsettled.request_of_none

end Hook

/-- The trainer is capped at, and recorded with, 1024 MiB. -/
theorem memory_cap_is_recorded_trainer :
    @ValuesInInt64 gibQuantities ∧ trainerContainer.id ≠ "" ∧
      ∃ adj info q, @buildAdjustment gibQuantities defaultConfig trainerPod trainerContainer =
          .ok (some adj) ∧
        @Callback.event gibQuantities defaultConfig
          (.createContainer trainerPod trainerContainer) = some (.upsert (some info)) ∧
        adj.injected envGPUMemoryLimit = [GoStrconv.formatInt info.requestedMemoryMiB] ∧
        adj.injected envGPUMemoryRequest = [GoStrconv.formatInt q] ∧
        q = info.requestedMemoryMiB := by
  have hvalues : @ValuesInInt64 gibQuantities := by
    intro s b h
    change (if s = "1Gi" then some (2 ^ 30) else if s = "2Gi" then some (2 ^ 31) else none) =
      some b at h
    split_ifs at h <;> cases h <;> decide
  have hid : trainerContainer.id ≠ "" := by decide
  obtain ⟨adj, hadj⟩ : ∃ adj, @buildAdjustment gibQuantities defaultConfig trainerPod
      trainerContainer = .ok (some adj) := ⟨_, rfl⟩
  obtain ⟨info, q, hevent, hlimit, -, hrequest, -, hq⟩ :=
    (@memory_cap_is_recorded gibQuantities hvalues defaultConfig trainerPod trainerContainer
      hid).2.2 adj hadj
  exact ⟨hvalues, hid, adj, info, q, hadj, hevent, hlimit, hrequest, hq (by decide)⟩

end GpuFractioning.Fractiond
