import GpuFractioning.Fractiond.Flags
import GpuFractioning.Operator.FractiondDaemon

/-!
# What the operator passes to fractiond and what fractiond reads

The arguments of `buildArgs` are decoded by the flag set of the binary. The
result is compared with the pod the arguments run in: its mounts and its probes.
-/

namespace GpuFractioning.Operator

open Fractiond (CliFlags)

section Rendering

variable {σ : Type} {flags : List (GoFlag.Flag σ)} (arg name : String)

theorem parseBool_formatBool (b : Bool) : GoStrconv.parseBool (formatBool b) = some b := by
  cases b <;> decide

theorem reads_formatBool {put : Bool → σ → σ}
    (htoken : ∀ b, GoFlag.token (arg ++ formatBool b) = .flag name (some (formatBool b)))
    (hflag : flags.find? (fun f => f.name = name) = some (.boolVar name put)) (b : Bool) :
    GoFlag.Reads flags [arg ++ formatBool b] (put b) := by
  refine GoFlag.reads_assigned (htoken b) hflag fun s => ?_
  change (GoStrconv.parseBool (formatBool b)).map (put · s) = _
  rw [parseBool_formatBool]
  rfl

theorem reads_onlyIf (get : σ → Bool) {put : Bool → σ → σ} {passed : Prop} [Decidable passed]
    (htoken : GoFlag.token arg = .flag name none)
    (hflag : flags.find? (fun f => f.name = name) = some (.boolVar name put))
    (hget : ∀ s, put (get s) s = s) :
    GoFlag.Reads flags (if passed then [arg] else [])
      (fun s => put (if passed then true else get s) s) := by
  by_cases hpassed : passed
  · simp only [if_pos hpassed]
    exact GoFlag.reads_switch htoken hflag rfl fun _ => rfl
  · simp only [if_neg hpassed, hget]
    exact .nil

theorem reads_stringFlag (get : σ → String) {put : String → σ → σ}
    (htoken : GoFlag.token arg = .flag name none)
    (hflag : flags.find? (fun f => f.name = name) = some (.stringVar name put))
    (hget : ∀ s, put (get s) s = s) (value : String) :
    GoFlag.Reads flags (stringFlag arg value)
      (fun s => put (if value = "" then get s else value) s) := by
  by_cases hvalue : value = ""
  · simp only [if_pos hvalue, hget, stringFlag, if_neg (not_not.mpr hvalue)]
    exact .nil
  · simp only [if_neg hvalue, stringFlag, if_pos (show value ≠ "" from hvalue)]
    exact GoFlag.reads_separate htoken hflag rfl fun _ => rfl

theorem reads_durationFlag (get : σ → ℤ) {put : ℤ → σ → σ}
    (htoken : GoFlag.token arg = .flag name none)
    (hflag : flags.find? (fun f => f.name = name) = some (.durationVar name put))
    (hget : ∀ s, put (get s) s = s) {value : Option ℤ}
    (hrange : ∀ d ∈ value, GoStrconv.minInt64 ≤ d ∧ d ≤ GoStrconv.maxInt64) :
    GoFlag.Reads flags (durationFlag arg value) (fun s => put (value.getD (get s)) s) := by
  cases value with
  | none =>
    simp only [Option.getD_none, hget]
    exact .nil
  | some d =>
    obtain ⟨hmin, hmax⟩ := hrange d rfl
    refine GoFlag.reads_separate htoken hflag rfl fun s => ?_
    change (GoDuration.parseDuration (GoText.durationString d)).map (put · s) = _
    rw [GoDuration.parseDuration_durationString hmin hmax]
    rfl

theorem reads_intFlag (get : σ → ℤ) {put : ℤ → σ → σ}
    (htoken : GoFlag.token arg = .flag name none)
    (hflag : flags.find? (fun f => f.name = name) = some (.intVar name put))
    (hget : ∀ s, put (get s) s = s) {value : Option ℤ}
    (hrange : ∀ n ∈ value, GoStrconv.minInt64 ≤ n ∧ n ≤ GoStrconv.maxInt64) :
    GoFlag.Reads flags (intFlag arg value) (fun s => put (value.getD (get s)) s) := by
  cases value with
  | none =>
    simp only [Option.getD_none, hget]
    exact .nil
  | some n =>
    obtain ⟨hmin, hmax⟩ := hrange n rfl
    refine GoFlag.reads_separate htoken hflag rfl fun s => ?_
    change (GoStrconv.parseIntBaseZero (GoStrconv.formatInt n)).map (put · s) = _
    rw [GoStrconv.parseIntBaseZero_formatInt hmin hmax]
    rfl

end Rendering

section Decoding

/-- The values that the types of the fields hold: durations are `int64`, numbers `int32`. -/
structure FractioningAgentSpec.InRange (spec : FractioningAgentSpec) : Prop where
  retryInterval :
    ∀ d ∈ spec.retryInterval, GoStrconv.minInt64 ≤ d ∧ d ≤ GoStrconv.maxInt64
  stableThreshold :
    ∀ d ∈ spec.stableThreshold, GoStrconv.minInt64 ≤ d ∧ d ≤ GoStrconv.maxInt64
  maxRetries : ∀ n ∈ spec.maxRetries, -2 ^ 31 ≤ n ∧ n < 2 ^ 31
  readinessPort : ∀ n ∈ spec.readinessPort, -2 ^ 31 ≤ n ∧ n < 2 ^ 31

theorem int64_of_int32 {value : Option ℤ} (h : ∀ n ∈ value, -2 ^ 31 ≤ n ∧ n < 2 ^ 31) :
    ∀ n ∈ value, GoStrconv.minInt64 ≤ n ∧ n ≤ GoStrconv.maxInt64 := by
  intro n hn
  have hbounds := h n hn
  unfold GoStrconv.minInt64 GoStrconv.maxInt64
  omega

/-- The flags with the fields of a spec that are set. -/
def FractioningAgentSpec.onto (spec : FractioningAgentSpec) (f : CliFlags) : CliFlags :=
  { f with
    annotationPrefix :=
      if spec.annotationPrefix = "" then f.annotationPrefix else spec.annotationPrefix
    failOpen := if spec.failOpen = some true then true else f.failOpen
    socketPath := if spec.nriSocketPath = "" then f.socketPath else spec.nriSocketPath
    logLevel := if spec.logLevel = "" then f.logLevel else spec.logLevel
    retryInterval := spec.retryInterval.getD f.retryInterval
    stableThreshold := spec.stableThreshold.getD f.stableThreshold
    maxRetries := spec.maxRetries.getD f.maxRetries
    readinessPort := spec.readinessPort.getD f.readinessPort
    retroactiveEnforcement := spec.retroactiveEnforcement
    criSocket := if spec.criSocketPath = "" then f.criSocket else spec.criSocketPath }

namespace FractiondDaemon.Daemon

/-- What the arguments of the daemon make of the defaults. -/
def decoded (d : Daemon) (opts : BuildOptions) (f : CliFlags) : CliFlags :=
  let f :=
    { f with supportSMSharing := d.supportSMSharing, injectCDIDevice := opts.nriPluginEnabled }
  match d.fractioningSpec with
  | none => f
  | some spec => spec.onto f

def InRange (d : Daemon) : Prop := ∀ spec ∈ d.fractioningSpec, spec.InRange

theorem reads_toggles (d : Daemon) (opts : BuildOptions) :
    GoFlag.Reads Fractiond.flagSet
      ["--support-sm-sharing=" ++ formatBool d.supportSMSharing,
        "--inject-cdi-device=" ++ formatBool opts.nriPluginEnabled]
      fun f => { f with
        supportSMSharing := d.supportSMSharing, injectCDIDevice := opts.nriPluginEnabled } := by
  have hsharing : GoFlag.Reads Fractiond.flagSet
      ["--support-sm-sharing=" ++ formatBool d.supportSMSharing] _ :=
    reads_formatBool _ "support-sm-sharing" (by decide) rfl _
  have hinject : GoFlag.Reads Fractiond.flagSet
      ["--inject-cdi-device=" ++ formatBool opts.nriPluginEnabled] _ :=
    reads_formatBool _ "inject-cdi-device" (by decide) rfl _
  exact hsharing.append hinject

theorem reads_spec {spec : FractioningAgentSpec} (hrange : spec.InRange) :
    GoFlag.Reads Fractiond.flagSet
      (stringFlag "--annotation-prefix" spec.annotationPrefix ++
        (if spec.failOpen = some true then ["--fail-open"] else []) ++
        stringFlag "--socket-path" spec.nriSocketPath ++
        stringFlag "--log-level" spec.logLevel ++
        durationFlag "--retry-interval" spec.retryInterval ++
        durationFlag "--stable-threshold" spec.stableThreshold ++
        intFlag "--max-retries" spec.maxRetries ++
        intFlag "--readiness-port" spec.readinessPort ++
        ["--retroactive-enforcement=" ++ formatBool spec.retroactiveEnforcement] ++
        stringFlag "--cri-socket" spec.criSocketPath) spec.onto := by
  have hannotated : GoFlag.Reads Fractiond.flagSet _ _ :=
    reads_stringFlag "--annotation-prefix" "annotation-prefix" CliFlags.annotationPrefix rfl rfl
      (fun _ => rfl) spec.annotationPrefix
  have hfailOpen : GoFlag.Reads Fractiond.flagSet
      (if spec.failOpen = some true then ["--fail-open"] else []) _ :=
    reads_onlyIf _ "fail-open" CliFlags.failOpen rfl rfl fun _ => rfl
  have hsocket : GoFlag.Reads Fractiond.flagSet _ _ :=
    reads_stringFlag "--socket-path" "socket-path" CliFlags.socketPath rfl rfl (fun _ => rfl)
      spec.nriSocketPath
  have hlevel : GoFlag.Reads Fractiond.flagSet _ _ :=
    reads_stringFlag "--log-level" "log-level" CliFlags.logLevel rfl rfl (fun _ => rfl)
      spec.logLevel
  have hretry : GoFlag.Reads Fractiond.flagSet _ _ :=
    reads_durationFlag "--retry-interval" "retry-interval" CliFlags.retryInterval rfl rfl
      (fun _ => rfl) hrange.retryInterval
  have hstable : GoFlag.Reads Fractiond.flagSet _ _ :=
    reads_durationFlag "--stable-threshold" "stable-threshold" CliFlags.stableThreshold rfl rfl
      (fun _ => rfl) hrange.stableThreshold
  have hretries : GoFlag.Reads Fractiond.flagSet _ _ :=
    reads_intFlag "--max-retries" "max-retries" CliFlags.maxRetries rfl rfl (fun _ => rfl)
      (int64_of_int32 hrange.maxRetries)
  have hport : GoFlag.Reads Fractiond.flagSet _ _ :=
    reads_intFlag "--readiness-port" "readiness-port" CliFlags.readinessPort rfl rfl
      (fun _ => rfl) (int64_of_int32 hrange.readinessPort)
  have henforcement : GoFlag.Reads Fractiond.flagSet _ _ :=
    reads_formatBool "--retroactive-enforcement=" "retroactive-enforcement" (by decide) rfl
      spec.retroactiveEnforcement
  have hcri : GoFlag.Reads Fractiond.flagSet _ _ :=
    reads_stringFlag "--cri-socket" "cri-socket" CliFlags.criSocket rfl rfl (fun _ => rfl)
      spec.criSocketPath
  have hall := ((((((((hannotated.append hfailOpen).append hsocket).append hlevel).append
    hretry).append hstable).append hretries).append hport).append henforcement).append hcri
  intro rest f
  rw [hall rest f]
  cases f
  dsimp only [Function.comp, FractioningAgentSpec.onto]

theorem reads_buildArgs {d : Daemon} (hrange : d.InRange) (opts : BuildOptions) :
    GoFlag.Reads Fractiond.flagSet (d.buildArgs opts) (d.decoded opts) := by
  have htoggles := reads_toggles d opts
  unfold buildArgs decoded
  cases hspec : d.fractioningSpec with
  | none => exact htoggles.append .nil
  | some spec => exact htoggles.append (reads_spec (hrange spec hspec))

theorem parseFlags_buildArgs {d : Daemon} (hrange : d.InRange) (opts : BuildOptions)
    (getenv : Getenv) :
    Fractiond.parseFlags getenv (d.buildArgs opts) =
      .ok (d.decoded opts (Fractiond.defaultFlags getenv)) := by
  unfold Fractiond.parseFlags
  rw [(reads_buildArgs hrange opts).parse]
  rfl

end FractiondDaemon.Daemon

end Decoding

section Agreement

/-- A container of the pod sees the directory `dir` of the host at its own path. -/
def PodSpec.MountsVolume (pod : PodSpec) (container volume dir : String) : Prop :=
  ∃ c ∈ pod.containers, c.name = container ∧
    (∃ m ∈ c.volumeMounts, m.name = volume ∧ m.mountPath = dir) ∧
    ∃ v ∈ pod.volumes, v.name = volume ∧ ∃ type, v.source = .hostPath dir type

/-- Every field that is set has its value in the flags. An empty text is one that is not
set. -/
structure FractioningAgentSpec.Carried (spec : FractioningAgentSpec) (f : CliFlags) : Prop where
  annotationPrefix : spec.annotationPrefix ≠ "" → f.annotationPrefix = spec.annotationPrefix
  failOpen : ∀ b ∈ spec.failOpen, f.failOpen = b
  nriSocketPath : spec.nriSocketPath ≠ "" → f.socketPath = spec.nriSocketPath
  retroactiveEnforcement : f.retroactiveEnforcement = spec.retroactiveEnforcement
  criSocketPath : spec.criSocketPath ≠ "" → f.criSocket = spec.criSocketPath
  logLevel : spec.logLevel ≠ "" → f.logLevel = spec.logLevel
  retryInterval : ∀ d ∈ spec.retryInterval, f.retryInterval = d
  stableThreshold : ∀ d ∈ spec.stableThreshold, f.stableThreshold = d
  maxRetries : ∀ n ∈ spec.maxRetries, f.maxRetries = n
  readinessPort : ∀ n ∈ spec.readinessPort, f.readinessPort = n

namespace FractiondDaemon.Daemon

def podSpec (d : Daemon) (opts : BuildOptions) : PodSpec :=
  (d.buildDaemonSet opts).spec.template.spec

/-- The flags fit the pod and the values they were rendered from. -/
structure Agrees (d : Daemon) (opts : BuildOptions) (f : CliFlags) : Prop where
  enforcement : f.retroactiveEnforcement = true ↔
    ∃ volume, (d.podSpec opts).MountsVolume daemonName volume (GoPath.dir f.criSocket)
  probes : ∀ c ∈ (d.podSpec opts).containers, c.name = daemonName →
    c.readinessProbe.handler = .httpGet readyzPath f.readinessPort ∧
      c.livenessProbe.handler = .tcpSocket f.readinessPort
  nriSocket : (d.podSpec opts).MountsVolume daemonName volumeNRISocket (GoPath.dir f.socketPath)
  injectCDIDevice : f.injectCDIDevice = opts.nriPluginEnabled
  supportSMSharing : f.supportSMSharing = d.supportSMSharing
  carried : ∀ spec ∈ d.fractioningSpec, spec.Carried f

/-- The directories that are mounted for another purpose than to stop containers. -/
def otherMounts (d : Daemon) : List String :=
  [d.nriSocketDir, defaultMPSPipeDir] ++ if d.metricsEnabled then [containerPodMapDir] else []

/-- The volumes of the container of fractiond, with the directory each has on both sides. -/
def fractiondVolumes (d : Daemon) : List (String × String) :=
  [(volumeNRISocket, d.nriSocketDir), (volumeMPSPipe, defaultMPSPipeDir)] ++
    (if d.retroactiveEnforcementEnabled then [(volumeCRISocket, GoPath.dir d.criSocketPath)]
      else []) ++
    if d.metricsEnabled then [(volumeMapDir, containerPodMapDir)] else []

theorem mem_containers_iff (d : Daemon) (opts : BuildOptions) (c : Container) :
    c ∈ (d.podSpec opts).containers ∧ c.name = daemonName ↔
      c = { (d.buildFractiondContainer opts).1 with
        volumeMounts := d.fractiondVolumes.map fun v => ⟨v.1, v.2, false⟩ } := by
  have hmetricsd : (d.buildMetricsdContainer opts).name ≠ daemonName := by
    change metricsdName ≠ daemonName
    decide
  have hcontainers : (d.podSpec opts).containers =
      { (d.buildFractiondContainer opts).1 with
        volumeMounts := d.fractiondVolumes.map fun v => ⟨v.1, v.2, false⟩ } ::
        if d.metricsEnabled then [d.buildMetricsdContainer opts] else [] := by
    unfold podSpec buildDaemonSet fractiondVolumes
    cases d.metricsEnabled <;> cases henforce : d.retroactiveEnforcementEnabled <;>
      simp [buildFractiondContainer, henforce, metricsSharedVolume]
  rw [hcontainers]
  constructor
  · rintro ⟨hmem, hname⟩
    rcases List.mem_cons.mp hmem with rfl | hmem
    · rfl
    · split_ifs at hmem
      · rw [List.mem_singleton.mp hmem] at hname
        exact absurd hname hmetricsd
      · cases hmem
  · rintro rfl
    exact ⟨List.mem_cons_self, rfl⟩

theorem exists_volume {d : Daemon} {volume dir : String}
    (h : (volume, dir) ∈ d.fractiondVolumes) (opts : BuildOptions) :
    ∃ v ∈ (d.podSpec opts).volumes, v.name = volume ∧ ∃ type, v.source = .hostPath dir type := by
  have hvolumes : (d.podSpec opts).volumes =
      ([⟨volumeNRISocket, .hostPath d.nriSocketDir none⟩,
        ⟨volumeMPSPipe, .hostPath defaultMPSPipeDir none⟩] ++
        if d.retroactiveEnforcementEnabled then
          [⟨volumeCRISocket,
            .hostPath (GoPath.dir d.criSocketPath) (some hostPathDirectoryOrCreate)⟩]
        else []) ++
        if d.metricsEnabled then
          metricsSharedVolume.1 :: ((d.metricsSpec.map MetricsAgentSpec.volumes).getD [])
        else [] := rfl
  have hsource (type : Option String)
      (hv : ⟨volume, .hostPath dir type⟩ ∈ (d.podSpec opts).volumes) :
      ∃ v ∈ (d.podSpec opts).volumes, v.name = volume ∧ ∃ type, v.source = .hostPath dir type :=
    ⟨_, hv, rfl, type, rfl⟩
  unfold fractiondVolumes at h
  rcases List.mem_append.mp h with h | hmap
  · rcases List.mem_append.mp h with hbase | hcri
    · refine hsource none ?_
      rcases List.mem_cons.mp hbase with hnri | hmps
      · cases hnri
        simp [hvolumes]
      · cases List.mem_singleton.mp hmps
        simp [hvolumes]
    · refine hsource (some hostPathDirectoryOrCreate) ?_
      split_ifs at hcri with henforce
      · cases List.mem_singleton.mp hcri
        simp [hvolumes, henforce]
      · cases hcri
  · refine hsource (some hostPathDirectoryOrCreate) ?_
    split_ifs at hmap with hmetrics
    · cases List.mem_singleton.mp hmap
      simp [hvolumes, hmetrics, metricsSharedVolume]
    · cases hmap

theorem mountsVolume_iff (d : Daemon) (opts : BuildOptions) (volume dir : String) :
    (d.podSpec opts).MountsVolume daemonName volume dir ↔ (volume, dir) ∈ d.fractiondVolumes := by
  constructor
  · rintro ⟨c, hc, hname, ⟨m, hm, rfl, rfl⟩, _⟩
    rw [(mem_containers_iff d opts c).mp ⟨hc, hname⟩] at hm
    obtain ⟨v, hv, rfl⟩ := List.mem_map.mp hm
    exact hv
  · intro hv
    obtain ⟨hc, hname⟩ := (mem_containers_iff d opts _).mpr rfl
    exact ⟨_, hc, hname, ⟨_, List.mem_map_of_mem hv, rfl, rfl⟩, exists_volume hv opts⟩

theorem dir_defaultNRISocketPath :
    GoPath.dir Fractiond.defaultNRISocketPath = defaultNRISocketDir := by
  decide

theorem nriSocketDir_eq (d : Daemon) (opts : BuildOptions) :
    d.nriSocketDir =
      GoPath.dir (d.decoded opts (Fractiond.defaultFlags fun _ => "")).socketPath := by
  unfold nriSocketDir decoded
  cases d.fractioningSpec with
  | none => exact dir_defaultNRISocketPath.symm
  | some spec =>
    by_cases hpath : spec.nriSocketPath = ""
    · simp only [FractioningAgentSpec.onto, if_pos hpath]
      exact dir_defaultNRISocketPath.symm
    · simp only [FractioningAgentSpec.onto, if_neg hpath]

theorem criSocketPath_eq (d : Daemon) (opts : BuildOptions) :
    d.criSocketPath = (d.decoded opts (Fractiond.defaultFlags fun _ => "")).criSocket := by
  unfold criSocketPath decoded
  cases d.fractioningSpec with
  | none => rfl
  | some spec => rfl

theorem readinessPort_eq (d : Daemon) (opts : BuildOptions) :
    d.readinessPort = (d.decoded opts (Fractiond.defaultFlags fun _ => "")).readinessPort := by
  unfold readinessPort decoded
  cases d.fractioningSpec with
  | none => rfl
  | some spec => rfl

theorem carried_decoded {d : Daemon} {spec : FractioningAgentSpec}
    (hspec : spec ∈ d.fractioningSpec) (opts : BuildOptions) :
    spec.Carried (d.decoded opts (Fractiond.defaultFlags fun _ => "")) := by
  have hdecoded : d.decoded opts (Fractiond.defaultFlags fun _ => "") =
      spec.onto { Fractiond.defaultFlags (fun _ => "") with
        supportSMSharing := d.supportSMSharing, injectCDIDevice := opts.nriPluginEnabled } := by
    unfold decoded
    rw [Option.mem_def.mp hspec]
  rw [hdecoded]
  exact
    { annotationPrefix := fun h => if_neg h
      failOpen := by
        intro b hb
        cases b <;> simp [FractioningAgentSpec.onto, Option.mem_def.mp hb, Fractiond.defaultFlags]
      nriSocketPath := fun h => if_neg h
      retroactiveEnforcement := rfl
      criSocketPath := fun h => if_neg h
      logLevel := fun h => if_neg h
      retryInterval := fun d hd => by simp [FractioningAgentSpec.onto, Option.mem_def.mp hd]
      stableThreshold := fun d hd => by simp [FractioningAgentSpec.onto, Option.mem_def.mp hd]
      maxRetries := fun n hn => by simp [FractioningAgentSpec.onto, Option.mem_def.mp hn]
      readinessPort := fun n hn => by simp [FractioningAgentSpec.onto, Option.mem_def.mp hn] }

theorem exists_mountsVolume_iff (d : Daemon) (opts : BuildOptions) (dir : String) :
    (∃ volume, (d.podSpec opts).MountsVolume daemonName volume dir) ↔
      dir ∈ d.otherMounts ∨
        d.retroactiveEnforcementEnabled = true ∧ dir = GoPath.dir d.criSocketPath := by
  simp only [mountsVolume_iff, fractiondVolumes, otherMounts]
  cases d.metricsEnabled <;> cases d.retroactiveEnforcementEnabled <;>
    simp [exists_or, or_assoc, or_comm, or_left_comm]

/-- The binary enforces by default, and the operator leaves the default alone only where
there is no spec. -/
theorem retroactiveEnforcement_decoded (d : Daemon) (opts : BuildOptions) :
    (d.decoded opts (Fractiond.defaultFlags fun _ => "")).retroactiveEnforcement = true ↔
      d.fractioningSpec = none ∨ d.retroactiveEnforcementEnabled = true := by
  unfold decoded retroactiveEnforcementEnabled
  cases d.fractioningSpec with
  | none => simp [Fractiond.defaultFlags, envBool]
  | some spec => simp [FractioningAgentSpec.onto]

/-- Enforcement is on in the flags exactly when the directory of its socket is mounted. -/
theorem enforcement_iff (d : Daemon) (opts : BuildOptions) :
    ((d.decoded opts (Fractiond.defaultFlags fun _ => "")).retroactiveEnforcement = true ↔
      ∃ volume, (d.podSpec opts).MountsVolume daemonName volume
        (GoPath.dir (d.decoded opts (Fractiond.defaultFlags fun _ => "")).criSocket)) ↔
      ∃ spec ∈ d.fractioningSpec, spec.retroactiveEnforcement = false →
        GoPath.dir d.criSocketPath ∉ d.otherMounts := by
  rw [exists_mountsVolume_iff, retroactiveEnforcement_decoded, ← criSocketPath_eq]
  cases hspec : d.fractioningSpec with
  | none =>
    have henabled : d.retroactiveEnforcementEnabled = false := by
      rw [retroactiveEnforcementEnabled, hspec]
    have hcri : d.criSocketPath = defaultCRISocketPath := by rw [criSocketPath, hspec]
    have hnri : d.nriSocketDir = defaultNRISocketDir := by rw [nriSocketDir, hspec]
    have hunmounted : GoPath.dir d.criSocketPath ∉ d.otherMounts := by
      rw [otherMounts, hcri, hnri]
      cases d.metricsEnabled <;> decide
    simp [henabled, hunmounted]
  | some spec =>
    have henabled : d.retroactiveEnforcementEnabled = spec.retroactiveEnforcement := by
      rw [retroactiveEnforcementEnabled, hspec]
    rw [henabled]
    cases henforce : spec.retroactiveEnforcement <;> simp [henforce]

/-- The arguments are decoded without an error to flags that agree with the pod exactly
when there is a spec which, if it turns enforcement off, keeps the CRI socket out of the
directories that are mounted anyway. -/
theorem fractiond_agrees_iff {d : Daemon} (hrange : d.InRange) (opts : BuildOptions)
    {getenv : Getenv} (hunset : ∀ key ∈ Fractiond.environmentKeys, getenv key = "") :
    (∃ f, Fractiond.parseFlags getenv (d.buildArgs opts) = .ok f ∧ d.Agrees opts f) ↔
      ∃ spec ∈ d.fractioningSpec, spec.retroactiveEnforcement = false →
        GoPath.dir d.criSocketPath ∉ d.otherMounts := by
  rw [parseFlags_buildArgs hrange, Fractiond.defaultFlags_of_unset hunset, ← enforcement_iff d opts]
  constructor
  · rintro ⟨f, hf, hagrees⟩
    cases hf
    exact hagrees.enforcement
  · intro henforcement
    refine ⟨_, rfl, ?_⟩
    exact
      { enforcement := henforcement
        probes := by
          intro c hc hname
          rw [(mem_containers_iff d opts c).mp ⟨hc, hname⟩, ← readinessPort_eq]
          exact ⟨rfl, rfl⟩
        nriSocket := by
          rw [mountsVolume_iff, ← nriSocketDir_eq]
          simp [fractiondVolumes]
        injectCDIDevice := by
          unfold decoded
          cases d.fractioningSpec <;> rfl
        supportSMSharing := by
          unfold decoded
          cases d.fractioningSpec <;> rfl
        carried := fun spec hspec => carried_decoded hspec opts }

/-- Build options without anything to schedule by. -/
def plainOptions : BuildOptions :=
  { namespace_ := "gpu-fractioning"
    nodeSelector := ∅
    tolerations := []
    serviceAccountName := "gpu-fractioning"
    runtimeClassName := none
    defaultImages := ∅
    fipsOnly := false
    nriPluginEnabled := true }

/-- Without a spec fractiond enforces by its default, and the socket it stops containers
through is not mounted. -/
theorem specless_fractiond_enforces_without_socket :
    ∃ f, Fractiond.parseFlags (fun _ => "") (buildArgs ⟨none, none, true⟩ plainOptions) = .ok f ∧
      f.retroactiveEnforcement = true ∧
      ¬∃ volume, (podSpec ⟨none, none, true⟩ plainOptions).MountsVolume daemonName volume
        (GoPath.dir f.criSocket) := by
  refine ⟨_, parseFlags_buildArgs (by rintro spec ⟨⟩) plainOptions _, by decide, ?_⟩
  rw [exists_mountsVolume_iff]
  decide

/-- A spec that sets every kind of field. -/
def fullSpec : FractioningAgentSpec :=
  { annotationPrefix := "example.com/container."
    failOpen := some true
    nriSocketPath := "/run/nri/nri.sock"
    retroactiveEnforcement := true
    criSocketPath := "/run/k3s/containerd/containerd.sock"
    logLevel := "debug"
    retryInterval := some 2500000000
    stableThreshold := none
    maxRetries := some 7
    readinessPort := some 9000 }

theorem fractiond_agrees_with_fullSpec :
    ∃ f, Fractiond.parseFlags (fun _ => "") (buildArgs ⟨some fullSpec, none, false⟩ plainOptions) =
        .ok f ∧ Agrees ⟨some fullSpec, none, false⟩ plainOptions f := by
  have hrange : InRange ⟨some fullSpec, none, false⟩ := by
    rintro spec ⟨⟩
    constructor <;> decide
  exact (fractiond_agrees_iff hrange plainOptions fun _ _ => rfl).mpr
    ⟨fullSpec, rfl, fun h => absurd h (by decide)⟩

end FractiondDaemon.Daemon

end Agreement

end GpuFractioning.Operator
