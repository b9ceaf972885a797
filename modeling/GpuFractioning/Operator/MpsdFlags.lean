import GpuFractioning.Mpsd.Supervisor
import GpuFractioning.Operator.FractiondFlags
import GpuFractioning.Operator.MpsdDaemon

/-!
# What the operator passes to mpsd and what mpsd reads

The arguments of `buildArgs` and the variables of the pod template are decoded by
`cmd/flags.go` of mpsd. The result is compared with the pod that mpsd runs in: its
mounts, its probes and the time it is given to end.
-/

namespace GpuFractioning.Operator

open Mpsd (CliFlags)

section Environment

/-- What a process of the container finds in its environment: the values of the template, and
of the other variables that it reads none. -/
structure Container.Provides (c : Container) (keys : List String) (getenv : Getenv) : Prop where
  set : ∀ v ∈ c.env, ∀ value, v.source = .value value → getenv v.name = value
  unset : ∀ key ∈ keys, key ∉ c.env.map EnvVar.name → getenv key = ""

/-- The environment that has the values of the template and nothing else. -/
def Container.templateEnv (c : Container) : Getenv := fun key =>
  match c.env.find? fun v => v.name = key with
  | some ⟨_, .value value⟩ => value
  | _ => ""

theorem Container.provides_templateEnv {c : Container} (hnodup : (c.env.map EnvVar.name).Nodup)
    (keys : List String) : c.Provides keys c.templateEnv := by
  constructor
  · intro v hv value hvalue
    have hfind : c.env.find? (fun w => w.name = v.name) = some v := by
      rw [List.find?_eq_some_iff_append]
      obtain ⟨before, after, hsplit⟩ := List.append_of_mem hv
      rw [hsplit, List.map_append, List.map_cons, List.nodup_append] at hnodup
      refine ⟨by simp, before, after, hsplit, ?_⟩
      intro w hw
      have hne := hnodup.2.2 w.name (List.mem_map_of_mem hw) v.name List.mem_cons_self
      simpa using hne
    obtain ⟨name, source⟩ := v
    cases hvalue
    simp only [templateEnv, hfind]
  · intro key _ hkey
    have hfind : c.env.find? (fun w => w.name = key) = none := by
      rw [List.find?_eq_none]
      intro w hw
      simp only [decide_eq_true_eq]
      rintro rfl
      exact hkey (List.mem_map_of_mem hw)
    simp only [templateEnv, hfind]

theorem envBool_formatBool {getenv : Getenv} {key : String} {b : Bool}
    (h : getenv key = formatBool b) (fallback : Bool) : envBool getenv key fallback = b := by
  have hne : formatBool b ≠ "" := by cases b <;> decide
  rw [envBool, h, if_neg hne, parseBool_formatBool, Option.getD_some]

end Environment

section Decoding

/-- The values that the types of the fields hold. -/
structure MpsDaemonSpec.InRange (spec : MpsDaemonSpec) : Prop where
  backoff : ∀ d ∈ spec.backoff, GoStrconv.minInt64 ≤ d ∧ d ≤ GoStrconv.maxInt64
  maxRetries : ∀ n ∈ spec.maxRetries, -2 ^ 31 ≤ n ∧ n < 2 ^ 31
  stableThreshold : ∀ d ∈ spec.stableThreshold, GoStrconv.minInt64 ≤ d ∧ d ≤ GoStrconv.maxInt64
  gracefulStopDelay :
    ∀ d ∈ spec.gracefulStopDelay, GoStrconv.minInt64 ≤ d ∧ d ≤ GoStrconv.maxInt64

/-- The flags with the fields of a spec that are set. -/
def MpsDaemonSpec.onto (spec : MpsDaemonSpec) (f : CliFlags) : CliFlags :=
  { f with
    logLevel := if spec.logLevel = "" then f.logLevel else spec.logLevel
    backoff := spec.backoff.getD f.backoff
    maxRetries := spec.maxRetries.getD f.maxRetries
    stableThreshold := spec.stableThreshold.getD f.stableThreshold
    gracefulStopDelay := spec.gracefulStopDelay.getD f.gracefulStopDelay }

namespace MpsdDaemon.Daemon

def InRange (d : Daemon) : Prop := ∀ spec ∈ d.spec, spec.InRange

/-- The flags that mpsd runs with in its pod. -/
def decoded (d : Daemon) : CliFlags :=
  let f := { Mpsd.defaultFlags (fun _ => "") with
    memacctAuditLog := d.auditLog, supportSMSharing := d.supportSMSharing }
  match d.spec with
  | none => f
  | some spec => spec.onto f

def podSpec (d : Daemon) (opts : BuildOptions) : PodSpec :=
  (d.buildDaemonSet opts).spec.template.spec

/-- The one container of the pod. -/
def container (d : Daemon) (opts : BuildOptions) : Container :=
  d.buildContainer (opts.image daemonName) (d.env opts)

theorem containers_podSpec (d : Daemon) (opts : BuildOptions) :
    (d.podSpec opts).containers = [d.container opts] := rfl

theorem notMem_env {key : String} (hkey : key ∈ Mpsd.environmentKeys)
    (haudit : key ≠ "MPS_MEMACCT_AUDIT_LOG") (hsharing : key ≠ "MPS_SUPPORT_SM_SHARING")
    (d : Daemon) (opts : BuildOptions) : key ∉ (d.container opts).env.map EnvVar.name := by
  have hothers : key ∉ ["NODE_NAME", "NVIDIA_VISIBLE_DEVICES", "NVIDIA_DRIVER_CAPABILITIES",
      "GODEBUG"] := by
    revert key
    decide
  change key ∉ (d.env opts).map EnvVar.name
  unfold env fipsOnlyEnv
  cases opts.fipsOnly <;> simp_all

theorem nodup_env (d : Daemon) (opts : BuildOptions) :
    ((d.container opts).env.map EnvVar.name).Nodup := by
  change ((d.env opts).map EnvVar.name).Nodup
  unfold env fipsOnlyEnv
  cases opts.fipsOnly
  · simp
  · simp

theorem defaultFlags_of_provides {d : Daemon} {opts : BuildOptions} {getenv : Getenv}
    (henv : (d.container opts).Provides Mpsd.environmentKeys getenv) :
    Mpsd.defaultFlags getenv = { Mpsd.defaultFlags (fun _ => "") with
      memacctAuditLog := d.auditLog, supportSMSharing := d.supportSMSharing } := by
  have haudit (fallback : Bool) : envBool getenv "MPS_MEMACCT_AUDIT_LOG" fallback = d.auditLog :=
    envBool_formatBool (henv.set ⟨_, .value (formatBool d.auditLog)⟩
      (by simp [container, buildContainer, env]) _ rfl) fallback
  have hsharing (fallback : Bool) :
      envBool getenv "MPS_SUPPORT_SM_SHARING" fallback = d.supportSMSharing :=
    envBool_formatBool (henv.set ⟨_, .value (formatBool d.supportSMSharing)⟩
      (by simp [container, buildContainer, env]) _ rfl) fallback
  have hunset (key : String) (hkey : key ∈ Mpsd.environmentKeys)
      (hne : key ≠ "MPS_MEMACCT_AUDIT_LOG" ∧ key ≠ "MPS_SUPPORT_SM_SHARING") :
      getenv key = "" := henv.unset key hkey (notMem_env hkey hne.1 hne.2 d opts)
  simp only [Mpsd.defaultFlags, haudit, hsharing]
  simp only [envString, envInt, envDuration,
    hunset "MPS_CONTROL_BINARY" (by decide) (by decide),
    hunset "MPS_CONTROL_PORT" (by decide) (by decide),
    hunset "MPS_CONFIG_PATH" (by decide) (by decide),
    hunset "CUDA_MPS_PIPE_DIRECTORY" (by decide) (by decide),
    hunset "CUDA_MPS_LOG_DIRECTORY" (by decide) (by decide),
    hunset "LOG_LEVEL" (by decide) (by decide),
    hunset "MPS_RESTART_BACKOFF" (by decide) (by decide),
    hunset "MPS_MAX_RETRIES" (by decide) (by decide),
    hunset "MPS_STABLE_THRESHOLD" (by decide) (by decide),
    hunset "MPS_GRACEFUL_STOP_DELAY" (by decide) (by decide)]

theorem reads_spec {spec : MpsDaemonSpec} (hrange : spec.InRange) :
    GoFlag.Reads Mpsd.flagSet
      (stringFlag "--log-level" spec.logLevel ++
        durationFlag "--backoff" spec.backoff ++
        intFlag "--max-retries" spec.maxRetries ++
        durationFlag "--stable-threshold" spec.stableThreshold ++
        durationFlag "--graceful-stop-delay" spec.gracefulStopDelay) spec.onto := by
  have hlevel : GoFlag.Reads Mpsd.flagSet _ _ :=
    reads_stringFlag "--log-level" "log-level" CliFlags.logLevel rfl rfl (fun _ => rfl)
      spec.logLevel
  have hbackoff : GoFlag.Reads Mpsd.flagSet _ _ :=
    reads_durationFlag "--backoff" "backoff" CliFlags.backoff rfl rfl (fun _ => rfl)
      hrange.backoff
  have hretries : GoFlag.Reads Mpsd.flagSet _ _ :=
    reads_intFlag "--max-retries" "max-retries" CliFlags.maxRetries rfl rfl (fun _ => rfl)
      (int64_of_int32 hrange.maxRetries)
  have hstable : GoFlag.Reads Mpsd.flagSet _ _ :=
    reads_durationFlag "--stable-threshold" "stable-threshold" CliFlags.stableThreshold rfl rfl
      (fun _ => rfl) hrange.stableThreshold
  have hdelay : GoFlag.Reads Mpsd.flagSet _ _ :=
    reads_durationFlag "--graceful-stop-delay" "graceful-stop-delay" CliFlags.gracefulStopDelay
      rfl rfl (fun _ => rfl) hrange.gracefulStopDelay
  have hall := (((hlevel.append hbackoff).append hretries).append hstable).append hdelay
  intro rest f
  rw [hall rest f]
  cases f
  dsimp only [Function.comp, MpsDaemonSpec.onto]

theorem parseFlags_buildArgs {d : Daemon} (hrange : d.InRange) {opts : BuildOptions}
    {getenv : Getenv} (henv : (d.container opts).Provides Mpsd.environmentKeys getenv) :
    Mpsd.parseFlags getenv d.buildArgs = .ok d.decoded := by
  unfold Mpsd.parseFlags decoded buildArgs
  rw [defaultFlags_of_provides henv]
  cases hspec : d.spec with
  | none => rfl
  | some spec =>
    dsimp only
    rw [(reads_spec (hrange spec hspec)).parse]
    rfl

end MpsdDaemon.Daemon

end Decoding

section Agreement

/-- Every field that is set has its value in the flags. -/
structure MpsDaemonSpec.Carried (spec : MpsDaemonSpec) (f : CliFlags) : Prop where
  logLevel : spec.logLevel ≠ "" → f.logLevel = spec.logLevel
  backoff : ∀ d ∈ spec.backoff, f.backoff = d
  maxRetries : ∀ n ∈ spec.maxRetries, f.maxRetries = n
  stableThreshold : ∀ d ∈ spec.stableThreshold, f.stableThreshold = d
  gracefulStopDelay : ∀ d ∈ spec.gracefulStopDelay, f.gracefulStopDelay = d

namespace MpsdDaemon.Daemon

/-- The flags fit the pod and the values they were rendered from. -/
structure Agrees (d : Daemon) (opts : BuildOptions) (f : CliFlags) : Prop where
  pipeDir : (d.podSpec opts).MountsVolume daemonName volumeMPSPipe f.pipeDir
  logDir : (d.podSpec opts).MountsVolume daemonName volumeMPSLog f.logDir
  /-- The probes look for the socket that the supervisor removes before a start. -/
  probes : ∀ c ∈ (d.podSpec opts).containers,
    c.readinessProbe.handler = .exec ["test", "-S", f.settings.controlSocket] ∧
      c.livenessProbe.handler = .exec ["test", "-S", f.settings.controlSocket]
  /-- The pod is not killed before the control daemon has had its time to quit. -/
  grace : ∃ seconds ∈ (d.podSpec opts).terminationGracePeriodSeconds,
    f.settings.gracefulStopDelay ≤ seconds * 10 ^ 9
  auditLog : f.mpsConfig.memacctAuditLog = d.auditLog
  supportSMSharing : f.supportSMSharing = d.supportSMSharing
  carried : ∀ spec ∈ d.spec, spec.Carried f

/-- The delay that the spec sets, or else the default of both programs. -/
def gracefulStopDelay (d : Daemon) : ℤ :=
  (d.spec.bind MpsDaemonSpec.gracefulStopDelay).getD defaultGracefulStopDelay

theorem gracefulStopDelay_decoded (d : Daemon) :
    d.decoded.gracefulStopDelay = d.gracefulStopDelay := by
  unfold decoded gracefulStopDelay
  cases d.spec with
  | none => rfl
  | some spec => rfl

theorem gracefulStopDelay_bounds {d : Daemon} (hrange : d.InRange) :
    GoStrconv.minInt64 ≤ d.gracefulStopDelay ∧ d.gracefulStopDelay ≤ GoStrconv.maxInt64 := by
  unfold gracefulStopDelay
  cases hdelay : d.spec.bind MpsDaemonSpec.gracefulStopDelay with
  | none => decide
  | some delay =>
    obtain ⟨spec, hspec, hset⟩ := Option.bind_eq_some_iff.mp hdelay
    exact (hrange spec hspec).gracefulStopDelay delay hset

/-- The sum of the delay and the buffer wraps just when it passes the largest duration, and
the grace is then negative. -/
theorem covers_iff {d : Daemon} (hrange : d.InRange) :
    d.gracefulStopDelay ≤ d.terminationGraceSeconds * 10 ^ 9 ↔
      d.gracefulStopDelay + terminationGraceBuffer ≤ GoStrconv.maxInt64 := by
  obtain ⟨hmin, hmax⟩ := gracefulStopDelay_bounds hrange
  change d.gracefulStopDelay ≤ GoDuration.wholeSeconds
    ((d.gracefulStopDelay + terminationGraceBuffer).bmod (2 ^ 64)) * 10 ^ 9 ↔ _
  generalize d.gracefulStopDelay = delay at *
  have hlow : GoStrconv.minInt64 ≤ (delay + terminationGraceBuffer).bmod (2 ^ 64) :=
    Int.le_bmod (by norm_num)
  have hhigh : (delay + terminationGraceBuffer).bmod (2 ^ 64) ≤ GoStrconv.maxInt64 :=
    Int.le_of_lt_add_one (Int.bmod_lt (by norm_num))
  obtain ⟨hfloor, hceil⟩ := GoDuration.wholeSeconds_bounds hlow hhigh
  generalize GoDuration.wholeSeconds _ = grace at *
  unfold terminationGraceBuffer at *
  unfold GoStrconv.minInt64 at hmin
  unfold GoStrconv.maxInt64 at hmax ⊢
  constructor
  · intro hcovers
    by_contra hwraps
    have hmod : (delay + 15 * 10 ^ 9).bmod (2 ^ 64) = delay + 15 * 10 ^ 9 - 2 ^ 64 := by
      rw [← Int.sub_bmod_right]
      exact Int.bmod_eq_of_le (by omega) (by omega)
    rw [hmod] at hceil
    omega
  · intro hfits
    have hmod : (delay + 15 * 10 ^ 9).bmod (2 ^ 64) = delay + 15 * 10 ^ 9 :=
      Int.bmod_eq_of_le (by omega) (by omega)
    rw [hmod] at hfloor
    omega

theorem mountsVolume_of_mem {volume dir : String}
    (h : (volume, dir) ∈ [(volumeMPSPipe, defaultMPSPipeDir), (volumeMPSLog, defaultMPSLogDir)])
    (d : Daemon) (opts : BuildOptions) : (d.podSpec opts).MountsVolume daemonName volume dir := by
  refine ⟨d.container opts, by simp [containers_podSpec], rfl, ⟨⟨volume, dir, false⟩, ?_, rfl, rfl⟩,
    ⟨volume, .hostPath dir (some hostPathDirectoryOrCreate)⟩, ?_, rfl, _, rfl⟩
  · simpa [container, buildContainer] using h
  · change _ ∈ volumes
    simpa [volumes] using h

theorem carried_decoded {d : Daemon} {spec : MpsDaemonSpec} (hspec : spec ∈ d.spec) :
    spec.Carried d.decoded := by
  unfold decoded
  rw [Option.mem_def.mp hspec]
  exact
    { logLevel := fun h => if_neg h
      backoff := fun d hd => by simp [MpsDaemonSpec.onto, Option.mem_def.mp hd]
      maxRetries := fun n hn => by simp [MpsDaemonSpec.onto, Option.mem_def.mp hn]
      stableThreshold := fun d hd => by simp [MpsDaemonSpec.onto, Option.mem_def.mp hd]
      gracefulStopDelay := fun d hd => by simp [MpsDaemonSpec.onto, Option.mem_def.mp hd] }

theorem decoded_fixed (d : Daemon) :
    d.decoded.pipeDir = defaultMPSPipeDir ∧ d.decoded.logDir = defaultMPSLogDir ∧
      d.decoded.configPath = Mpsd.defaultMPSConfigPath ∧
      d.decoded.controlPort = Mpsd.defaultMPSControlPort ∧
      d.decoded.memacctAuditLog = d.auditLog ∧
      d.decoded.supportSMSharing = d.supportSMSharing := by
  unfold decoded
  cases d.spec with
  | none => exact ⟨rfl, rfl, rfl, rfl, rfl, rfl⟩
  | some spec => exact ⟨rfl, rfl, rfl, rfl, rfl, rfl⟩

theorem controlSocket_decoded (d : Daemon) :
    d.decoded.settings.controlSocket = defaultMPSPipeDir ++ "/control" := by
  change GoPath.join [d.decoded.pipeDir, Mpsd.mpsControlSocket] = _
  rw [(decoded_fixed d).1]
  decide

theorem memacctAuditLog_mpsConfig (f : CliFlags) :
    f.mpsConfig.memacctAuditLog = f.memacctAuditLog := by
  unfold CliFlags.mpsConfig
  cases f.supportSMSharing <;> rfl

/-- mpsd decodes its arguments and its environment without an error to flags that agree with
its pod exactly when the delay leaves room for the buffer that the operator adds to it. -/
theorem mpsd_agrees_iff {d : Daemon} (hrange : d.InRange) {opts : BuildOptions} {getenv : Getenv}
    (henv : (d.container opts).Provides Mpsd.environmentKeys getenv) :
    (∃ f, Mpsd.parseFlags getenv (d.container opts).args = .ok f ∧ d.Agrees opts f) ↔
      d.gracefulStopDelay + terminationGraceBuffer ≤ GoStrconv.maxInt64 := by
  obtain ⟨hpipe, hlog, -, -, haudit, hsharing⟩ := decoded_fixed d
  change (∃ f, Mpsd.parseFlags getenv d.buildArgs = .ok f ∧ d.Agrees opts f) ↔ _
  rw [parseFlags_buildArgs hrange henv, ← covers_iff hrange, ← gracefulStopDelay_decoded]
  constructor
  · rintro ⟨f, hf, hagrees⟩
    cases hf
    obtain ⟨seconds, hseconds, hcovers⟩ := hagrees.grace
    cases hseconds
    exact hcovers
  · intro hcovers
    exact ⟨_, rfl,
      { pipeDir := by
          rw [hpipe]
          exact mountsVolume_of_mem (by simp) d opts
        logDir := by
          rw [hlog]
          exact mountsVolume_of_mem (by simp) d opts
        probes := by
          intro c hc
          rw [containers_podSpec, List.mem_singleton] at hc
          rw [hc, controlSocket_decoded]
          exact ⟨rfl, rfl⟩
        grace := ⟨d.terminationGraceSeconds, rfl, hcovers⟩
        auditLog := by rw [memacctAuditLog_mpsConfig, haudit]
        supportSMSharing := hsharing
        carried := fun spec hspec => carried_decoded hspec }⟩

/-- A spec that gives the control daemon two minutes to quit. -/
def patientSpec : MpsDaemonSpec :=
  { logLevel := "debug"
    backoff := some 2500000000
    maxRetries := some 7
    stableThreshold := none
    gracefulStopDelay := some (120 * 10 ^ 9) }

theorem inRange_patientSpec (auditLog supportSMSharing : Bool) :
    InRange ⟨some patientSpec, auditLog, supportSMSharing⟩ := by
  rintro spec ⟨⟩
  constructor <;> decide

theorem mpsd_agrees_with_patientSpec :
    let d : Daemon := ⟨some patientSpec, false, true⟩
    ∃ f, Mpsd.parseFlags (d.container FractiondDaemon.Daemon.plainOptions).templateEnv
        (d.container FractiondDaemon.Daemon.plainOptions).args = .ok f ∧
      d.Agrees FractiondDaemon.Daemon.plainOptions f :=
  (mpsd_agrees_iff (inRange_patientSpec false true)
    (Container.provides_templateEnv (nodup_env _ _) _)).mpr (by decide)

end MpsdDaemon.Daemon

end Agreement

end GpuFractioning.Operator
