import GpuFractioning.Fractiond.Enforcement
import GpuFractioning.Mpsd.FakeMps
import GpuFractioning.Operator.MpsdFlags
import GpuFractioning.Operator.Reconcile

/-!
# The sharing of SMs across the daemons

The operator gives one toggle to fractiond and to mpsd. fractiond sends a container
to a server by the directory that it mounts, and mpsd tells the control daemon by its
arguments and its configuration file which servers there are. Nothing but the toggle
and their constants ties the two together.
-/

namespace GpuFractioning

open Operator

section Settings

/-- The configuration that `main` of fractiond makes of its flags. -/
def Fractiond.CliFlags.pluginConfig (flags : Fractiond.CliFlags) : Fractiond.PluginConfig :=
  { annotationPrefix := flags.annotationPrefix
    mpsPipeDirectory := flags.mpsPipeDir
    failOpen := flags.failOpen
    supportSMSharing := flags.supportSMSharing
    injectCDIDevice := flags.injectCDIDevice
    retroactiveEnforcement := flags.retroactiveEnforcement }

theorem printable_mpsConfig (flags : Mpsd.CliFlags) : flags.mpsConfig.Printable := by
  have hsocket : ∀ ch ∈ Mpsd.defaultContextShareDefaultSocket.toList,
      Toml.isVerbatim ch = true := List.all_eq_true.mp (by decide)
  have hserver : Toml.IsBareKey Mpsd.defaultSharedServerName := by decide
  unfold Mpsd.CliFlags.mpsConfig
  cases flags.supportSMSharing with
  | false => constructor <;> simp
  | true => exact ⟨hsocket, fun _ => hserver⟩

theorem TOML_ne_empty (c : Mpsd.MPSConfig) : c.TOML ≠ "" := by
  unfold Mpsd.MPSConfig.TOML
  simp

/-- What the control daemon makes of its arguments and of the file that they name. -/
def Mpsd.SupervisorSettings.daemonReads (s : Mpsd.SupervisorSettings) (files : Mpsd.Files) :
    Option (Mpsd.ControlArgs × Mpsd.ControlConfig) := do
  let args ← Mpsd.ControlArgs.read s.args .none
  let path ← args.configPath
  match files.entry path with
  | some (.file text) => (Mpsd.ControlConfig.read text).map fun config => (args, config)
  | _ => none

/-- The directories of the sockets that the stand-in binds when it is started instead. -/
def Mpsd.SupervisorSettings.standInDirectories (s : Mpsd.SupervisorSettings)
    (files : Mpsd.Files) : List String :=
  (Mpsd.FakeMps.sockets s.pipeDir s.args files).map GoPath.dir

/-- Both daemons of one custom resource run with the flags that they decode in their pods. -/
structure Deployed (spec : GpuFractioningConfigSpec) (auditLog sharing : Bool)
    (opts : BuildOptions) (fractiond : Fractiond.CliFlags) (mpsd : Mpsd.CliFlags) : Prop where
  fractiond_flags : ∃ d getenv, .fractiond d ∈ buildDaemons spec auditLog sharing ∧ d.InRange ∧
    (∀ key ∈ Fractiond.environmentKeys, getenv key = "") ∧
    Fractiond.parseFlags getenv (d.buildArgs opts) = .ok fractiond
  mpsd_flags : ∃ d getenv, .mpsd d ∈ buildDaemons spec auditLog sharing ∧ d.InRange ∧
    (d.container opts).Provides Mpsd.environmentKeys getenv ∧
    Mpsd.parseFlags getenv (d.container opts).args = .ok mpsd

/-- fractiond sends containers only where the control daemon serves them. -/
structure Consistent [Fractiond.ParseQuantity] (auditLog sharing : Bool) (pipeDir : String)
    (flags : Fractiond.CliFlags) (args : Mpsd.ControlArgs) (config : Mpsd.ControlConfig)
    (standIn : List String) : Prop where
  multiuser : args.multiuser = sharing
  contextShare : config.contextShareEnabled = sharing
  memacct : config.memacctEnabled = true ∧ config.memacctAuditLog = auditLog
  served : ∀ plugin pod ctr adj,
    Fractiond.newPlugin flags.pluginConfig flags.retroactiveEnforcement = .ok plugin →
    Fractiond.buildAdjustment plugin.config pod ctr = .ok (some adj) →
    ∀ m ∈ adj.mounts, m.source ∈ config.sockets pipeDir
  /-- With the toggle off neither side knows of another server than the node's own. -/
  unshared : sharing = false → config.sockets pipeDir = [pipeDir]
  /-- The stand-in makes the same directories, so that a mount has its source there too. -/
  standIn : standIn = config.sockets pipeDir

end Settings

section Restarted

/-- The daemons of a resource that only sets the delays of mpsd. -/
def patientResource : GpuFractioningConfigSpec :=
  { nodeSelector := ∅
    tolerations := []
    runtimeClassName := none
    fractioningAgent := none
    metricsAgent := none
    mpsDaemon := some MpsdDaemon.Daemon.patientSpec }

/-- The daemon binds its socket and crashes. -/
def bindAndCrash : Mpsd.DaemonRound where
  toRound := crash
  leaves := fun files => files.insert (GoPath.clean "/run/nvidia-mps/control") .socket
  remove := none
  meanwhile := id

def noSetupErrors : Mpsd.SetupErrors := ⟨none, none, none, none, none⟩

/-- A pod that asks for the shared server. -/
def sharingPod : Fractiond.PodSandbox :=
  { Fractiond.trainerPod with
    annotations := fun key =>
      if key = "nvidia.com/container.trainer.gpu-memory.limit" then some "1Gi"
      else if key = "nvidia.com/container.trainer.gpu-compute.mode" then some "sm-sharing"
      else none }

theorem undisturbed_bindAndCrash (d : MpsdDaemon.Daemon) :
    d.decoded.settings.Undisturbed fun _ => bindAndCrash := by
  have hne : GoPath.clean d.decoded.settings.configPath ≠
      GoPath.clean "/run/nvidia-mps/control" := by
    change GoPath.clean d.decoded.configPath ≠ _
    rw [(MpsdDaemon.Daemon.decoded_fixed d).2.2.1]
    decide
  constructor
  · intro n files
    simp only [Mpsd.Files.entry, bindAndCrash, FiniteMap.lookup_insert, if_neg hne]
  · exact fun n files => rfl
  · exact fun n files => rfl

theorem deployed_patientResource :
    Deployed patientResource true true FractiondDaemon.Daemon.plainOptions
      (FractiondDaemon.Daemon.decoded ⟨none, none, true⟩ FractiondDaemon.Daemon.plainOptions
        (Fractiond.defaultFlags fun _ => ""))
      (MpsdDaemon.Daemon.decoded ⟨some MpsdDaemon.Daemon.patientSpec, true, true⟩) := by
  have hbare : FractiondDaemon.Daemon.InRange ⟨none, none, true⟩ := by rintro spec ⟨⟩
  have hrange := MpsdDaemon.Daemon.inRange_patientSpec true true
  have henv := Container.provides_templateEnv
    (MpsdDaemon.Daemon.nodup_env ⟨some MpsdDaemon.Daemon.patientSpec, true, true⟩
      FractiondDaemon.Daemon.plainOptions) Mpsd.environmentKeys
  exact
    { fractiond_flags := ⟨_, fun _ => "", List.mem_cons_self, hbare, fun _ _ => rfl,
        FractiondDaemon.Daemon.parseFlags_buildArgs hbare _ _⟩
      mpsd_flags := ⟨_, _, List.mem_cons_of_mem _ List.mem_cons_self, hrange, henv,
        MpsdDaemon.Daemon.parseFlags_buildArgs hrange henv⟩ }

end Restarted

section Sharing

variable {spec : GpuFractioningConfigSpec} {auditLog sharing : Bool} {opts : BuildOptions}
  {fractiond : Fractiond.CliFlags} {mpsd : Mpsd.CliFlags}

theorem Deployed.fractiond_eq (h : Deployed spec auditLog sharing opts fractiond mpsd) :
    fractiond.mpsPipeDir = MpsdDaemon.defaultMPSPipeDir ∧
      fractiond.supportSMSharing = sharing := by
  obtain ⟨d, getenv, hd, hrange, hunset, hflags⟩ := h.fractiond_flags
  rw [FractiondDaemon.Daemon.parseFlags_buildArgs hrange,
    Fractiond.defaultFlags_of_unset hunset] at hflags
  cases hflags
  have hsharing : d.supportSMSharing = sharing := by
    simp only [buildDaemons, List.mem_cons, List.not_mem_nil, or_false, reduceCtorEq] at hd
    cases hd
    rfl
  unfold FractiondDaemon.Daemon.decoded
  cases d.fractioningSpec with
  | none => exact ⟨rfl, hsharing⟩
  | some spec => exact ⟨rfl, hsharing⟩

theorem Deployed.mpsd_eq (h : Deployed spec auditLog sharing opts fractiond mpsd) :
    mpsd.pipeDir = MpsdDaemon.defaultMPSPipeDir ∧
      mpsd.configPath = Mpsd.defaultMPSConfigPath ∧
      mpsd.controlPort = Mpsd.defaultMPSControlPort ∧
      mpsd.memacctAuditLog = auditLog ∧ mpsd.supportSMSharing = sharing := by
  obtain ⟨d, getenv, hd, hrange, henv, hflags⟩ := h.mpsd_flags
  change Mpsd.parseFlags getenv d.buildArgs = _ at hflags
  rw [MpsdDaemon.Daemon.parseFlags_buildArgs hrange henv] at hflags
  cases hflags
  simp only [buildDaemons, List.mem_cons, List.not_mem_nil, or_false, reduceCtorEq, false_or] at hd
  cases hd
  obtain ⟨hpipe, -, hfixed⟩ := MpsdDaemon.Daemon.decoded_fixed ⟨spec.mpsDaemon, auditLog, sharing⟩
  exact ⟨hpipe, hfixed⟩

theorem daemonReads_of_entry {files : Mpsd.Files} (hpath : mpsd.configPath ≠ "")
    (hfile : files.entry mpsd.configPath = some (.file mpsd.mpsConfig.TOML)) :
    mpsd.settings.daemonReads files = some
      ({ controlPort := if mpsd.controlPort = "" then none else some mpsd.controlPort
         multiuser := mpsd.supportSMSharing
         foreground := true
         configPath := some mpsd.configPath },
       { memacctEnabled := true
         memacctAuditLog := mpsd.memacctAuditLog
         contextShareEnabled := mpsd.supportSMSharing
         contextShareDefaultSocket := if mpsd.supportSMSharing then some "off" else none
         servers := if mpsd.supportSMSharing then ["shared"] else [] }) := by
  have hargs : Mpsd.ControlArgs.read mpsd.settings.args .none = some
      { controlPort := if mpsd.controlPort = "" then none else some mpsd.controlPort
        multiuser := mpsd.supportSMSharing
        foreground := true
        configPath := some mpsd.configPath } := by
    have hread := Mpsd.read_buildMPSArgs mpsd.controlPort mpsd.configPath mpsd.supportSMSharing
    rwa [if_neg hpath] at hread
  have hconfig : Mpsd.ControlConfig.read mpsd.mpsConfig.TOML = some
      { memacctEnabled := true
        memacctAuditLog := mpsd.memacctAuditLog
        contextShareEnabled := mpsd.supportSMSharing
        contextShareDefaultSocket := if mpsd.supportSMSharing then some "off" else none
        servers := if mpsd.supportSMSharing then ["shared"] else [] } := by
    rw [Mpsd.read_TOML (printable_mpsConfig mpsd)]
    unfold Mpsd.CliFlags.mpsConfig
    cases mpsd.supportSMSharing <;> rfl
  simp only [Mpsd.SupervisorSettings.daemonReads, hargs, Option.bind_eq_bind, Option.bind_some,
    hfile, hconfig, Option.map_some]

theorem standInDirectories_of_entry (h : Deployed spec auditLog sharing opts fractiond mpsd)
    {files : Mpsd.Files} (hfile : files.entry mpsd.configPath = some (.file mpsd.mpsConfig.TOML)) :
    mpsd.settings.standInDirectories files = MpsdDaemon.defaultMPSPipeDir ::
      if sharing then [GoPath.join [MpsdDaemon.defaultMPSPipeDir, "shared", "default"]]
      else [] := by
  obtain ⟨hpipe, hpath, hport, -, hsharing⟩ := h.mpsd_eq
  have hset : mpsd.configPath ≠ "" := by
    rw [hpath]
    decide
  have hargs : Mpsd.FakeMps.configPath mpsd.settings.args = mpsd.configPath := by
    apply Mpsd.FakeMps.configPath_buildMPSArgs
    change mpsd.controlPort ≠ "-a"
    rw [hport]
    decide
  have hservers : Mpsd.FakeMps.configuredServers files mpsd.configPath =
      if sharing then ["shared"] else [] := by
    rw [Mpsd.FakeMps.configuredServers_of_entry (printable_mpsConfig mpsd) hset hfile,
      Mpsd.CliFlags.mpsConfig, hsharing]
    cases sharing <;> rfl
  change (Mpsd.FakeMps.sockets mpsd.pipeDir mpsd.settings.args files).map GoPath.dir = _
  rw [Mpsd.FakeMps.sockets, hargs, hservers, hpipe]
  cases sharing <;> decide

/-- The path that fractiond appends and the name that mpsd renders are of one server. -/
theorem join_sharedMPSSocketPath :
    GoPath.join [MpsdDaemon.defaultMPSPipeDir, Fractiond.Injection.sharedMPSSocketPath] =
      GoPath.join [MpsdDaemon.defaultMPSPipeDir, Mpsd.defaultSharedServerName, "default"] := by
  decide

variable [Fractiond.ParseQuantity]

theorem mode_of_unsupported {cfg : Fractiond.Config} (hoff : cfg.supportSMSharing = false)
    {annotations : Fractiond.AnnotationMap} {name : String} {o : Fractiond.Owed}
    (h : Fractiond.owed cfg annotations name = some o) : o.mode = .timeSlicing := by
  unfold Fractiond.owed at h
  split at h
  · cases h
  · split_ifs at h
    obtain ⟨mode, hmode, rfl⟩ := Option.map_eq_some_iff.mp h
    unfold Fractiond.effectiveMode Fractiond.Annotations.parseComputeMode at hmode
    rw [hoff] at hmode
    grind

theorem source_of_buildAdjustment {cfg : Fractiond.Config} {pod : Fractiond.PodSandbox}
    {ctr : Fractiond.Container} {adj : Fractiond.ContainerAdjustment}
    (h : Fractiond.buildAdjustment cfg pod ctr = .ok (some adj)) :
    ∀ m ∈ adj.mounts, m.source = cfg.mpsPipeDirectory ∨ cfg.supportSMSharing = true ∧
      m.source = GoPath.join [cfg.mpsPipeDirectory, Fractiond.Injection.sharedMPSSocketPath] := by
  obtain ⟨o, howed, rfl⟩ := Fractiond.buildAdjustment_eq_some.mp h
  intro m hm
  rw [Fractiond.adjustment_mounts, List.mem_singleton] at hm
  rw [hm]
  cases hmode : o.mode with
  | timeSlicing => exact .inl rfl
  | smSharing =>
    cases hsupport : cfg.supportSMSharing with
    | true => exact .inr ⟨rfl, rfl⟩
    | false =>
      rw [mode_of_unsupported hsupport howed] at hmode
      cases hmode

/-- In every supervised run, whenever the control daemon is started it reads arguments and a
configuration with which it serves each directory that fractiond mounts into a container, and
it can bind its socket unless the old one could not be removed. -/
theorem mounted_sockets_are_served (h : Deployed spec auditLog sharing opts fractiond mpsd)
    {errs : Mpsd.SetupErrors} {files₀ files : Mpsd.Files} {rounds : ℕ → Mpsd.DaemonRound} {n : ℕ}
    (hcalm : mpsd.settings.Undisturbed rounds)
    (hstart : mpsd.settings.startAt errs files₀ rounds n = some files) :
    (∃ args config, mpsd.settings.daemonReads files = some (args, config) ∧
      Consistent auditLog sharing mpsd.pipeDir fractiond args config
        (mpsd.settings.standInDirectories files)) ∧
    (files.entry mpsd.settings.controlSocket = none ∨
      Mpsd.removalBefore errs rounds n ≠ none) := by
  obtain ⟨hmounted, hsupported⟩ := h.fractiond_eq
  obtain ⟨hpipe, hpath, -, haudit, hsharing⟩ := h.mpsd_eq
  have hne : GoPath.clean mpsd.configPath ≠ GoPath.clean mpsd.settings.controlSocket := by
    change _ ≠ GoPath.clean (GoPath.join [mpsd.pipeDir, Mpsd.mpsControlSocket])
    rw [hpath, hpipe]
    decide
  have hset : mpsd.configPath ≠ "" := by
    rw [hpath]
    decide
  have hfile : files.entry mpsd.configPath = some (.file mpsd.mpsConfig.TOML) :=
    Mpsd.entry_configPath_of_startAt (s := mpsd.settings) hset (TOML_ne_empty _) hne hcalm hstart
  refine ⟨⟨_, _, daemonReads_of_entry hset hfile, ?_⟩,
    Mpsd.entry_controlSocket_of_startAt hcalm hstart⟩
  rw [hsharing]
  exact
    { multiuser := rfl
      contextShare := rfl
      memacct := ⟨rfl, haudit⟩
      served := by
        intro plugin pod ctr adj hplugin hadj m hm
        obtain ⟨hcfg, -⟩ := Fractiond.newPlugin_eq_ok hplugin
        rw [hcfg] at hadj
        rcases source_of_buildAdjustment hadj m hm with hsource | ⟨hshared, hsource⟩
        · have hown : m.source = fractiond.mpsPipeDir := hsource
          rw [hown, hmounted, ← hpipe]
          exact List.mem_cons_self
        · have hon : sharing = true := hsupported.symm.trans hshared
          have hother : m.source =
              GoPath.join [fractiond.mpsPipeDir, Fractiond.Injection.sharedMPSSocketPath] := hsource
          rw [hother, hmounted, hon, hpipe, join_sharedMPSSocketPath]
          exact List.mem_cons_of_mem _ List.mem_cons_self
      unshared := by
        rintro rfl
        rfl
      standIn := by
        rw [standInDirectories_of_entry h hfile, hpipe]
        cases sharing <;> rfl }

end Sharing

/-- At its second start, after a crash that left the socket behind, the daemon serves the
container that asks to share. -/
theorem mounted_sockets_are_served_after_a_crash :
    letI := Fractiond.gibQuantities
    let flags := FractiondDaemon.Daemon.decoded ⟨none, none, true⟩
      FractiondDaemon.Daemon.plainOptions (Fractiond.defaultFlags fun _ => "")
    let mpsd := MpsdDaemon.Daemon.decoded ⟨some MpsdDaemon.Daemon.patientSpec, true, true⟩
    (∃ adj, Fractiond.buildAdjustment flags.pluginConfig.toConfig sharingPod
        Fractiond.trainerContainer = .ok (some adj) ∧
      adj.mounts.map (fun m => m.source) = ["/run/nvidia-mps/shared/default"]) ∧
    ∃ files, mpsd.settings.startAt noSetupErrors ∅ (fun _ => bindAndCrash) 1 = some files ∧
      (∃ args config, mpsd.settings.daemonReads files = some (args, config) ∧
        Consistent true true mpsd.pipeDir flags args config
          (mpsd.settings.standInDirectories files)) ∧
      (files.entry mpsd.settings.controlSocket = none ∨
        Mpsd.removalBefore noSetupErrors (fun _ => bindAndCrash) 1 ≠ none) := by
  let inst := Fractiond.gibQuantities
  have hstart : (MpsdDaemon.Daemon.decoded
      ⟨some MpsdDaemon.Daemon.patientSpec, true, true⟩).settings.startAt noSetupErrors ∅
      (fun _ => bindAndCrash) 1 = some _ := rfl
  refine ⟨⟨_, Fractiond.buildAdjustment_eq_some.mpr ⟨_, rfl, rfl⟩, by decide⟩, _, hstart, ?_⟩
  exact mounted_sockets_are_served deployed_patientResource (undisturbed_bindAndCrash _) hstart

end GpuFractioning
