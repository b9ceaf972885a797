import GpuFractioning.Lib.FiniteMap
import GpuFractioning.Mpsd.ControlConfig
import GpuFractioning.Mpsd.Flags
import GpuFractioning.Supervision

/-!
# The files of the MPS control daemon

What `Supervisor.Run` of `mpsd/internal/supervisor.go` does to the file system
around the runs of the control daemon, and the settings that `main` makes of the
flags. When the loop starts the daemon again is the matter of `Supervision`.
-/

namespace GpuFractioning.Mpsd

open RetryLoop (Round Status)

section Source

/-- The fixed name of the socket in the pipe directory. -/
def mpsControlSocket : String := "control"

def defaultMemacctEnabled : Bool := true
def defaultContextShareEnabled : Bool := true
def defaultContextShareDefaultSocket : String := "off"
def defaultSharedServerName : String := "shared"

/-- `SupervisorConfig` without its writers. -/
structure SupervisorSettings extends SupervisorConfig where
  mpsBinary : String
  controlPort : String
  configPath : String
  configContent : String
  multiuser : Bool
  pipeDir : String
  logDir : String
  gracefulStopDelay : ℤ

/-- The configuration that `main` renders. -/
def CliFlags.mpsConfig (flags : CliFlags) : MPSConfig :=
  let mpsConfig : MPSConfig :=
    { memacctEnabled := defaultMemacctEnabled
      memacctAuditLog := flags.memacctAuditLog
      contextShareEnabled := false
      contextShareDefaultSocket := ""
      sharedServerName := "" }
  if flags.supportSMSharing then
    { mpsConfig with
      contextShareEnabled := defaultContextShareEnabled
      contextShareDefaultSocket := defaultContextShareDefaultSocket
      sharedServerName := defaultSharedServerName }
  else mpsConfig

/-- The settings that `main` passes to `NewSupervisor`. -/
def CliFlags.settings (flags : CliFlags) : SupervisorSettings :=
  { mpsBinary := flags.mpsBinary
    controlPort := flags.controlPort
    configPath := flags.configPath
    configContent := flags.mpsConfig.TOML
    multiuser := flags.supportSMSharing
    pipeDir := flags.pipeDir
    logDir := flags.logDir
    backoff := flags.backoff
    maxRetries := flags.maxRetries
    stableThreshold := flags.stableThreshold
    gracefulStopDelay := flags.gracefulStopDelay }

/-- What stands at a path. -/
inductive Entry where
  | file (content : String)
  | socket
  deriving DecidableEq, Repr

/-- The files that the container sees, by their cleaned paths. -/
abbrev Files := FiniteMap String Entry

def Files.entry (files : Files) (path : String) : Option Entry := files.lookup (GoPath.clean path)

/-- The errors of the calls of `setup`, where that of `os.Remove` is another than that there is
no such file. -/
structure SetupErrors where
  mkdirPipe : Option String
  mkdirLog : Option String
  mkdirConfig : Option String
  writeFile : Option String
  remove : Option String

/-- A round of the loop with what becomes of the files in it. The directories are shared with
the host, so that others than the daemon may reach them. -/
structure DaemonRound extends Round where
  /-- Until the daemon has exited. -/
  leaves : Files → Files
  remove : Option String
  /-- In the wait before the next start. -/
  meanwhile : Files → Files

namespace SupervisorSettings

variable (s : SupervisorSettings)

def controlSocket : String := GoPath.join [s.pipeDir, mpsControlSocket]

/-- An error is only logged. -/
def removeStaleSocket (err : Option String) (files : Files) : Files :=
  match err with
  | some _ => files
  | none => files.erase (GoPath.clean s.controlSocket)

def writeConfig (errs : SetupErrors) (files : Files) : Except String Files :=
  if s.configPath = "" ∨ s.configContent = "" then .ok files
  else
    match errs.mkdirConfig with
    | some err => .error ("creating MPS config directory: " ++ err)
    | none =>
      match errs.writeFile with
      | some err => .error ("writing MPS config " ++ GoText.quote s.configPath ++ ": " ++ err)
      | none => .ok (files.insert (GoPath.clean s.configPath) (.file s.configContent))

def setup (errs : SetupErrors) (files : Files) : Except String Files :=
  match errs.mkdirPipe with
  | some err => .error ("creating directory " ++ GoText.quote s.pipeDir ++ ": " ++ err)
  | none =>
    match errs.mkdirLog with
    | some err => .error ("creating directory " ++ GoText.quote s.logDir ++ ": " ++ err)
    | none => (s.writeConfig errs files).map (s.removeStaleSocket errs.remove)

/-- The loop of `Run`, with the error of its own `setup`. -/
def run (errs : SetupErrors) (files : Files) (rounds : ℕ → DaemonRound) : ℕ → Status :=
  let setupErr := match s.setup errs files with
    | .error err => some err
    | .ok _ => none
  Supervisor.run s.toSupervisorConfig setupErr fun n => (rounds n).toRound

/-- The files as the rounds leave them, one after the other. -/
def filesAt (prepared : Files) (rounds : ℕ → DaemonRound) : ℕ → Files
  | 0 => prepared
  | n + 1 =>
    let left := (rounds n).leaves (filesAt prepared rounds n)
    (rounds n).meanwhile (s.removeStaleSocket (rounds n).remove left)

/-- The files that the daemon finds in a round, if it is started in it. -/
def startAt (errs : SetupErrors) (files : Files) (rounds : ℕ → DaemonRound) (n : ℕ) :
    Option Files :=
  match s.run errs files rounds n, s.setup errs files with
  | .looping _, .ok prepared => some (s.filesAt prepared rounds n)
  | _, _ => none

/-- The arguments that `runMPS` starts the daemon with. -/
def args : List String := buildMPSArgs s.controlPort s.configPath s.multiuser

/-- The environment that `runMPS` starts the daemon with. -/
def env (environ : List String) : List String :=
  environ ++ ["CUDA_MPS_PIPE_DIRECTORY=" ++ s.pipeDir, "CUDA_MPS_LOG_DIRECTORY=" ++ s.logDir]

end SupervisorSettings

end Source

section Starts

variable {s : SupervisorSettings} {errs : SetupErrors} {files₀ files : Files}
  {rounds : ℕ → DaemonRound} {n : ℕ}

/-- Nobody else changes the configuration, or binds the socket while the daemon is down. -/
structure SupervisorSettings.Undisturbed (s : SupervisorSettings) (rounds : ℕ → DaemonRound) :
    Prop where
  config : ∀ n files, ((rounds n).leaves files).entry s.configPath = files.entry s.configPath
  config_wait : ∀ n files,
    ((rounds n).meanwhile files).entry s.configPath = files.entry s.configPath
  socket_wait : ∀ n files,
    ((rounds n).meanwhile files).entry s.controlSocket = files.entry s.controlSocket

/-- The error of the removal that comes before a start. -/
def removalBefore (errs : SetupErrors) (rounds : ℕ → DaemonRound) : ℕ → Option String
  | 0 => errs.remove
  | n + 1 => (rounds n).remove

theorem startAt_eq_some (h : s.startAt errs files₀ rounds n = some files) :
    ∃ prepared, s.setup errs files₀ = .ok prepared ∧ s.filesAt prepared rounds n = files := by
  unfold SupervisorSettings.startAt at h
  split at h
  next _ _ st prepared hrun hsetup =>
    cases h
    exact ⟨prepared, hsetup, rfl⟩
  next => cases h

theorem setup_eq_ok (h : s.setup errs files₀ = .ok files) :
    ∃ written, s.writeConfig errs files₀ = .ok written ∧
      files = s.removeStaleSocket errs.remove written := by
  unfold SupervisorSettings.setup at h
  split at h
  · cases h
  · split at h
    · cases h
    · cases hwritten : s.writeConfig errs files₀ with
      | error err =>
        rw [hwritten] at h
        cases h
      | ok written =>
        rw [hwritten] at h
        cases h
        exact ⟨written, rfl, rfl⟩

theorem entry_of_writeConfig (hpath : s.configPath ≠ "") (hcontent : s.configContent ≠ "")
    (h : s.writeConfig errs files₀ = .ok files) :
    files.entry s.configPath = some (.file s.configContent) := by
  unfold SupervisorSettings.writeConfig at h
  rw [if_neg (by simp [hpath, hcontent])] at h
  split at h
  · cases h
  · split at h
    · cases h
    · cases h
      rw [Files.entry, FiniteMap.lookup_insert, if_pos rfl]

theorem entry_removeStaleSocket_of_ne {path : String}
    (hne : GoPath.clean path ≠ GoPath.clean s.controlSocket) (err : Option String)
    (files : Files) : (s.removeStaleSocket err files).entry path = files.entry path := by
  cases err with
  | some err => rfl
  | none =>
    simp only [Files.entry, SupervisorSettings.removeStaleSocket, FiniteMap.lookup_erase]
    exact if_neg hne

theorem entry_controlSocket_removeStaleSocket (err : Option String) (files : Files) :
    (s.removeStaleSocket err files).entry s.controlSocket = none ∨ err ≠ none := by
  cases err with
  | some err => exact .inr (Option.some_ne_none err)
  | none =>
    left
    simp only [Files.entry, SupervisorSettings.removeStaleSocket, FiniteMap.lookup_erase]
    exact if_pos trivial

/-- The configuration that the daemon is started with is the rendered one, in every round. -/
theorem entry_configPath_of_startAt (hpath : s.configPath ≠ "") (hcontent : s.configContent ≠ "")
    (hne : GoPath.clean s.configPath ≠ GoPath.clean s.controlSocket)
    (hcalm : s.Undisturbed rounds) (h : s.startAt errs files₀ rounds n = some files) :
    files.entry s.configPath = some (.file s.configContent) := by
  obtain ⟨prepared, hsetup, rfl⟩ := startAt_eq_some h
  obtain ⟨written, hwritten, rfl⟩ := setup_eq_ok hsetup
  clear h
  induction n with
  | zero =>
    rw [SupervisorSettings.filesAt, entry_removeStaleSocket_of_ne hne]
    exact entry_of_writeConfig hpath hcontent hwritten
  | succ n ih =>
    rw [SupervisorSettings.filesAt, hcalm.config_wait, entry_removeStaleSocket_of_ne hne,
      hcalm.config]
    exact ih

theorem entry_controlSocket_of_startAt (hcalm : s.Undisturbed rounds)
    (h : s.startAt errs files₀ rounds n = some files) :
    files.entry s.controlSocket = none ∨ removalBefore errs rounds n ≠ none := by
  obtain ⟨prepared, hsetup, rfl⟩ := startAt_eq_some h
  obtain ⟨written, -, rfl⟩ := setup_eq_ok hsetup
  -- The last removal decides, so there is nothing to carry from one round to the next.
  cases n with
  | zero => exact entry_controlSocket_removeStaleSocket errs.remove written
  | succ n =>
    rw [SupervisorSettings.filesAt, hcalm.socket_wait]
    exact entry_controlSocket_removeStaleSocket (rounds n).remove _

end Starts

end GpuFractioning.Mpsd
