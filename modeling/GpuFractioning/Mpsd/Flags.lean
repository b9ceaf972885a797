import GpuFractioning.Fractiond.Flags

/-!
# The command line of mpsd

`fractioning-manager/mpsd/cmd/flags.go`. Every flag has a variable of the
environment for its default.
-/

namespace GpuFractioning.Mpsd

def defaultMPSBinary : String := "/usr/bin/nvidia-cuda-mps-control"
def defaultMPSControlPort : String := "3"
def defaultMPSConfigPath : String := "/etc/nvidia-mps/mps-control.toml"
def defaultMemacctAuditLog : Bool := true
def defaultSupportSMSharing : Bool := true
def defaultMPSPipeDirectory : String := "/run/nvidia-mps"
def defaultLogDir : String := "/var/log/nvidia-mps"

/-- Nanoseconds. -/
def defaultBackoff : ℤ := 5 * 10 ^ 9

def defaultMaxRetries : ℤ := 5

/-- Nanoseconds. -/
def defaultStableThreshold : ℤ := 5 * 60 * 10 ^ 9

/-- Nanoseconds. -/
def defaultGracefulStopDelay : ℤ := 60 * 10 ^ 9

/-- `cliFlags`, with durations in nanoseconds. -/
structure CliFlags where
  mpsBinary : String
  controlPort : String
  configPath : String
  memacctAuditLog : Bool
  supportSMSharing : Bool
  pipeDir : String
  logDir : String
  logLevel : String
  backoff : ℤ
  maxRetries : ℤ
  stableThreshold : ℤ
  gracefulStopDelay : ℤ
  deriving DecidableEq, Repr

/-- The values of the flags that are not passed. -/
def defaultFlags (getenv : Getenv) : CliFlags :=
  { mpsBinary := envString getenv "MPS_CONTROL_BINARY" defaultMPSBinary
    controlPort := envString getenv "MPS_CONTROL_PORT" defaultMPSControlPort
    configPath := envString getenv "MPS_CONFIG_PATH" defaultMPSConfigPath
    memacctAuditLog := envBool getenv "MPS_MEMACCT_AUDIT_LOG" defaultMemacctAuditLog
    supportSMSharing := envBool getenv "MPS_SUPPORT_SM_SHARING" defaultSupportSMSharing
    pipeDir := envString getenv "CUDA_MPS_PIPE_DIRECTORY" defaultMPSPipeDirectory
    logDir := envString getenv "CUDA_MPS_LOG_DIRECTORY" defaultLogDir
    logLevel := envString getenv "LOG_LEVEL" "info"
    backoff := envDuration getenv "MPS_RESTART_BACKOFF" defaultBackoff
    maxRetries := envInt getenv "MPS_MAX_RETRIES" defaultMaxRetries
    stableThreshold := envDuration getenv "MPS_STABLE_THRESHOLD" defaultStableThreshold
    gracefulStopDelay := envDuration getenv "MPS_GRACEFUL_STOP_DELAY" defaultGracefulStopDelay }

/-- The variables that the defaults are read from. -/
def environmentKeys : List String :=
  ["MPS_CONTROL_BINARY", "MPS_CONTROL_PORT", "MPS_CONFIG_PATH", "MPS_MEMACCT_AUDIT_LOG",
    "MPS_SUPPORT_SM_SHARING", "CUDA_MPS_PIPE_DIRECTORY", "CUDA_MPS_LOG_DIRECTORY", "LOG_LEVEL",
    "MPS_RESTART_BACKOFF", "MPS_MAX_RETRIES", "MPS_STABLE_THRESHOLD", "MPS_GRACEFUL_STOP_DELAY"]

def flagSet : List (GoFlag.Flag CliFlags) :=
  [.stringVar "mps-binary" fun v f => { f with mpsBinary := v },
    .stringVar "mps-control-port" fun v f => { f with controlPort := v },
    .stringVar "mps-config-path" fun v f => { f with configPath := v },
    .boolVar "memacct-audit-log" fun v f => { f with memacctAuditLog := v },
    .boolVar "support-sm-sharing" fun v f => { f with supportSMSharing := v },
    .stringVar "pipe-dir" fun v f => { f with pipeDir := v },
    .stringVar "log-dir" fun v f => { f with logDir := v },
    .stringVar "log-level" fun v f => { f with logLevel := v },
    .durationVar "backoff" fun v f => { f with backoff := v },
    .intVar "max-retries" fun v f => { f with maxRetries := v },
    .durationVar "stable-threshold" fun v f => { f with stableThreshold := v },
    .durationVar "graceful-stop-delay" fun v f => { f with gracefulStopDelay := v }]

/-- `parseFlags`; on an error the process exits. -/
def parseFlags (getenv : Getenv) (args : List String) : Except GoFlag.ParseError CliFlags :=
  (GoFlag.parse flagSet args (defaultFlags getenv)).map Prod.fst

end GpuFractioning.Mpsd
