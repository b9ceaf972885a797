import GpuFractioning.Lib.GoFlag

/-!
# The command line of fractiond

`fractioning-manager/fractiond/cmd/flags.go`, with the defaults that
`pkg/env` reads from the environment.
-/

namespace GpuFractioning

section Environment

/-- `os.Getenv`, which is empty for a variable that is not set. -/
abbrev Getenv := String → String

/-- `env.String`. -/
def envString (getenv : Getenv) (key fallback : String) : String :=
  if getenv key ≠ "" then getenv key else fallback

/-- `env.Bool`. -/
def envBool (getenv : Getenv) (key : String) (fallback : Bool) : Bool :=
  if getenv key = "" then fallback else (GoStrconv.parseBool (getenv key)).getD fallback

/-- `env.Int`. -/
def envInt (getenv : Getenv) (key : String) (fallback : ℤ) : ℤ :=
  if getenv key = "" then fallback else (GoStrconv.parseInt (getenv key)).getD fallback

/-- `env.Duration`, in nanoseconds. -/
def envDuration (getenv : Getenv) (key : String) (fallback : ℤ) : ℤ :=
  if getenv key = "" then fallback else (GoDuration.parseDuration (getenv key)).getD fallback

end Environment

namespace Fractiond

def defaultNRISocketPath : String := "/var/run/nri/nri.sock"
def defaultCRISocketPath : String := "/run/containerd/containerd.sock"
def defaultReadinessPort : ℤ := 8093
def defaultPluginName : String := "gpu-fractioning"
def defaultPluginIdx : String := "10"
def defaultAnnotationPrefix : String := "nvidia.com/container."
def defaultMPSPipeDirectory : String := "/run/nvidia-mps"
def defaultMapDir : String := "/var/run/gpu-fractioning/map"

/-- `cliFlags`, with durations in nanoseconds. -/
structure CliFlags where
  pluginName : String
  pluginIdx : String
  socketPath : String
  annotationPrefix : String
  mpsPipeDir : String
  failOpen : Bool
  supportSMSharing : Bool
  injectCDIDevice : Bool
  mapDir : String
  logPodEvents : Bool
  logLevel : String
  retryInterval : ℤ
  stableThreshold : ℤ
  maxRetries : ℤ
  readinessPort : ℤ
  retroactiveEnforcement : Bool
  criSocket : String
  stopTimeout : ℤ
  deriving DecidableEq, Repr

/-- The values of the flags that are not passed. -/
def defaultFlags (getenv : Getenv) : CliFlags :=
  { pluginName := defaultPluginName
    pluginIdx := defaultPluginIdx
    socketPath := envString getenv "NRI_SOCKET_PATH" defaultNRISocketPath
    annotationPrefix := defaultAnnotationPrefix
    mpsPipeDir := defaultMPSPipeDirectory
    failOpen := false
    supportSMSharing := envBool getenv "SUPPORT_SM_SHARING" true
    injectCDIDevice := envBool getenv "INJECT_CDI_DEVICE" false
    mapDir := envString getenv "MAP_DIR" defaultMapDir
    logPodEvents := envBool getenv "LOG_POD_EVENTS" false
    logLevel := "info"
    retryInterval := 5 * 10 ^ 9
    stableThreshold := 5 * 60 * 10 ^ 9
    maxRetries := 0
    readinessPort := envInt getenv "READINESS_PORT" defaultReadinessPort
    retroactiveEnforcement := envBool getenv "RETROACTIVE_ENFORCEMENT" true
    criSocket := envString getenv "CRI_SOCKET" defaultCRISocketPath
    stopTimeout := 30 * 10 ^ 9 }

/-- The variables that override a default. -/
def environmentKeys : List String :=
  ["NRI_SOCKET_PATH", "SUPPORT_SM_SHARING", "INJECT_CDI_DEVICE", "MAP_DIR", "LOG_POD_EVENTS",
    "READINESS_PORT", "RETROACTIVE_ENFORCEMENT", "CRI_SOCKET"]

theorem defaultFlags_of_unset {getenv : Getenv} (h : ∀ key ∈ environmentKeys, getenv key = "") :
    defaultFlags getenv = defaultFlags fun _ => "" := by
  simp only [environmentKeys, List.forall_mem_cons, List.not_mem_nil, false_implies,
    implies_true, and_true] at h
  obtain ⟨hnri, hsharing, hinject, hmap, hlog, hport, henforcement, hcri⟩ := h
  simp only [defaultFlags, envString, envBool, envInt, hnri, hsharing, hinject, hmap, hlog, hport,
    henforcement, hcri]

def flagSet : List (GoFlag.Flag CliFlags) :=
  [.stringVar "plugin-name" fun v f => { f with pluginName := v },
    .stringVar "plugin-idx" fun v f => { f with pluginIdx := v },
    .stringVar "socket-path" fun v f => { f with socketPath := v },
    .stringVar "annotation-prefix" fun v f => { f with annotationPrefix := v },
    .stringVar "pipe-dir" fun v f => { f with mpsPipeDir := v },
    .boolVar "fail-open" fun v f => { f with failOpen := v },
    .boolVar "support-sm-sharing" fun v f => { f with supportSMSharing := v },
    .boolVar "inject-cdi-device" fun v f => { f with injectCDIDevice := v },
    .stringVar "map-dir" fun v f => { f with mapDir := v },
    .boolVar "log-pod-events" fun v f => { f with logPodEvents := v },
    .stringVar "log-level" fun v f => { f with logLevel := v },
    .durationVar "retry-interval" fun v f => { f with retryInterval := v },
    .durationVar "stable-threshold" fun v f => { f with stableThreshold := v },
    .intVar "max-retries" fun v f => { f with maxRetries := v },
    .intVar "readiness-port" fun v f => { f with readinessPort := v },
    .boolVar "retroactive-enforcement" fun v f => { f with retroactiveEnforcement := v },
    .stringVar "cri-socket" fun v f => { f with criSocket := v },
    .durationVar "stop-timeout" fun v f => { f with stopTimeout := v }]

/-- `parseFlags`; on an error the process exits. -/
def parseFlags (getenv : Getenv) (args : List String) : Except GoFlag.ParseError CliFlags :=
  (GoFlag.parse flagSet args (defaultFlags getenv)).map Prod.fst

end Fractiond

end GpuFractioning
