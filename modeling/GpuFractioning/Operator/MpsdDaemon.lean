import GpuFractioning.Lib.GoDuration
import GpuFractioning.Operator.ManagedDaemon

/-!
# The DaemonSet of mpsd

`operator/internal/fractioningmanager/components/mpsd/mpsd.go`.
-/

namespace GpuFractioning.Operator.MpsdDaemon

def daemonName : String := "mpsd"
def defaultMPSPipeDir : String := "/run/nvidia-mps"
def defaultMPSLogDir : String := "/var/log/nvidia-mps"
def volumeMPSPipe : String := "mps-pipe"
def volumeMPSLog : String := "mps-log"

/-- Nanoseconds. -/
def defaultGracefulStopDelay : ℤ := 60 * 10 ^ 9

/-- Nanoseconds. -/
def terminationGraceBuffer : ℤ := 15 * 10 ^ 9

structure Daemon where
  spec : Option MpsDaemonSpec
  auditLog : Bool
  supportSMSharing : Bool

namespace Daemon

/-- The graceful stop delay and a buffer, in whole seconds. -/
def terminationGraceSeconds (d : Daemon) : ℤ :=
  let grace := (d.spec.bind MpsDaemonSpec.gracefulStopDelay).getD defaultGracefulStopDelay
  GoDuration.wholeSeconds ((grace + terminationGraceBuffer).bmod (2 ^ 64))

def buildArgs (d : Daemon) : List String :=
  match d.spec with
  | none => []
  | some spec =>
    stringFlag "--log-level" spec.logLevel ++
    durationFlag "--backoff" spec.backoff ++
    intFlag "--max-retries" spec.maxRetries ++
    durationFlag "--stable-threshold" spec.stableThreshold ++
    durationFlag "--graceful-stop-delay" spec.gracefulStopDelay

def controlSocketTest : List String := ["test", "-S", defaultMPSPipeDir ++ "/control"]

def buildContainer (d : Daemon) (image : ImageSpec) (env : List EnvVar) : Container :=
  { name := daemonName
    image := image.fullImage
    imagePullPolicy := image.pullPolicy
    privileged := true
    args := d.buildArgs
    readinessProbe := ⟨.exec controlSocketTest, 5, 10, 0⟩
    -- generous: mpsd's own supervisor restarts the control daemon first
    livenessProbe := ⟨.exec controlSocketTest, 60, 30, 6⟩
    resources := daemonResources "50m" "64Mi" "256Mi"
    env := env
    ports := []
    volumeMounts := [⟨volumeMPSPipe, defaultMPSPipeDir, false⟩,
      ⟨volumeMPSLog, defaultMPSLogDir, false⟩] }

def volumes : List Volume :=
  [⟨volumeMPSPipe, .hostPath defaultMPSPipeDir (some hostPathDirectoryOrCreate)⟩,
    ⟨volumeMPSLog, .hostPath defaultMPSLogDir (some hostPathDirectoryOrCreate)⟩]

def env (d : Daemon) (opts : BuildOptions) : List EnvVar :=
  [⟨"NODE_NAME", .fieldRef "spec.nodeName"⟩,
    ⟨"NVIDIA_VISIBLE_DEVICES", .value "all"⟩,
    ⟨"NVIDIA_DRIVER_CAPABILITIES", .value "compute,utility"⟩,
    ⟨"MPS_MEMACCT_AUDIT_LOG", .value (formatBool d.auditLog)⟩,
    ⟨"MPS_SUPPORT_SM_SHARING", .value (formatBool d.supportSMSharing)⟩] ++
    fipsOnlyEnv opts.fipsOnly

def buildDaemonSet (d : Daemon) (opts : BuildOptions) : DesiredDaemonSet :=
  let base := baseDaemonSet daemonName opts.namespace_
  let podSpec := base.spec.template.spec
  { base with
    spec :=
      { base.spec with
        template :=
          { base.spec.template with
            annotations := setManagementCDIDevice ∅ daemonName opts.nriPluginEnabled
            spec :=
              { podSpec with
                nodeSelector := daemonNodeSelector opts.nodeSelector
                tolerations := opts.tolerations
                serviceAccountName := opts.serviceAccountName
                runtimeClassName := opts.runtimeClassName
                hostPID := true
                terminationGracePeriodSeconds := some d.terminationGraceSeconds
                volumes := volumes
                containers := [d.buildContainer (opts.image daemonName) (d.env opts)] } } } }

end Daemon

end GpuFractioning.Operator.MpsdDaemon
