import GpuFractioning.Lib.GoPath
import GpuFractioning.Operator.ManagedDaemon

/-!
# The DaemonSet of fractiond and its metricsd sidecar

`operator/internal/fractioningmanager/components/fractiond/fractiond.go`.
-/

namespace GpuFractioning.Operator.FractiondDaemon

def daemonName : String := "fractiond"
def metricsdName : String := "metricsd"
def defaultMPSPipeDir : String := "/run/nvidia-mps"
def defaultNRISocketDir : String := "/var/run/nri"
def defaultCRISocketPath : String := "/run/containerd/containerd.sock"
def containerPodMapDir : String := "/var/run/gpu-fractioning/map"
def metricsPort : ℤ := 2112
def volumeNRISocket : String := "nri-socket"
def volumeMPSPipe : String := "mps-pipe"
def volumeMapDir : String := "map-dir"
def volumeCRISocket : String := "cri-socket"
def defaultReadinessPort : ℤ := 8093
def readyzPath : String := "/readyz"
def metricsdHealthzPath : String := "/healthz"
def metricsdReadyzPath : String := "/readyz"

/-- `daemon`: the sections of the custom resource, and the installation's toggle. -/
structure Daemon where
  fractioningSpec : Option FractioningAgentSpec
  metricsSpec : Option MetricsAgentSpec
  supportSMSharing : Bool

namespace Daemon

def metricsEnabled (d : Daemon) : Bool :=
  match d.metricsSpec with
  | none => false
  | some spec => spec.enabled

/-- The port of the configured address, or the default where there is none. -/
def metricsListenPort (d : Daemon) : ℤ :=
  match d.metricsSpec with
  | none => metricsPort
  | some spec =>
    if spec.address = "" then metricsPort
    else
      match (GoText.splitPort spec.address).bind GoStrconv.parseInt with
      | some port => if 0 < port ∧ port ≤ 65535 then port else metricsPort
      | none => metricsPort

def metricsAnnotationPort (d : Daemon) : String := GoStrconv.formatInt d.metricsListenPort

def metricsAnnotationPath (d : Daemon) : String :=
  match d.metricsSpec with
  | none => "/metrics"
  | some spec => if spec.path ≠ "" then spec.path else "/metrics"

def readinessPort (d : Daemon) : ℤ :=
  (d.fractioningSpec.bind FractioningAgentSpec.readinessPort).getD defaultReadinessPort

def nriSocketDir (d : Daemon) : String :=
  match d.fractioningSpec with
  | none => defaultNRISocketDir
  | some spec =>
    if spec.nriSocketPath = "" then defaultNRISocketDir else GoPath.dir spec.nriSocketPath

def retroactiveEnforcementEnabled (d : Daemon) : Bool :=
  match d.fractioningSpec with
  | none => false
  | some spec => spec.retroactiveEnforcement

def criSocketPath (d : Daemon) : String :=
  match d.fractioningSpec with
  | none => defaultCRISocketPath
  | some spec => if spec.criSocketPath = "" then defaultCRISocketPath else spec.criSocketPath

def buildArgs (d : Daemon) (opts : BuildOptions) : List String :=
  ["--support-sm-sharing=" ++ formatBool d.supportSMSharing,
    "--inject-cdi-device=" ++ formatBool opts.nriPluginEnabled] ++
  match d.fractioningSpec with
  | none => []
  | some spec =>
    stringFlag "--annotation-prefix" spec.annotationPrefix ++
    (if spec.failOpen = some true then ["--fail-open"] else []) ++
    stringFlag "--socket-path" spec.nriSocketPath ++
    stringFlag "--log-level" spec.logLevel ++
    durationFlag "--retry-interval" spec.retryInterval ++
    durationFlag "--stable-threshold" spec.stableThreshold ++
    intFlag "--max-retries" spec.maxRetries ++
    intFlag "--readiness-port" spec.readinessPort ++
    ["--retroactive-enforcement=" ++ formatBool spec.retroactiveEnforcement] ++
    stringFlag "--cri-socket" spec.criSocketPath

def buildMetricsdArgs (d : Daemon) : List String :=
  match d.metricsSpec with
  | none => []
  | some spec =>
    stringFlag "--log-level" spec.logLevel ++
    stringFlag "--metrics-address" spec.address ++
    stringFlag "--metrics-path" spec.path ++
    match spec.metricNames with
    | none => []
    | some n =>
      stringFlag "--metric-name-gpu-memory-used-bytes" n.gpuMemoryUsedBytes ++
      stringFlag "--metric-name-gpu-sm-utilization-percent" n.gpuSMUtilizationPercent ++
      stringFlag "--metric-name-gpu-sm-utilization-percent-normalized"
        n.gpuSMUtilizationPercentNormalized

def buildFractiondContainer (d : Daemon) (opts : BuildOptions) : Container × List Volume :=
  let image := opts.image daemonName
  let criSocketDir := GoPath.dir d.criSocketPath
  let enforcement := d.retroactiveEnforcementEnabled
  ({ name := daemonName
     image := image.fullImage
     imagePullPolicy := image.pullPolicy
     privileged := true
     args := d.buildArgs opts
     readinessProbe := ⟨.httpGet readyzPath d.readinessPort, 5, 10, 0⟩
     -- a bare connect: while fractiond waits for containerd it is not ready but alive
     livenessProbe := ⟨.tcpSocket d.readinessPort, 10, 20, 3⟩
     resources := daemonResources "50m" "64Mi" "256Mi"
     env := fipsOnlyEnv opts.fipsOnly
     ports := [⟨"readiness", d.readinessPort, protocolTCP⟩]
     volumeMounts :=
       [⟨volumeNRISocket, d.nriSocketDir, false⟩, ⟨volumeMPSPipe, defaultMPSPipeDir, false⟩] ++
         if enforcement then [⟨volumeCRISocket, criSocketDir, false⟩] else [] },
    [⟨volumeNRISocket, .hostPath d.nriSocketDir none⟩,
      ⟨volumeMPSPipe, .hostPath defaultMPSPipeDir none⟩] ++
      if enforcement then
        [⟨volumeCRISocket, .hostPath criSocketDir (some hostPathDirectoryOrCreate)⟩]
      else [])

def buildMetricsdContainer (d : Daemon) (opts : BuildOptions) : Container :=
  let image := opts.image metricsdName
  let port := d.metricsListenPort
  { name := metricsdName
    image := image.fullImage
    imagePullPolicy := image.pullPolicy
    privileged := true
    args := d.buildMetricsdArgs
    readinessProbe := ⟨.httpGet metricsdReadyzPath port, 5, 10, 0⟩
    livenessProbe := ⟨.httpGet metricsdHealthzPath port, 15, 20, 3⟩
    resources := daemonResources "50m" "128Mi" "512Mi"
    env := [⟨"NVIDIA_VISIBLE_DEVICES", .value "all"⟩,
      ⟨"NVIDIA_DRIVER_CAPABILITIES", .value "utility"⟩] ++ fipsOnlyEnv opts.fipsOnly
    ports := [⟨"metrics", port, protocolTCP⟩]
    volumeMounts := ⟨volumeMapDir, containerPodMapDir, true⟩ ::
      ((d.metricsSpec.map MetricsAgentSpec.volumeMounts).getD []) }

/-- The directory in which fractiond hands the mapping to metricsd. -/
def metricsSharedVolume : Volume × VolumeMount :=
  (⟨volumeMapDir, .hostPath containerPodMapDir (some hostPathDirectoryOrCreate)⟩,
    ⟨volumeMapDir, containerPodMapDir, false⟩)

/-- The annotations `applyMetricsSidecar` sets. -/
def metricsAnnotations (d : Daemon) (opts : BuildOptions) : LabelMap :=
  let scrape : LabelMap :=
    ((AList.insert "prometheus.io/scrape" "true" (∅ : LabelMap)).insert "prometheus.io/port"
      d.metricsAnnotationPort).insert "prometheus.io/path" d.metricsAnnotationPath
  setManagementCDIDevice scrape metricsdName opts.nriPluginEnabled

def buildDaemonSet (d : Daemon) (opts : BuildOptions) : DesiredDaemonSet :=
  let base := baseDaemonSet daemonName opts.namespace_
  let (fractiond, fractiondVolumes) := d.buildFractiondContainer opts
  let (mapVolume, mapMount) := metricsSharedVolume
  let metricsOn := d.metricsEnabled
  let podSpec := base.spec.template.spec
  { base with
    spec :=
      { base.spec with
        template :=
          { base.spec.template with
            annotations := if metricsOn then d.metricsAnnotations opts else ∅
            spec :=
              { podSpec with
                nodeSelector := daemonNodeSelector opts.nodeSelector
                tolerations := opts.tolerations
                hostPID := true
                serviceAccountName := opts.serviceAccountName
                automountServiceAccountToken := some false
                -- only metricsd needs the GPU
                runtimeClassName := if metricsOn then opts.runtimeClassName else none
                volumes := fractiondVolumes ++
                  if metricsOn then
                    mapVolume :: ((d.metricsSpec.map MetricsAgentSpec.volumes).getD [])
                  else []
                containers :=
                  if metricsOn then
                    [{ fractiond with volumeMounts := fractiond.volumeMounts ++ [mapMount] },
                      d.buildMetricsdContainer opts]
                  else [fractiond] } } } }

end Daemon

end GpuFractioning.Operator.FractiondDaemon
