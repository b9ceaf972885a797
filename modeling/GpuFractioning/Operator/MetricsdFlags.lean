import GpuFractioning.Metricsd.Startup
import GpuFractioning.Operator.MpsdFlags

/-!
# What the operator passes to metricsd and what metricsd serves

The arguments of `buildMetricsdArgs` are decoded by `cmd/flags.go` of metricsd, and the
exporter is started with them. The result is compared with the pod that it runs in: the
directory it shares with fractiond, its probes and the annotations of the scrape.
-/

namespace GpuFractioning.Operator

open Metricsd.Startup (CliFlags MetricNames Platform Exporter Config)

section Decoding

/-- The names that a spec sets, empty where it sets none. -/
def MetricsAgentSpec.names (spec : MetricsAgentSpec) : MetricNames :=
  match spec.metricNames with
  | none => ⟨"", "", ""⟩
  | some n =>
    ⟨n.gpuMemoryUsedBytes, n.gpuSMUtilizationPercent, n.gpuSMUtilizationPercentNormalized⟩

/-- The flags with the names of a spec that are set. -/
def MetricNamesSpec.onto (n : MetricNamesSpec) (f : CliFlags) : CliFlags :=
  { f with
    metricNames :=
      { gpuMemoryUsedBytes :=
          if n.gpuMemoryUsedBytes = "" then f.metricNames.gpuMemoryUsedBytes
          else n.gpuMemoryUsedBytes
        gpuSMUtilizationPercent :=
          if n.gpuSMUtilizationPercent = "" then f.metricNames.gpuSMUtilizationPercent
          else n.gpuSMUtilizationPercent
        gpuSMUtilizationPercentNormalized :=
          if n.gpuSMUtilizationPercentNormalized = "" then
            f.metricNames.gpuSMUtilizationPercentNormalized
          else n.gpuSMUtilizationPercentNormalized } }

/-- The flags with the fields of a spec that are set. -/
def MetricsAgentSpec.onto (spec : MetricsAgentSpec) (f : CliFlags) : CliFlags :=
  let f := { f with
    logLevel := if spec.logLevel = "" then f.logLevel else spec.logLevel
    address := if spec.address = "" then f.address else spec.address
    path := if spec.path = "" then f.path else spec.path }
  match spec.metricNames with
  | none => f
  | some n => n.onto f

/-- The flags that metricsd runs with in its pod. -/
def MetricsAgentSpec.decoded (spec : MetricsAgentSpec) : CliFlags :=
  spec.onto (Metricsd.Startup.defaultFlags fun _ => "")

namespace FractiondDaemon.Daemon

end FractiondDaemon.Daemon

end Decoding

section Agreement

namespace MetricsAgentSpec

/-- The path that metricsd registers. -/
def servedPath (spec : MetricsAgentSpec) : String := spec.decoded.config.metricsPath

/-- Among the paths of metricsd the one of the annotation is answered with the metrics. -/
def Answers (spec : MetricsAgentSpec) (p : Platform) (path : String) : Prop :=
  p.Serves spec.servedPath ∧
    p.route ((Metricsd.Startup.routes spec.servedPath).map Prod.fst) path = some spec.servedPath

end MetricsAgentSpec

namespace FractiondDaemon.Daemon

end FractiondDaemon.Daemon

end Agreement

end GpuFractioning.Operator
