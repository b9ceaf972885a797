import GpuFractioning.Lib.FiniteMap
import GpuFractioning.Lib.GoString
import GpuFractioning.Lib.FileSystem
import GpuFractioning.Lib.Interleaving
import GpuFractioning.Mapping.ContainerStore
import GpuFractioning.Mapping.Record
import GpuFractioning.Mapping.Writer
import GpuFractioning.Mapping.Reader
import GpuFractioning.Mapping.Refinement
import GpuFractioning.Mapping.ScanInterleaving
import GpuFractioning.Fractiond.Annotations
import GpuFractioning.Lib.GoPath
import GpuFractioning.Fractiond.Injection
import GpuFractioning.Fractiond.Plugin
import GpuFractioning.Fractiond.Audit
import GpuFractioning.Fractiond.Adapter
import GpuFractioning.Fractiond.Events
import GpuFractioning.Fractiond.MappingRuns
import GpuFractioning.Lib.GoFloat
import GpuFractioning.Metricsd.Exporter
import GpuFractioning.Metricsd.ExporterRuns
import GpuFractioning.Metricsd.Engine
import GpuFractioning.Metricsd.Placeholders
import GpuFractioning.Metricsd.Scrapes
import GpuFractioning.Lib.GoText
import GpuFractioning.Lib.Semver
import GpuFractioning.Lib.Unstructured
import GpuFractioning.Operator.Status
import GpuFractioning.Operator.FractiondDaemon
import GpuFractioning.Operator.MpsdDaemon
import GpuFractioning.Operator.DependencyChecker
import GpuFractioning.Operator.Cluster
import GpuFractioning.Operator.NodeConditions
import GpuFractioning.Operator.Reconcile
import GpuFractioning.Operator.Phases
import GpuFractioning.Operator.Rollout
import GpuFractioning.Operator.Settling
import GpuFractioning.Fractiond.MemoryCap
import GpuFractioning.Operator.Finalizer
import GpuFractioning.Operator.UpgradingNodes
import GpuFractioning.Operator.ReadyCondition
import GpuFractioning.Operator.RolloutEvidence
import GpuFractioning.Lib.GoDuration
import GpuFractioning.Lib.GoFlag
import GpuFractioning.Fractiond.Flags
import GpuFractioning.Operator.FractiondFlags
import GpuFractioning.Lib.Grouping
import GpuFractioning.Metricsd.EnrichTables
import GpuFractioning.Metricsd.EnrichReference
import GpuFractioning.Metricsd.Collects
import GpuFractioning.Metricsd.SeriesCoverage
import GpuFractioning.Metricsd.SlidingWindow
import GpuFractioning.Metricsd.Percentages
import GpuFractioning.Lib.RetryLoop
import GpuFractioning.Supervision
import GpuFractioning.Fractiond.Isolation
import GpuFractioning.Mapping.ReplaceFailures
import GpuFractioning.Operator.NodePasses
import GpuFractioning.Operator.NodeTransitions
import GpuFractioning.Operator.VersionGate
import GpuFractioning.Metricsd.NVMLCollector
import GpuFractioning.Metricsd.SampleWindows
import GpuFractioning.Metricsd.NVMLJoin
import GpuFractioning.Operator.ConditionHistory
import GpuFractioning.Lib.Components
import GpuFractioning.Mapping.CgroupPaths
import GpuFractioning.Metricsd.CgroupAttribution
import GpuFractioning.Imagelock.Catalog
import GpuFractioning.Imagelock.Plan
import GpuFractioning.Imagelock.Locks
import GpuFractioning.Imagelock.Publication
import GpuFractioning.Imagelock.FileNames
import GpuFractioning.Fractiond.EventQueue
import GpuFractioning.Fractiond.Enforcement
import GpuFractioning.Metricsd.NVMLSnapshots
import GpuFractioning.Pipeline
import GpuFractioning.Lib.Toml
import GpuFractioning.Mpsd.ControlConfig
import GpuFractioning.Mpsd.Flags
import GpuFractioning.Mpsd.Supervisor
import GpuFractioning.Mpsd.FakeMps
import GpuFractioning.Operator.MpsdFlags
import GpuFractioning.SMSharing
import GpuFractioning.Imagelock.Command
import GpuFractioning.Mpsd.DriverLabel
import GpuFractioning.Operator.CRDUpgrade
import GpuFractioning.Metricsd.Startup
import GpuFractioning.Operator.MetricsdFlags
import GpuFractioning.Fractiond.CRIStopper
import GpuFractioning.Operator.Startup
