import GpuFractioning.Lib.FiniteMap

/-!
# Kubernetes objects and the custom resource

The fields of the API objects that the operator reads or writes, and
`api/v1alpha1/gpufractioningconfig_types.go`. Times are seconds, durations
nanoseconds, and resource quantities the strings they are parsed from.
-/

namespace GpuFractioning.Operator

abbrev LabelMap := FiniteMap String String

section Conditions

inductive ConditionStatus where
  | conditionTrue
  | conditionFalse
  | conditionUnknown
  deriving DecidableEq, Repr

/-- `metav1.Condition`. -/
structure Condition where
  type : String
  status : ConditionStatus
  observedGeneration : ℤ
  lastTransitionTime : ℤ
  reason : String
  message : String
  deriving DecidableEq, Repr

structure NodeCondition where
  type : String
  status : ConditionStatus
  reason : String
  message : String
  lastHeartbeatTime : ℤ
  lastTransitionTime : ℤ
  deriving DecidableEq, Repr

end Conditions

section Workloads

structure Toleration where
  key : String
  operator : String
  value : String
  effect : String
  tolerationSeconds : Option ℤ
  deriving DecidableEq, Repr

/-- Sources other than host paths come from the custom resource and are passed on. -/
inductive VolumeSource where
  | hostPath (path : String) (type : Option String)
  | other (source : String)
  deriving DecidableEq, Repr

structure Volume where
  name : String
  source : VolumeSource
  deriving DecidableEq, Repr

structure VolumeMount where
  name : String
  mountPath : String
  readOnly : Bool
  deriving DecidableEq, Repr

inductive ProbeHandler where
  | httpGet (path : String) (port : ℤ)
  | tcpSocket (port : ℤ)
  | exec (command : List String)
  deriving DecidableEq, Repr

/-- A failure threshold of 0 is one that is left to its default. -/
structure Probe where
  handler : ProbeHandler
  initialDelaySeconds : ℤ
  periodSeconds : ℤ
  failureThreshold : ℤ
  deriving DecidableEq, Repr

inductive EnvSource where
  | value (value : String)
  | fieldRef (fieldPath : String)
  deriving DecidableEq, Repr

structure EnvVar where
  name : String
  source : EnvSource
  deriving DecidableEq, Repr

structure ContainerPort where
  name : String
  containerPort : ℤ
  protocol : String
  deriving DecidableEq, Repr

structure ResourceRequirements where
  requests : List (String × String)
  limits : List (String × String)
  deriving DecidableEq, Repr

structure Container where
  name : String
  image : String
  imagePullPolicy : String
  privileged : Bool
  args : List String
  readinessProbe : Probe
  livenessProbe : Probe
  resources : ResourceRequirements
  env : List EnvVar
  ports : List ContainerPort
  volumeMounts : List VolumeMount
  deriving DecidableEq, Repr

inductive NodeSelectorOperator where
  | doesNotExist
  | isIn
  deriving DecidableEq, Repr

structure NodeSelectorRequirement where
  key : String
  operator : NodeSelectorOperator
  values : List String
  deriving DecidableEq, Repr

structure PodSpec where
  /-- The required node affinity: terms of which one has to match. -/
  nodeAffinity : List (List NodeSelectorRequirement)
  nodeSelector : LabelMap
  tolerations : List Toleration
  hostPID : Bool
  serviceAccountName : String
  automountServiceAccountToken : Option Bool
  runtimeClassName : Option String
  terminationGracePeriodSeconds : Option ℤ
  volumes : List Volume
  containers : List Container
  deriving DecidableEq

structure PodTemplateSpec where
  labels : LabelMap
  annotations : LabelMap
  spec : PodSpec
  deriving DecidableEq

structure DaemonSetSpec where
  selector : LabelMap
  updateStrategy : String
  template : PodTemplateSpec
  deriving DecidableEq

structure DaemonSetStatus where
  observedGeneration : ℤ
  desiredNumberScheduled : ℤ
  numberReady : ℤ
  deriving DecidableEq, Repr

/-- `owner` stands for group, kind and name. -/
structure OwnerReference where
  owner : String
  uid : String
  deriving DecidableEq, Repr

/-- A stored DaemonSet, with the reference to its controlling owner. -/
structure DaemonSet where
  labels : LabelMap
  controller : Option OwnerReference
  generation : ℤ
  spec : DaemonSetSpec
  status : DaemonSetStatus
  deriving DecidableEq

end Workloads

section Nodes

structure Node where
  labels : LabelMap
  conditions : List NodeCondition
  deriving DecidableEq

inductive PodPhase where
  | pending
  | running
  | succeeded
  | failed
  | unknown
  deriving DecidableEq, Repr

structure PodCondition where
  type : String
  status : ConditionStatus
  deriving DecidableEq, Repr

/-- The reason of a container that waits, or `none` for one that does not. -/
structure ContainerStatus where
  waiting : Option String
  deriving DecidableEq, Repr

structure Pod where
  namespace_ : String
  labels : LabelMap
  nodeName : String
  phase : PodPhase
  conditions : List PodCondition
  initContainerStatuses : List ContainerStatus
  containerStatuses : List ContainerStatus
  deriving DecidableEq

end Nodes

section Config

structure FractioningAgentSpec where
  annotationPrefix : String
  failOpen : Option Bool
  nriSocketPath : String
  retroactiveEnforcement : Bool
  criSocketPath : String
  logLevel : String
  retryInterval : Option ℤ
  stableThreshold : Option ℤ
  maxRetries : Option ℤ
  readinessPort : Option ℤ
  deriving DecidableEq, Repr

structure MetricNamesSpec where
  gpuMemoryUsedBytes : String
  gpuSMUtilizationPercent : String
  gpuSMUtilizationPercentNormalized : String
  deriving DecidableEq, Repr

structure MetricsAgentSpec where
  enabled : Bool
  logLevel : String
  address : String
  path : String
  volumes : List Volume
  volumeMounts : List VolumeMount
  metricNames : Option MetricNamesSpec
  deriving DecidableEq, Repr

structure MpsDaemonSpec where
  logLevel : String
  backoff : Option ℤ
  maxRetries : Option ℤ
  stableThreshold : Option ℤ
  gracefulStopDelay : Option ℤ
  deriving DecidableEq, Repr

structure GpuFractioningConfigSpec where
  nodeSelector : LabelMap
  tolerations : List Toleration
  runtimeClassName : Option String
  fractioningAgent : Option FractioningAgentSpec
  metricsAgent : Option MetricsAgentSpec
  mpsDaemon : Option MpsDaemonSpec
  deriving DecidableEq

structure GpuFractioningConfigStatus where
  observedGeneration : ℤ
  conditions : List Condition
  deriving DecidableEq, Repr

structure GpuFractioningConfig where
  name : String
  uid : String
  generation : ℤ
  deleting : Bool
  finalizers : List String
  spec : GpuFractioningConfigSpec
  status : GpuFractioningConfigStatus
  deriving DecidableEq

end Config

end GpuFractioning.Operator
