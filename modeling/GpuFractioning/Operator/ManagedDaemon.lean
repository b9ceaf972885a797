import GpuFractioning.Lib.GoText
import GpuFractioning.Operator.Types

/-!
# What the managed daemons share

`operator/internal/common/daemonmgr`: `managed_daemon.go`,
`daemonset_helpers.go`, `cdi.go` and the scheduling part of `driverupgrade.go`.
-/

namespace GpuFractioning.Operator

def labelManagedBy : String := "app.kubernetes.io/managed-by"
def labelComponent : String := "app.kubernetes.io/component"
def managedByValue : String := "gpu-fractioning"
def defaultRuntimeClassName : String := "nvidia"
def daemonSetPrefix : String := "gpu-fractioning"
def daemonEphemeralStorageRequest : String := "100Mi"
def fipsOnlyGODEBUG : String := "fips140=only,tlsmlkem=0"
def driverUpgradeStateLabel : String := "nvidia.com/gpu-driver-upgrade-state"
def driverUpgradeStateDone : String := "upgrade-done"
def gpuDeployClientLabel : String := "nvidia.com/gpu.deploy.client"
def gpuDeployClientValue : String := "true"
def nriAnnotationDomain : String := "nvidia.cdi.k8s.io"
def managementCDIDeviceAll : String := "management.nvidia.com/gpu=all"
def hostPathDirectoryOrCreate : String := "DirectoryOrCreate"
def protocolTCP : String := "TCP"

structure ImageSpec where
  repository : String
  tag : String
  imagePullPolicy : String
  deriving DecidableEq, Repr

namespace ImageSpec

def fullImage (s : ImageSpec) : String :=
  if s.repository = "" then ""
  else if s.tag ≠ "" then s.repository ++ ":" ++ s.tag
  else s.repository

def pullPolicy (s : ImageSpec) : String :=
  if s.imagePullPolicy ≠ "" then s.imagePullPolicy else "IfNotPresent"

end ImageSpec

structure BuildOptions where
  namespace_ : String
  nodeSelector : LabelMap
  tolerations : List Toleration
  serviceAccountName : String
  runtimeClassName : Option String
  defaultImages : FiniteMap String ImageSpec
  fipsOnly : Bool
  nriPluginEnabled : Bool

def BuildOptions.image (opts : BuildOptions) (name : String) : ImageSpec :=
  (opts.defaultImages.lookup name).getD ⟨"", "", ""⟩

/-- An explicit empty name means the node's default runtime. -/
def resolveRuntimeClassName : Option String → Option String
  | none => some defaultRuntimeClassName
  | some name => if name = "" then none else some name

/-- A desired DaemonSet. -/
structure DesiredDaemonSet where
  name : String
  namespace_ : String
  labels : LabelMap
  spec : DaemonSetSpec

/-- The daemon may run where no driver upgrade is under way. -/
def driverUpgradeNodeAffinity : List (List NodeSelectorRequirement) :=
  [[⟨driverUpgradeStateLabel, .doesNotExist, []⟩],
    [⟨driverUpgradeStateLabel, .isIn, [driverUpgradeStateDone]⟩]]

def daemonSetName (component : String) : String := daemonSetPrefix ++ "-" ++ component

def baseDaemonSet (component namespace_ : String) : DesiredDaemonSet :=
  let labels : LabelMap :=
    AList.insert labelComponent component (AList.insert labelManagedBy managedByValue ∅)
  { name := daemonSetName component
    namespace_ := namespace_
    labels := labels
    spec :=
      { selector := labels
        updateStrategy := "RollingUpdate"
        template :=
          { labels := labels
            annotations := ∅
            spec :=
              { nodeAffinity := driverUpgradeNodeAffinity
                nodeSelector := ∅
                tolerations := []
                hostPID := false
                serviceAccountName := ""
                automountServiceAccountToken := none
                runtimeClassName := none
                terminationGracePeriodSeconds := none
                volumes := []
                containers := [] } } } }

/-- The selector of the custom resource, and the label that admits GPU clients, set
last so that it cannot be overridden. -/
def daemonNodeSelector (crSelector : LabelMap) : LabelMap :=
  crSelector.insert gpuDeployClientLabel gpuDeployClientValue

def daemonResources (cpuRequest memRequest memLimit : String) : ResourceRequirements :=
  { requests := [("cpu", cpuRequest), ("memory", memRequest),
      ("ephemeral-storage", daemonEphemeralStorageRequest)]
    limits := [("memory", memLimit)] }

def fipsOnlyEnv (fipsOnly : Bool) : List EnvVar :=
  if fipsOnly then [⟨"GODEBUG", .value fipsOnlyGODEBUG⟩] else []

def managementCDIDeviceAnnotation (containerName : String) : String :=
  nriAnnotationDomain ++ "/container." ++ containerName

/-- Without the `nvidia` RuntimeClass a container gets the GPU by annotation. -/
def setManagementCDIDevice (annotations : LabelMap) (containerName : String)
    (nriPluginEnabled : Bool) : LabelMap :=
  let key := managementCDIDeviceAnnotation containerName
  if nriPluginEnabled then annotations.insert key managementCDIDeviceAll
  else annotations

/-- `strconv.FormatBool`. -/
def formatBool (b : Bool) : String := if b then "true" else "false"

/-- A flag with a value that is only passed when it is set. -/
def stringFlag (flag value : String) : List String := if value ≠ "" then [flag, value] else []

def durationFlag (flag : String) : Option ℤ → List String
  | none => []
  | some d => [flag, GoText.durationString d]

def intFlag (flag : String) : Option ℤ → List String
  | none => []
  | some n => [flag, GoStrconv.formatInt n]

end GpuFractioning.Operator
