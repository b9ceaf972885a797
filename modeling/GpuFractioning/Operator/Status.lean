import GpuFractioning.Lib.GoStrconv
import GpuFractioning.Lib.GoString
import GpuFractioning.Lib.KeyedList
import GpuFractioning.Operator.Types

/-!
# Conditions of the custom resource

`operator/internal/common/daemonmgr/status.go` and the condition of
`driverupgrade.go`. Every condition carries the time it was built at.
-/

namespace GpuFractioning.Operator

def nodeConditionType : String := "gpu-fractioning.nvidia.com/Ready"

def conditionReady : String := "Ready"

def conditionDriverUpgradeInProgress : String := "DriverUpgradeInProgress"

def reasonReconcileError : String := "ReconcileError"
def reasonNoTargetNodes : String := "NoTargetNodes"
def reasonAllPodsReady : String := "AllPodsReady"
def reasonPartiallyAvailable : String := "PartiallyAvailable"
def reasonRolloutInProgress : String := "RolloutInProgress"
def reasonComponentNotReady : String := "ComponentNotReady"
def reasonComponentUnknown : String := "ComponentUnknown"
def reasonAllComponentsReady : String := "AllComponentsReady"
def reasonNoComponents : String := "NoComponents"
def reasonAllDaemonsReady : String := "AllDaemonsReady"
def reasonGPUOperatorNotReady : String := "GPUOperatorNotReady"
def reasonGPUOperatorVersionUnsupported : String := "GPUOperatorVersionUnsupported"
def reasonGPUOperandVersionUnsupported : String := "GPUOperandVersionUnsupported"
def reasonGPUDriverVersionMissing : String := "GPUDriverVersionMissing"
def reasonGPUDriverVersionInvalid : String := "GPUDriverVersionInvalid"
def reasonGPUDriverVersionUnsupported : String := "GPUDriverVersionUnsupported"
def reasonManagementCDINamespaceNotAllowed : String := "ManagementCDINamespaceNotAllowed"

def messageNoTargetNodes : String := "no target nodes found"
def messageAllComponentsReady : String := "all components are healthy"
def messageNoComponents : String := "no components have been evaluated"
def messageAllDaemonsReady : String := "all gpu-fractioning daemons are running"

structure DaemonHealth where
  desiredNodes : ℤ
  readyNodes : ℤ
  deriving DecidableEq, Repr

def capitalize (s : String) : String :=
  match s.toList with
  | [] => s
  | c :: cs => String.ofList (GoString.toUpperChar c :: cs)

def podsReadyMessage (health : DaemonHealth) : String :=
  GoStrconv.formatInt health.readyNodes ++ " of " ++ GoStrconv.formatInt health.desiredNodes ++
    " pods ready"

/-- The condition of one daemon; `reconcileErr` is the text of a failed reconcile. -/
def daemonHealthToCondition (daemonName : String) (health : DaemonHealth) (generation : ℤ)
    (reconcileErr : Option String) (now : ℤ) : Condition :=
  let cond (status : ConditionStatus) (reason message : String) : Condition :=
    { type := capitalize daemonName ++ "Ready"
      status := status
      observedGeneration := generation
      lastTransitionTime := now
      reason := reason
      message := message }
  match reconcileErr with
  | some err => cond .conditionFalse reasonReconcileError err
  | none =>
    if health.desiredNodes = 0 then cond .conditionTrue reasonNoTargetNodes messageNoTargetNodes
    else if health.readyNodes = health.desiredNodes then
      cond .conditionTrue reasonAllPodsReady (podsReadyMessage health)
    else
      cond .conditionFalse
        (if health.readyNodes = 0 then reasonRolloutInProgress else reasonPartiallyAvailable)
        (podsReadyMessage health)

def componentSummary (c : Condition) : String :=
  if c.message = "" then c.type else c.type ++ " (" ++ c.message ++ ")"

/-- The conditions that stand for a daemon. -/
def isComponent (c : Condition) : Bool :=
  c.type ≠ conditionReady && c.type ≠ conditionDriverUpgradeInProgress

/-- `Ready` is true only when no component is false or unknown, and false wins. -/
def aggregateReadyCondition (conditions : List Condition) (generation : ℤ) (now : ℤ) :
    Condition :=
  let cond (status : ConditionStatus) (reason message : String) : Condition :=
    { type := conditionReady
      status := status
      observedGeneration := generation
      lastTransitionTime := now
      reason := reason
      message := message }
  let components (status : ConditionStatus) : List String :=
    (conditions.filter fun c => isComponent c && c.status = status).map componentSummary
  let falseComponents := components .conditionFalse
  let unknownComponents := components .conditionUnknown
  if conditions = [] then cond .conditionUnknown reasonNoComponents messageNoComponents
  else if falseComponents ≠ [] then
    cond .conditionFalse reasonComponentNotReady
      ("not ready: " ++ ", ".intercalate falseComponents)
  else if unknownComponents ≠ [] then
    cond .conditionUnknown reasonComponentUnknown
      ("unknown: " ++ ", ".intercalate unknownComponents)
  else cond .conditionTrue reasonAllComponentsReady messageAllComponentsReady

/-- The transition time of a condition whose status does not change is kept. -/
def setCondition (cond : Condition) (conditions : List Condition) : List Condition :=
  KeyedList.upsert Condition.type
    (fun existing =>
      if existing.status = cond.status then
        { cond with lastTransitionTime := existing.lastTransitionTime }
      else cond)
    cond conditions

def driverUpgradeCondition (active : Bool) (generation : ℤ) (now : ℤ) : Condition :=
  { type := conditionDriverUpgradeInProgress
    status := if active then .conditionTrue else .conditionFalse
    observedGeneration := generation
    lastTransitionTime := now
    reason := if active then "DriverUpgrading" else "NoDriverUpgrade"
    message :=
      if active then
        "a targeted GPU node is undergoing a driver upgrade; its managed daemons are drained"
      else "" }

/-- The first condition of the type has status true. -/
def isConditionTrue (conditions : List Condition) (condType : String) : Bool :=
  match conditions.find? fun c => c.type = condType with
  | some c => c.status = .conditionTrue
  | none => false

section Lookup

theorem find?_setCondition {β : Type} (f : Condition → β)
    (hf : ∀ c time, f { c with lastTransitionTime := time } = f c) (cond : Condition)
    (conditions : List Condition) (condType : String) :
    ((setCondition cond conditions).find? fun c => c.type = condType).map f =
      if cond.type = condType then some (f cond)
      else (conditions.find? fun c => c.type = condType).map f := by
  refine KeyedList.find?_upsert Condition.type cond f ?_ ?_ conditions condType
  · intro existing
    split_ifs <;> rfl
  · intro existing
    split_ifs
    · exact hf cond existing.lastTransitionTime
    · rfl

/-- The status of the first condition of a type. -/
def statusOf (conditions : List Condition) (condType : String) : Option ConditionStatus :=
  (conditions.find? fun c => c.type = condType).map Condition.status

theorem statusOf_setCondition (cond : Condition) (conditions : List Condition)
    (condType : String) :
    statusOf (setCondition cond conditions) condType =
      if cond.type = condType then some cond.status else statusOf conditions condType :=
  find?_setCondition Condition.status (fun _ _ => rfl) cond conditions condType

/-- The statuses of all conditions of a type, in their order. -/
def statusesOf (conditions : List Condition) (condType : String) : List ConditionStatus :=
  (conditions.filter fun c => c.type = condType).map Condition.status

theorem statusesOf_setCondition (cond : Condition) (conditions : List Condition)
    (condType : String) :
    statusesOf (setCondition cond conditions) condType =
      if cond.type = condType then cond.status :: (statusesOf conditions condType).tail
      else statusesOf conditions condType := by
  refine KeyedList.filter_upsert Condition.type cond Condition.status ?_ ?_ conditions condType
  · intro existing
    split_ifs <;> rfl
  · intro existing
    split_ifs <;> rfl

theorem mem_statusesOf {conditions : List Condition} {condType : String}
    {status : ConditionStatus} :
    status ∈ statusesOf conditions condType ↔
      ∃ cond ∈ conditions, cond.type = condType ∧ cond.status = status := by
  simp [statusesOf, and_assoc]

theorem isConditionTrue_iff (conditions : List Condition) (condType : String) :
    isConditionTrue conditions condType = true ↔
      statusOf conditions condType = some .conditionTrue := by
  unfold isConditionTrue statusOf
  cases conditions.find? fun c => c.type = condType <;> simp

end Lookup

section Aggregate

theorem status_daemonHealthToCondition (daemonName : String) (health : DaemonHealth)
    (generation : ℤ) (reconcileErr : Option String) (now : ℤ) :
    (daemonHealthToCondition daemonName health generation reconcileErr now).status =
        .conditionTrue ↔
      reconcileErr = none ∧
        (health.desiredNodes = 0 ∨ health.readyNodes = health.desiredNodes) := by
  unfold daemonHealthToCondition
  cases reconcileErr with
  | some err => simp
  | none =>
    by_cases hdesired : health.desiredNodes = 0
    · simp [hdesired]
    · by_cases hready : health.readyNodes = health.desiredNodes <;> simp [hdesired, hready]

theorem type_aggregateReadyCondition (conditions : List Condition) (generation now : ℤ) :
    (aggregateReadyCondition conditions generation now).type = conditionReady := by
  unfold aggregateReadyCondition
  dsimp only
  split_ifs <;> rfl

theorem status_aggregateReadyCondition (conditions : List Condition) (generation now : ℤ) :
    (aggregateReadyCondition conditions generation now).status = .conditionTrue ↔
      conditions ≠ [] ∧ ∀ cond ∈ conditions, isComponent cond = true →
        cond.status = .conditionTrue := by
  have hnone (s : ConditionStatus) :
      (conditions.filter fun c => isComponent c && c.status = s).map componentSummary = [] ↔
        ∀ cond ∈ conditions, isComponent cond = true → cond.status ≠ s := by
    simp
  unfold aggregateReadyCondition
  dsimp only
  split_ifs with hnil hfalse hunknown
  · simp [hnil]
  · simp only [false_iff, not_and]
    intro _ htrue
    refine hfalse ((hnone _).mpr fun cond hcond hcomponent => ?_)
    simp [htrue cond hcond hcomponent]
  · simp only [false_iff, not_and]
    intro _ htrue
    refine hunknown ((hnone _).mpr fun cond hcond hcomponent => ?_)
    simp [htrue cond hcond hcomponent]
  · refine iff_of_true rfl ⟨hnil, fun cond hcond hcomponent => ?_⟩
    have hnotFalse := (hnone _).mp (not_not.mp hfalse) cond hcond hcomponent
    have hnotUnknown := (hnone _).mp (not_not.mp hunknown) cond hcond hcomponent
    cases hstatus : cond.status with
    | conditionTrue => rfl
    | conditionFalse => exact absurd hstatus hnotFalse
    | conditionUnknown => exact absurd hstatus hnotUnknown

theorem component_of_aggregate {conditions : List Condition} {generation now : ℤ}
    (htrue : (aggregateReadyCondition conditions generation now).status = .conditionTrue)
    {condType : String} (hready : condType ≠ conditionReady)
    (hupgrade : condType ≠ conditionDriverUpgradeInProgress) {status : ConditionStatus}
    (hstatus : statusOf conditions condType = some status) : status = .conditionTrue := by
  obtain ⟨cond, hfind, rfl⟩ := Option.map_eq_some_iff.mp hstatus
  have htype : cond.type = condType := by simpa using List.find?_some hfind
  have hcomponent : isComponent cond = true := by simp [isComponent, htype, hready, hupgrade]
  exact ((status_aggregateReadyCondition _ _ _).mp htrue).2 cond
    (List.mem_of_find?_eq_some hfind) hcomponent

end Aggregate

end GpuFractioning.Operator
