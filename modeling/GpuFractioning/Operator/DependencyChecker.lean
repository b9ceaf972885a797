import GpuFractioning.Lib.GoText
import GpuFractioning.Lib.Semver
import GpuFractioning.Lib.Unstructured
import GpuFractioning.Operator.Status

/-!
# The GPU Operator dependency

`operator/internal/controller/clusterpolicy.go` and `dependency_checker.go`: what
the ClusterPolicy says about GPU injection, the version gates of the GPU stack,
and the driver label of a node.
-/

namespace GpuFractioning.Operator

/-- How an API call fails: the object or its kind is not there, or the call itself
does not succeed. -/
inductive ApiError where
  | notFound
  | noMatch
  | failed (message : String)
  deriving DecidableEq, Repr

namespace ApiError

def message : ApiError → String
  | notFound => "not found"
  | noMatch => "no matches for kind"
  | failed message => message

/-- Neither a missing object nor a kind that is not installed. -/
def isFailure : ApiError → Bool
  | failed _ => true
  | notFound | noMatch => false

end ApiError

section Constants

def nriManagementCDIDeviceNamespacesEnv : String := "NRI_MANAGEMENT_CDI_DEVICE_NAMESPACES"
def clusterPolicyVersionLabel : String := "app.kubernetes.io/version"
def minimumGPUOperatorVersion : String := "v26.7.1"
def clusterPolicyReadyState : String := "ready"
def clusterPolicyReadyCondition : String := "Ready"
def clusterPolicyErrorCondition : String := "Error"
def clusterServiceVersionPrefix : String := "gpu-operator"
def gpuOperatorProviderSubstring : String := "NVIDIA"
def minGPUDriverMajor : ℤ := 615
def nvidiaDriverMajorLabel : String := "gpu-fractioning.kai.scheduler/nvidia-driver-version.major"

structure GpuOperandRequirement where
  name : String
  specPath : List String
  minVersion : String
  deriving DecidableEq, Repr

def gpuOperandRequirements : List GpuOperandRequirement :=
  [⟨"container toolkit", ["spec", "toolkit", "version"], "v1.20.1"⟩,
    ⟨"device plugin", ["spec", "devicePlugin", "version"], "v0.20.1"⟩]

end Constants

/-- The outcome of the one read of the ClusterPolicy. -/
structure ClusterPolicy where
  policy : Option Json
  err : Option String

namespace ClusterPolicy

/-- A kind that is not installed and an empty list are not errors. -/
def ofList : Except ApiError (List Json) → ClusterPolicy
  | .ok [] => ⟨none, none⟩
  | .ok (policy :: _) => ⟨some policy, none⟩
  | .error err => if err.isFailure then ⟨none, some err.message⟩ else ⟨none, none⟩

def policyNRIPluginEnabled (policy : Json) : Bool :=
  (policy.nestedBool ["spec", "cdi", "nriPluginEnabled"]).getD false

/-- An absent or unreadable ClusterPolicy counts as disabled. -/
def nriPluginEnabled (p : ClusterPolicy) : Bool :=
  match p.policy with
  | none => false
  | some policy => policyNRIPluginEnabled policy

def managementCDIDeviceNamespaces (p : ClusterPolicy) : List String :=
  match p.policy with
  | none => []
  | some policy =>
    ((policy.nestedSlice ["spec", "toolkit", "env"]).getD []).flatMap fun item =>
      if item.isObject ∧ (item.nestedString ["name"]).getD "" = nriManagementCDIDeviceNamespacesEnv
      then
        ((GoString.split ',' ((item.nestedString ["value"]).getD "")).map GoString.trimSpace).filter
          (· ≠ "")
      else []

end ClusterPolicy

section Versions

def splitSemverSuffix (version : String) : String × String :=
  let isSuffix (c : Char) : Bool := c = '-' || c = '+'
  (String.ofList (version.toList.takeWhile fun c => !isSuffix c),
    String.ofList (version.toList.dropWhile fun c => !isSuffix c))

def withLeadingV (version : String) : String :=
  if GoString.hasPrefix version "v" then version else "v" ++ version

/-- The release core of an image tag; a suffix such as `-ubuntu20.04` is dropped. -/
def normalizeOperandVersion (version : String) : Option String :=
  let core := (splitSemverSuffix (GoString.trimSpace version)).1
  if core = "" then none
  else if Semver.isValid (withLeadingV core) then some (Semver.canonical (withLeadingV core))
  else none

/-- A core of two numbers may carry a suffix. -/
def normalizeGPUOperatorVersion (version : String) : Option String :=
  let normalized := GoString.trimSpace version
  if normalized = "" then none
  else
    let normalized := withLeadingV normalized
    if Semver.isValid normalized then some (Semver.canonical normalized)
    else
      let (main, suffix) := splitSemverSuffix normalized
      let withPatch := main ++ ".0" ++ suffix
      if main.toList.count '.' = 1 ∧ Semver.isValid withPatch then
        some (Semver.canonical withPatch)
      else none

def gpuOperatorVersionFromClusterPolicy (clusterPolicy : Json) : String :=
  GoString.trimSpace (clusterPolicy.label clusterPolicyVersionLabel)

/-- The message for a version below the minimum, or the empty string. -/
def gpuOperatorVersionFailureMessage (rawVersion source : String) : String :=
  let rawVersion := GoString.trimSpace rawVersion
  if rawVersion = "" then
    "NVIDIA GPU Operator version from " ++ source ++ " is missing; minimum supported version is " ++
      minimumGPUOperatorVersion
  else
    match normalizeGPUOperatorVersion rawVersion with
    | none =>
      "NVIDIA GPU Operator version " ++ GoText.quote rawVersion ++ " from " ++ source ++
        " is invalid; minimum supported version is " ++ minimumGPUOperatorVersion
    | some version =>
      -- a prerelease of the minimum is as good as the minimum
      let versionCore := (splitSemverSuffix version).1
      if Semver.compareVersions versionCore minimumGPUOperatorVersion = .lt then
        "NVIDIA GPU Operator version " ++ rawVersion ++ " from " ++ source ++
          " is below minimum supported version " ++ minimumGPUOperatorVersion
      else ""

/-- The message for the first pinned operand below its minimum, and the operands seen
so far that are left to the GPU Operator's default. -/
def gpuOperandVersionFailureMessage (clusterPolicy : Json) :
    List GpuOperandRequirement → List String → String × List String
  | [], defaulted => ("", defaulted)
  | operand :: operands, defaulted =>
    let rawVersion :=
      GoString.trimSpace ((clusterPolicy.nestedString operand.specPath).getD "")
    if rawVersion = "" then
      gpuOperandVersionFailureMessage clusterPolicy operands (defaulted ++ [operand.name])
    else
      match normalizeOperandVersion rawVersion with
      | none => gpuOperandVersionFailureMessage clusterPolicy operands defaulted
      | some version =>
        if Semver.compareVersions version operand.minVersion = .lt then
          ("NVIDIA " ++ operand.name ++ " version " ++ rawVersion ++ " from ClusterPolicy " ++
            ".".intercalate operand.specPath ++ " is below minimum supported version " ++
            operand.minVersion, defaulted)
        else gpuOperandVersionFailureMessage clusterPolicy operands defaulted

/-- A ClusterServiceVersion of the GPU Operator; one that names another provider is
not, one that names none may be. -/
def isGPUOperatorCSV (csv : Json) : Bool :=
  GoString.hasPrefix csv.name clusterServiceVersionPrefix &&
    match csv.nestedString ["spec", "provider", "name"] with
    | none => true
    | some provider =>
      provider = "" ||
        GoString.contains (GoString.toUpper provider) gpuOperatorProviderSubstring

/-- The version of the first that matches. -/
def clusterServiceVersionGPUOperatorVersion :
    Except ApiError (List Json) → Except String (Option String)
  | .error err =>
    if err.isFailure then .error ("failed to list ClusterServiceVersions: " ++ err.message)
    else .ok none
  | .ok csvs =>
    .ok ((csvs.find? isGPUOperatorCSV).map fun csv =>
      GoString.trimSpace ((csv.nestedString ["spec", "version"]).getD ""))

/-- The GPU Operator's version, if one is found, and the source to name. -/
def gpuOperatorVersion (csvs : Except ApiError (List Json)) (clusterPolicy : Option Json) :
    Except String (Option String × String) :=
  let fallback (source : String) : Except String (Option String × String) :=
    match clusterServiceVersionGPUOperatorVersion csvs with
    | .error err => .error err
    | .ok none => .ok (none, source)
    | .ok (some version) => .ok (some version, "ClusterServiceVersion")
  match clusterPolicy with
  | none => fallback "ClusterServiceVersion"
  | some policy =>
    let source := "ClusterPolicy label " ++ GoText.quote clusterPolicyVersionLabel
    let version := gpuOperatorVersionFromClusterPolicy policy
    if version ≠ "" then .ok (some version, source) else fallback source

def versionDiscoveryErrorMessage (err : String) : String :=
  "unable to discover NVIDIA GPU Operator version from ClusterPolicy or ClusterServiceVersion: " ++
    err

end Versions

/-- The settings of `GpuOperatorDependencyChecker`. -/
structure GpuOperatorDependencyChecker where
  skipVersionChecks : Bool
  namespace_ : String

namespace GpuOperatorDependencyChecker

/-- The reason and message for a version that does not meet its minimum, or empty
strings. `ctxDone` says whether the context has ended when a list fails. -/
def versionFailure (c : GpuOperatorDependencyChecker) (csvs : Except ApiError (List Json))
    (ctxDone : Bool) (clusterPolicy : Option Json) : Except String (String × String) :=
  let discoveryFailure (err : String) : Except String (String × String) :=
    if ctxDone then .error err
    else .ok (reasonGPUOperatorNotReady, versionDiscoveryErrorMessage err)
  if c.skipVersionChecks then .ok ("", "")
  else
    match clusterPolicy with
    | some policy =>
      let (msg, defaulted) := gpuOperandVersionFailureMessage policy gpuOperandRequirements []
      if msg ≠ "" then .ok (reasonGPUOperandVersionUnsupported, msg)
      else if defaulted = [] then .ok ("", "")
      else
        -- an operand left unset runs the GPU Operator's own default
        match gpuOperatorVersion csvs clusterPolicy with
        | .error err => discoveryFailure err
        | .ok (version, source) =>
          let msg := gpuOperatorVersionFailureMessage (version.getD "") source
          if msg ≠ "" then
            .ok (reasonGPUOperatorVersionUnsupported,
              msg ++ ", and it supplies the default " ++ " and ".intercalate defaulted ++
                " version that the ClusterPolicy leaves unset")
          else .ok ("", "")
    | none =>
      match gpuOperatorVersion csvs clusterPolicy with
      | .error err => discoveryFailure err
      | .ok (none, _) => .ok ("", "")
      | .ok (some version, source) =>
        let msg := gpuOperatorVersionFailureMessage version source
        if msg ≠ "" then .ok (reasonGPUOperatorVersionUnsupported, msg) else .ok ("", "")

/-- The daemons request a management CDI device from a namespace that may not. -/
def managementCDINamespaceFailureMessage (c : GpuOperatorDependencyChecker)
    (clusterPolicy : ClusterPolicy) : String :=
  if !clusterPolicy.nriPluginEnabled then ""
  else if c.namespace_ ∈ clusterPolicy.managementCDIDeviceNamespaces then ""
  else
    "NVIDIA GPU Operator runs its NRI plugin, but namespace " ++ GoText.quote c.namespace_ ++
      " is not permitted to request management CDI devices, " ++
      "so the gpu-fractioning daemon pods cannot access a GPU. Add it to the " ++
      nriManagementCDIDeviceNamespacesEnv ++ " environment variable in the " ++
      "ClusterPolicy spec.toolkit.env."

end GpuOperatorDependencyChecker

section Readiness

/-- Status and message of the first condition of the type. -/
def clusterPolicyCondition (clusterPolicy : Json) (condType : String) : Option (String × String) :=
  (((clusterPolicy.nestedSlice ["status", "conditions"]).getD []).find? fun condition =>
    condition.isObject ∧ (condition.nestedString ["type"]).getD "" = condType).map fun condition =>
      ((condition.nestedString ["status"]).getD "", (condition.nestedString ["message"]).getD "")

def conditionStatusIsTrue (status : String) : Bool :=
  GoString.equalFold (GoString.trimSpace status) "True"

def conditionStatusText (status : String) : String :=
  if GoString.trimSpace status = "" then "Unknown" else status

/-- Why the ClusterPolicy is not ready, or the empty string. -/
def clusterPolicyReadinessFailureMessage (clusterPolicy : Json) : String :=
  let stateFailure : String :=
    match clusterPolicy.nestedString ["status", "state"] with
    | some state =>
      if !GoString.equalFold (GoString.trimSpace state) clusterPolicyReadyState then
        "NVIDIA GPU Operator ClusterPolicy state is " ++ GoText.quote state ++ ", expected " ++
          GoText.quote clusterPolicyReadyState
      else ""
    | none =>
      if (clusterPolicyCondition clusterPolicy clusterPolicyReadyCondition).isNone then
        "NVIDIA GPU Operator ClusterPolicy status does not report readiness"
      else ""
  let readyFailure : String :=
    match clusterPolicyCondition clusterPolicy clusterPolicyReadyCondition with
    | some (status, message) =>
      if conditionStatusIsTrue status then stateFailure
      else if message ≠ "" then message
      else "NVIDIA GPU Operator ClusterPolicy Ready condition is " ++ conditionStatusText status
    | none => stateFailure
  match clusterPolicyCondition clusterPolicy clusterPolicyErrorCondition with
  | some (status, message) =>
    if conditionStatusIsTrue status then
      if message ≠ "" then message else "NVIDIA GPU Operator ClusterPolicy reports Error=True"
    else readyFailure
  | none => readyFailure

end Readiness

def gpuOperatorReadyCondition (generation : ℤ) (reason message : String) (now : ℤ) : Condition :=
  { type := conditionReady
    status := .conditionFalse
    observedGeneration := generation
    lastTransitionTime := now
    reason := reason
    message := message }

/-- `Check`: the dependency's verdict on the aggregate condition. `policyCtxDone` and
`csvCtxDone` say whether the context had ended when either list failed. -/
def GpuOperatorDependencyChecker.check (c : GpuOperatorDependencyChecker)
    (csvs : Except ApiError (List Json)) (policyCtxDone csvCtxDone : Bool)
    (clusterPolicy : ClusterPolicy) (generation : ℤ) (ready : Condition) (now : ℤ) :
    Condition × Option String :=
  match clusterPolicy.err with
  | some err =>
    if policyCtxDone then (ready, some err)
    else
      (gpuOperatorReadyCondition generation reasonGPUOperatorNotReady
        ("unable to read NVIDIA GPU Operator ClusterPolicy: " ++ err) now, none)
  | none =>
    match c.versionFailure csvs csvCtxDone clusterPolicy.policy with
    | .error err => (ready, some err)
    | .ok (reason, message) =>
      if reason ≠ "" then (gpuOperatorReadyCondition generation reason message now, none)
      else
        match clusterPolicy.policy with
        | none => (ready, none)
        | some policy =>
          let cdiMsg := c.managementCDINamespaceFailureMessage clusterPolicy
          if cdiMsg ≠ "" then
            (gpuOperatorReadyCondition generation reasonManagementCDINamespaceNotAllowed cdiMsg now,
              none)
          else
            let readinessMsg := clusterPolicyReadinessFailureMessage policy
            if ready.status = .conditionFalse ∧ readinessMsg ≠ "" then
              (gpuOperatorReadyCondition generation reasonGPUOperatorNotReady readinessMsg now,
                none)
            else (ready, none)

section Driver

/-- `driverinfo.ParseDriverMajorLabel`. -/
def parseDriverMajorLabel (value : String) : Option ℤ :=
  (GoStrconv.parseInt (GoString.trimSpace value)).filter fun n => 0 < n

/-- Why the driver of a node does not do, if it does not. -/
def gpuDriverFailureReason (labels : LabelMap) : Option (String × String) :=
  let rawMajor := GoString.trimSpace ((labels.lookup nvidiaDriverMajorLabel).getD "")
  let minimum := GoStrconv.formatInt minGPUDriverMajor
  if rawMajor = "" then
    some (reasonGPUDriverVersionMissing,
      "NVIDIA driver major version label " ++ GoText.quote nvidiaDriverMajorLabel ++
        " is missing; minimum supported major version is " ++ minimum)
  else
    match parseDriverMajorLabel rawMajor with
    | none =>
      some (reasonGPUDriverVersionInvalid,
        "NVIDIA driver major version " ++ GoText.quote rawMajor ++ " from label " ++
          GoText.quote nvidiaDriverMajorLabel ++
          " is invalid; minimum supported major version is " ++ minimum)
    | some major =>
      if major < minGPUDriverMajor then
        some (reasonGPUDriverVersionUnsupported,
          "NVIDIA driver major version " ++ GoStrconv.formatInt major ++
            " is below minimum supported major version " ++ minimum)
      else none

end Driver

section Verdict

variable (c : GpuOperatorDependencyChecker) (csvs : Except ApiError (List Json))
  (policyCtxDone csvCtxDone : Bool) (clusterPolicy : ClusterPolicy) (generation : ℤ)
  (ready : Condition) (now : ℤ)

/-- The verdict leaves the aggregate alone or makes it false. -/
theorem check_cases :
    (c.check csvs policyCtxDone csvCtxDone clusterPolicy generation ready now).1 = ready ∨
      ∃ reason message,
        (c.check csvs policyCtxDone csvCtxDone clusterPolicy generation ready now).1 =
          gpuOperatorReadyCondition generation reason message now := by
  unfold GpuOperatorDependencyChecker.check
  split
  · split_ifs
    · exact Or.inl rfl
    · exact Or.inr ⟨_, _, rfl⟩
  · split
    · exact Or.inl rfl
    · split_ifs
      · exact Or.inr ⟨_, _, rfl⟩
      · split
        · exact Or.inl rfl
        · dsimp only
          split_ifs
          · exact Or.inr ⟨_, _, rfl⟩
          · exact Or.inr ⟨_, _, rfl⟩
          · exact Or.inl rfl

theorem type_check (htype : ready.type = conditionReady) :
    (c.check csvs policyCtxDone csvCtxDone clusterPolicy generation ready now).1.type =
      conditionReady := by
  obtain hsame | ⟨reason, message, hcond⟩ :=
    check_cases c csvs policyCtxDone csvCtxDone clusterPolicy generation ready now
  · rw [hsame, htype]
  · rw [hcond]
    rfl

/-- The dependency has no objection to a condition that is true. -/
def GpuOperatorDependencyChecker.passes : Prop :=
  match clusterPolicy.err with
  | some _ => policyCtxDone = true
  | none =>
    match c.versionFailure csvs csvCtxDone clusterPolicy.policy with
    | .error _ => True
    | .ok (reason, _) =>
      reason = "" ∧
        (clusterPolicy.policy = none ∨ c.managementCDINamespaceFailureMessage clusterPolicy = "")

theorem status_check :
    (c.check csvs policyCtxDone csvCtxDone clusterPolicy generation ready now).1.status =
        .conditionTrue ↔
      ready.status = .conditionTrue ∧ c.passes csvs policyCtxDone csvCtxDone clusterPolicy := by
  have hobjection : ∀ reason message,
      (gpuOperatorReadyCondition generation reason message now).status ≠ .conditionTrue := by
    intro reason message
    simp [gpuOperatorReadyCondition]
  unfold GpuOperatorDependencyChecker.check GpuOperatorDependencyChecker.passes
  cases clusterPolicy.err with
  | some err => by_cases h : policyCtxDone = true <;> simp [h, hobjection]
  | none =>
    cases hfailure : c.versionFailure csvs csvCtxDone clusterPolicy.policy with
    | error err => simp
    | ok failure =>
      by_cases hreason : failure.1 = ""
      · cases hpolicy : clusterPolicy.policy with
        | none => simp [hreason]
        | some policy =>
          by_cases hcdi : c.managementCDINamespaceFailureMessage clusterPolicy = ""
          · by_cases hready : ready.status = .conditionTrue
            · simp [hreason, hcdi, hready]
            · simp only [hreason, hcdi, hready, false_and, iff_false]
              split_ifs <;> simp_all
          · simp [hreason, hcdi, hobjection]
      · simp [hreason, hobjection]

variable {c csvs csvCtxDone clusterPolicy}

theorem gpuOperatorVersion_ok (hcsvs : ∀ err, csvs = .error err → err.isFailure = false)
    (policy : Option Json) : ∃ found, gpuOperatorVersion csvs policy = .ok found := by
  have hfound : ∃ version, clusterServiceVersionGPUOperatorVersion csvs = .ok version := by
    cases csvs with
    | ok csvs => exact ⟨_, rfl⟩
    | error err => exact ⟨none, by simp [clusterServiceVersionGPUOperatorVersion, hcsvs err rfl]⟩
  obtain ⟨version, hversion⟩ := hfound
  unfold gpuOperatorVersion
  simp only [hversion]
  cases policy with
  | none => cases version <;> exact ⟨_, rfl⟩
  | some policy =>
    dsimp only
    split_ifs
    · exact ⟨_, rfl⟩
    · cases version <;> exact ⟨_, rfl⟩

/-- The gate itself fails only when a list failed because the context had ended. -/
theorem versionFailure_ok (c : GpuOperatorDependencyChecker) {csvCtxDone : Bool}
    (hcsvs : csvCtxDone = true → ∀ err, csvs = .error err → err.isFailure = false)
    (policy : Option Json) : ∃ failure, c.versionFailure csvs csvCtxDone policy = .ok failure := by
  unfold GpuOperatorDependencyChecker.versionFailure
  by_cases hskip : c.skipVersionChecks = true
  · exact ⟨_, if_pos hskip⟩
  · rw [if_neg hskip]
    cases hversion : gpuOperatorVersion csvs policy with
    | error err =>
      have hctx : csvCtxDone = false := by
        by_contra hdone
        obtain ⟨found, hfound⟩ := gpuOperatorVersion_ok (hcsvs (Bool.eq_true_of_not_eq_false hdone))
          policy
        rw [hversion] at hfound
        exact absurd hfound (by simp)
      cases policy with
      | none =>
        simp only [hctx, Bool.false_eq_true, if_false]
        exact ⟨_, rfl⟩
      | some policy =>
        simp only [hctx, Bool.false_eq_true, if_false]
        split_ifs <;> exact ⟨_, rfl⟩
    | ok found =>
      obtain ⟨version, source⟩ := found
      cases policy with
      | none =>
        cases version with
        | none => exact ⟨_, rfl⟩
        | some version =>
          dsimp only
          split_ifs <;> exact ⟨_, rfl⟩
      | some policy =>
        dsimp only
        split_ifs <;> exact ⟨_, rfl⟩

theorem check_snd (herr : clusterPolicy.err = none)
    (hcsvs : ∀ err, csvs = .error err → err.isFailure = false) :
    (c.check csvs policyCtxDone csvCtxDone clusterPolicy generation ready now).2 = none := by
  obtain ⟨⟨reason, message⟩, hfailure⟩ : ∃ failure,
      c.versionFailure csvs csvCtxDone clusterPolicy.policy = .ok failure :=
    versionFailure_ok c (fun _ => hcsvs) clusterPolicy.policy
  unfold GpuOperatorDependencyChecker.check
  simp only [herr, hfailure]
  by_cases hreason : reason = ""
  · rw [if_neg (not_not.mpr hreason)]
    cases clusterPolicy.policy with
    | none => rfl
    | some policy =>
      dsimp only
      split_ifs <;> rfl
  · rw [if_pos hreason]

theorem check_of_versionFailure {reason message : String} (herr : clusterPolicy.err = none)
    (hfailure : c.versionFailure csvs csvCtxDone clusterPolicy.policy = .ok (reason, message))
    (hreason : reason ≠ "") :
    c.check csvs policyCtxDone csvCtxDone clusterPolicy generation ready now =
      (gpuOperatorReadyCondition generation reason message now, none) := by
  simp only [GpuOperatorDependencyChecker.check, herr, hfailure, ne_eq, hreason, not_false_eq_true,
    if_true]

end Verdict

end GpuFractioning.Operator
