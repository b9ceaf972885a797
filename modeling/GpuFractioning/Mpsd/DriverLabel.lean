import GpuFractioning.Metricsd.NVMLCollector
import GpuFractioning.Operator.Finalizer

/-!
# The driver label of a node

`mpsd/internal/driverlabel/labeler.go` and `pkg/driverinfo/driver.go`. mpsd reads the
version of the driver through NVML and puts its major part on the node, where the
operator reads it to explain why a node is not ready.
-/

namespace GpuFractioning.Mpsd

open Operator (Node nvidiaDriverMajorLabel parseDriverMajorLabel gpuDriverFailureReason
  minGPUDriverMajor)

section Source

/-- `parsePositiveInt`, with what `strconv.Atoi` says of a text that it refuses. -/
def parsePositiveInt (atoiError : String → String) (value : String) : Except String ℤ :=
  if value = "" then .error "value is empty"
  else
    match GoStrconv.parseInt value with
    | none => .error (atoiError value)
    | some parsed => if parsed ≤ 0 then .error "value must be positive" else .ok parsed

def parseDriverVersionMajor (atoiError : String → String) (version : String) : Except String ℤ :=
  let version := GoString.trimSpace version
  if version = "" then .error "driver version is empty"
  else parsePositiveInt atoiError (GoString.before '.' version)

/-- What becomes of a patch. The answer to one that was applied may be lost. -/
inductive PatchOutcome where
  | done
  | refused (err : String)
  | lost (err : String)

/-- What the calls of `LabelCurrentNode` find. -/
structure LabelEnv where
  nodeName : String
  init : Metricsd.NVML.Return
  driverVersion : String × Metricsd.NVML.Return
  atoiError : String → String
  inClusterConfig : Option String
  newForConfig : Option String
  patch : PatchOutcome

abbrev Nodes := FiniteMap String Node

def driverVersionFromNVML (env : LabelEnv) : Except String String :=
  if env.init.code ≠ .success ∧ env.init.code ≠ .alreadyInitialized then
    .error ("initialize NVML: " ++ env.init.text)
  else if env.driverVersion.2.code ≠ .success then
    .error ("read NVIDIA driver version from NVML: " ++ env.driverVersion.2.text)
  else
    let version := GoString.trimSpace env.driverVersion.1
    if version = "" then .error "NVML returned an empty NVIDIA driver version" else .ok version

/-- The labels of the merge patch. -/
def driverMajorLabelPatch (major : ℤ) : Except String (List (String × String)) :=
  if major ≤ 0 then .error "driver major must be positive"
  else .ok [(nvidiaDriverMajorLabel, GoStrconv.formatInt major)]

/-- A merge patch sets the labels that it names. -/
def mergeLabels (patch : List (String × String)) (node : Node) : Node :=
  { node with labels := FiniteMap.insertAll Prod.fst Prod.snd patch node.labels }

/-- The nodes after the patch has been sent, and its error. -/
def patchNodeDriverMajor (env : LabelEnv) (major : ℤ) (nodes : Nodes) : Nodes × Option String :=
  match env.inClusterConfig with
  | some err => (nodes, some ("load in-cluster Kubernetes config: " ++ err))
  | none =>
    match env.newForConfig with
    | some err => (nodes, some ("create Kubernetes CoreV1 client: " ++ err))
    | none =>
      match driverMajorLabelPatch major with
      | .error err => (nodes, some err)
      | .ok body =>
        let failed := fun err => some ("patch node " ++ env.nodeName ++ " label " ++
          GoText.quote nvidiaDriverMajorLabel ++ ": " ++ err)
        match nodes.lookup env.nodeName with
        | none => (nodes, failed ("nodes " ++ GoText.quote env.nodeName ++ " not found"))
        | some node =>
          match env.patch with
          | .refused err => (nodes, failed err)
          | .lost err => (nodes.insert env.nodeName (mergeLabels body node), failed err)
          | .done => (nodes.insert env.nodeName (mergeLabels body node), none)

def labelCurrentNode (env : LabelEnv) (nodes : Nodes) : Nodes × Option String :=
  if env.nodeName = "" then (nodes, some "NODE_NAME is required")
  else
    match driverVersionFromNVML env with
    | .error err => (nodes, some err)
    | .ok driverVersion =>
      match parseDriverVersionMajor env.atoiError driverVersion with
      | .error err =>
        (nodes, some ("parse NVIDIA driver version " ++ GoText.quote driverVersion ++ ": " ++ err))
      | .ok major => patchNodeDriverMajor env major nodes

end Source

section Reading

variable {env : LabelEnv} {nodes : Nodes} {major : ℤ} {atoiError : String → String}

theorem trimSpace_formatInt {n : ℤ} (hn : 0 ≤ n) :
    GoString.trimSpace (GoStrconv.formatInt n) = GoStrconv.formatInt n := by
  obtain ⟨m, rfl⟩ := Int.eq_ofNat_of_zero_le hn
  have hlist : (GoStrconv.formatInt m).toList = Nat.toDigits 10 m := Nat.toList_repr
  rw [GoString.trimSpace, GoString.trimChars_eq_self, String.ofList_toList]
  intro c hc
  rw [hlist] at hc
  have hdigit := Nat.isDigit_of_mem_toDigits (by decide) (by decide) hc
  simp only [Char.isDigit, Bool.and_eq_true, decide_eq_true_eq] at hdigit
  have hlow : 48 ≤ c.toNat := hdigit.1
  have hhigh : c.toNat ≤ 57 := hdigit.2
  simp only [GoString.isSpace, List.mem_cons, List.not_mem_nil, or_false, Bool.or_eq_false_iff,
    decide_eq_false_iff_not, Bool.and_eq_false_iff]
  omega

theorem parsePositiveInt_eq_ok {value : String} :
    parsePositiveInt atoiError value = .ok major ↔
      GoStrconv.parseInt value = some major ∧ 0 < major := by
  unfold parsePositiveInt
  by_cases hempty : value = ""
  · have hnone : GoStrconv.parseInt "" = none := by decide
    simp [hempty, hnone]
  · rw [if_neg hempty]
    cases GoStrconv.parseInt value with
    | none => simp
    | some parsed =>
      dsimp only
      split_ifs with hsign
      · refine iff_of_false (by simp) ?_
        rintro ⟨h, hpos⟩
        cases h
        omega
      · constructor
        · intro h
          cases h
          exact ⟨rfl, by omega⟩
        · rintro ⟨h, -⟩
          cases h
          rfl

theorem bounds_of_parsePositiveInt {value : String}
    (h : parsePositiveInt atoiError value = .ok major) :
    0 < major ∧ major ≤ GoStrconv.maxInt64 := by
  obtain ⟨hparsed, hpos⟩ := parsePositiveInt_eq_ok.mp h
  have hrange := (Option.filter_eq_some_iff.mp hparsed).2
  simp only [decide_eq_true_eq] at hrange
  exact ⟨hpos, hrange.2⟩

theorem bounds_of_parseDriverVersionMajor {version : String}
    (h : parseDriverVersionMajor atoiError version = .ok major) :
    0 < major ∧ major ≤ GoStrconv.maxInt64 := by
  unfold parseDriverVersionMajor at h
  dsimp only at h
  split_ifs at h
  exact bounds_of_parsePositiveInt h

/-- The node with the label of a driver. -/
def withDriverMajor (major : ℤ) (node : Node) : Node :=
  mergeLabels [(nvidiaDriverMajorLabel, GoStrconv.formatInt major)] node

theorem lookup_withDriverMajor (major : ℤ) (node : Node) (key : String) :
    (withDriverMajor major node).labels.lookup key =
      if key = nvidiaDriverMajorLabel then some (GoStrconv.formatInt major)
      else node.labels.lookup key :=
  FiniteMap.lookup_insert node.labels nvidiaDriverMajorLabel key (GoStrconv.formatInt major)

theorem sameOtherwise_withDriverMajor (major : ℤ) (node : Node) :
    node.SameOtherwise (withDriverMajor major node) := by
  refine ⟨rfl, ?_⟩
  intro key hkey
  rw [lookup_withDriverMajor, if_neg hkey]

theorem parseDriverMajorLabel_formatInt (hpos : 0 < major) (hmax : major ≤ GoStrconv.maxInt64) :
    parseDriverMajorLabel (GoStrconv.formatInt major) = some major := by
  have hmin : GoStrconv.minInt64 ≤ major := by
    unfold GoStrconv.minInt64
    omega
  rw [parseDriverMajorLabel, trimSpace_formatInt hpos.le, GoStrconv.parseInt_formatInt hmin hmax]
  exact Option.filter_eq_some_iff.mpr ⟨rfl, decide_eq_true hpos⟩

/-- The operator reads the major that was written, and finds fault only with an old one. -/
theorem gpuDriverFailureReason_withDriverMajor (hpos : 0 < major)
    (hmax : major ≤ GoStrconv.maxInt64) (node : Node) :
    gpuDriverFailureReason (withDriverMajor major node).labels =
      if major < minGPUDriverMajor then
        some (Operator.reasonGPUDriverVersionUnsupported,
          "NVIDIA driver major version " ++ GoStrconv.formatInt major ++
            " is below minimum supported major version " ++
            GoStrconv.formatInt minGPUDriverMajor)
      else none := by
  unfold gpuDriverFailureReason
  simp only [lookup_withDriverMajor, if_true, Option.getD_some, trimSpace_formatInt hpos.le,
    GoStrconv.formatInt_ne_empty, if_false, parseDriverMajorLabel_formatInt hpos hmax]

end Reading

section Labelling

variable {env : LabelEnv} {nodes : Nodes}

/-- NVML answers with a version whose text up to the first dot writes this number. -/
structure LabelEnv.Drives (env : LabelEnv) (major : ℤ) : Prop where
  init : env.init.code = .success ∨ env.init.code = .alreadyInitialized
  answered : env.driverVersion.2.code = .success
  version : ∃ text : String, '.' ∉ text.toList ∧
    (GoString.trimSpace env.driverVersion.1 = text ∨
      GoString.hasPrefix (GoString.trimSpace env.driverVersion.1) (text ++ ".") = true) ∧
    GoStrconv.parseInt text = some major
  positive : 0 < major

theorem driverVersionFromNVML_eq_ok {version : String} :
    driverVersionFromNVML env = .ok version ↔
      (env.init.code = .success ∨ env.init.code = .alreadyInitialized) ∧
        env.driverVersion.2.code = .success ∧ version ≠ "" ∧
        GoString.trimSpace env.driverVersion.1 = version := by
  unfold driverVersionFromNVML
  dsimp only
  split_ifs with hinit hanswer hempty
  · refine iff_of_false (by simp) ?_
    rintro ⟨h | h, -⟩
    · exact hinit.1 h
    · exact hinit.2 h
  · exact iff_of_false (by simp) fun h => hanswer h.2.1
  · exact iff_of_false (by simp) fun h => h.2.2.1 (h.2.2.2.symm.trans hempty)
  · constructor
    · intro h
      cases h
      exact ⟨or_iff_not_and_not.mpr hinit, not_not.mp hanswer, hempty, rfl⟩
    · rintro ⟨-, -, -, rfl⟩
      rfl

theorem LabelEnv.drives_iff {major : ℤ} :
    env.Drives major ↔ ∃ version, driverVersionFromNVML env = .ok version ∧
      parseDriverVersionMajor env.atoiError version = .ok major := by
  constructor
  · intro h
    obtain ⟨text, hdot, htext, hparsed⟩ := h.version
    have hbefore := (GoString.before_eq_iff hdot).mpr htext
    have hne : GoString.trimSpace env.driverVersion.1 ≠ "" := by
      intro hempty
      rw [hempty] at hbefore
      rw [← hbefore] at hparsed
      exact absurd hparsed (by simp [show GoStrconv.parseInt (GoString.before '.' "") = none by
        decide])
    refine ⟨_, driverVersionFromNVML_eq_ok.mpr ⟨h.init, h.answered, hne, rfl⟩, ?_⟩
    rw [parseDriverVersionMajor, GoString.trimSpace_trimSpace, if_neg hne, hbefore]
    exact parsePositiveInt_eq_ok.mpr ⟨hparsed, h.positive⟩
  · rintro ⟨version, hversion, hmajor⟩
    obtain ⟨hinit, hanswer, hne, rfl⟩ := driverVersionFromNVML_eq_ok.mp hversion
    rw [parseDriverVersionMajor, GoString.trimSpace_trimSpace, if_neg hne] at hmajor
    obtain ⟨hparsed, hpos⟩ := parsePositiveInt_eq_ok.mp hmajor
    have hdot : '.' ∉ (GoString.before '.' (GoString.trimSpace env.driverVersion.1)).toList := by
      rw [GoString.before, String.toList_ofList]
      intro hmem
      simpa using List.mem_takeWhile_imp hmem
    exact ⟨hinit, hanswer, ⟨_, hdot, (GoString.before_eq_iff hdot).mp rfl, hparsed⟩, hpos⟩

theorem LabelEnv.Drives.unique {major major' : ℤ} (h : env.Drives major) (h' : env.Drives major') :
    major = major' := by
  obtain ⟨version, hversion, hmajor⟩ := drives_iff.mp h
  obtain ⟨version', hversion', hmajor'⟩ := drives_iff.mp h'
  rw [hversion] at hversion'
  cases hversion'
  rw [hmajor] at hmajor'
  cases hmajor'
  rfl

/-- The label was put on the node: nothing else is different in the cluster, the operator reads
the version from it and can only complain about the version itself. -/
structure Labelled (env : LabelEnv) (nodes nodes' : Nodes) (major : ℤ) : Prop where
  drives : env.Drives major
  others : ∀ name, name ≠ env.nodeName → nodes'.lookup name = nodes.lookup name
  node : ∃ node node', nodes.lookup env.nodeName = some node ∧
    nodes'.lookup env.nodeName = some node' ∧ node.SameOtherwise node' ∧
    node'.conditions = node.conditions ∧
    Operator.carriesDriverMajor node' ∧
    (node'.labels.lookup nvidiaDriverMajorLabel).bind parseDriverMajorLabel = some major ∧
    gpuDriverFailureReason node'.labels =
      if major < minGPUDriverMajor then
        some (Operator.reasonGPUDriverVersionUnsupported,
          "NVIDIA driver major version " ++ GoStrconv.formatInt major ++
            " is below minimum supported major version " ++
            GoStrconv.formatInt minGPUDriverMajor)
      else none

theorem labelled_insert {major : ℤ} (hdrives : env.Drives major) {node : Node}
    (hnode : nodes.lookup env.nodeName = some node) :
    Labelled env nodes (nodes.insert env.nodeName (withDriverMajor major node)) major := by
  obtain ⟨version, -, hparse⟩ := LabelEnv.drives_iff.mp hdrives
  obtain ⟨hpos, hmax⟩ := bounds_of_parseDriverVersionMajor hparse
  refine ⟨hdrives, ?_, node, withDriverMajor major node, hnode, ?_,
    sameOtherwise_withDriverMajor major node, rfl, ?_, ?_,
    gpuDriverFailureReason_withDriverMajor hpos hmax node⟩
  · intro name hname
    rw [FiniteMap.lookup_insert, if_neg hname]
  · rw [FiniteMap.lookup_insert, if_pos rfl]
  · rw [Operator.carriesDriverMajor, lookup_withDriverMajor, if_pos rfl]
    exact GoStrconv.formatInt_ne_empty major
  · rw [lookup_withDriverMajor, if_pos rfl, Option.bind_some]
    exact parseDriverMajorLabel_formatInt hpos hmax

/-- What a run of `LabelCurrentNode` can come to. -/
theorem labelCurrentNode_cases (env : LabelEnv) (nodes : Nodes) :
    (labelCurrentNode env nodes).1 = nodes ∧ (labelCurrentNode env nodes).2 ≠ none ∨
      ∃ major, Labelled env nodes (labelCurrentNode env nodes).1 major ∧
        ((labelCurrentNode env nodes).2 = none ∨ ∃ err, env.patch = .lost err) := by
  unfold labelCurrentNode
  split_ifs
  · exact .inl ⟨rfl, Option.some_ne_none _⟩
  cases hversion : driverVersionFromNVML env with
  | error err => exact .inl ⟨rfl, Option.some_ne_none _⟩
  | ok version =>
    dsimp only
    cases hmajor : parseDriverVersionMajor env.atoiError version with
    | error err => exact .inl ⟨rfl, Option.some_ne_none _⟩
    | ok major =>
      have hdrives : env.Drives major := LabelEnv.drives_iff.mpr ⟨version, hversion, hmajor⟩
      have hpos := (bounds_of_parseDriverVersionMajor hmajor).1
      simp only [patchNodeDriverMajor, driverMajorLabelPatch, if_neg (not_le.mpr hpos)]
      cases env.inClusterConfig with
      | some err => exact .inl ⟨rfl, Option.some_ne_none _⟩
      | none =>
        cases env.newForConfig with
        | some err => exact .inl ⟨rfl, Option.some_ne_none _⟩
        | none =>
          cases hnode : nodes.lookup env.nodeName with
          | none => exact .inl ⟨rfl, Option.some_ne_none _⟩
          | some node =>
            cases hpatch : env.patch with
            | refused err => exact .inl ⟨rfl, Option.some_ne_none _⟩
            | lost err => exact .inr ⟨major, labelled_insert hdrives hnode, .inr ⟨err, rfl⟩⟩
            | done => exact .inr ⟨major, labelled_insert hdrives hnode, .inl rfl⟩

/-- Nothing is in the way of the label. -/
structure LabelEnv.Ready (env : LabelEnv) (nodes : Nodes) : Prop where
  named : env.nodeName ≠ ""
  driver : ∃ major, env.Drives major
  config : env.inClusterConfig = none
  client : env.newForConfig = none
  present : (nodes.lookup env.nodeName).isSome
  patched : env.patch = .done

theorem LabelEnv.Ready.labelCurrentNode (h : env.Ready nodes) :
    (labelCurrentNode env nodes).2 = none := by
  obtain ⟨major, hdrives⟩ := h.driver
  obtain ⟨version, hversion, hmajor⟩ := LabelEnv.drives_iff.mp hdrives
  obtain ⟨node, hnode⟩ := Option.isSome_iff_exists.mp h.present
  have hpos := (bounds_of_parseDriverVersionMajor hmajor).1
  simp only [Mpsd.labelCurrentNode, if_neg h.named, hversion, hmajor, patchNodeDriverMajor,
    h.config, h.client, driverMajorLabelPatch, if_neg (not_le.mpr hpos), hnode, h.patched]

theorem ready_of_labelCurrentNode (h : (labelCurrentNode env nodes).2 = none) :
    env.Ready nodes := by
  obtain ⟨-, herr⟩ | ⟨major, hlabelled, -⟩ := labelCurrentNode_cases env nodes
  · exact absurd h herr
  obtain ⟨version, hversion, hmajor⟩ := LabelEnv.drives_iff.mp hlabelled.drives
  obtain ⟨node, -, hnode, -⟩ := hlabelled.node
  have hpos := (bounds_of_parseDriverVersionMajor hmajor).1
  have hnamed : env.nodeName ≠ "" := by
    intro hempty
    simp [labelCurrentNode, hempty] at h
  simp only [labelCurrentNode, if_neg hnamed, hversion, hmajor, patchNodeDriverMajor,
    driverMajorLabelPatch, if_neg (not_le.mpr hpos), hnode] at h
  cases hconfig : env.inClusterConfig with
  | some err => simp [hconfig] at h
  | none =>
    cases hclient : env.newForConfig with
    | some err => simp [hconfig, hclient] at h
    | none =>
      cases hpatch : env.patch with
      | refused err => simp [hconfig, hclient, hpatch] at h
      | lost err => simp [hconfig, hclient, hpatch] at h
      | done =>
        exact ⟨hnamed, ⟨major, hlabelled.drives⟩, hconfig, hclient, by simp [hnode], hpatch⟩

/-- The label is written exactly when nothing is in the way of it, with the major version that
NVML reports. The operator then reads that version, other labels, conditions and nodes are as
they were, and after an error the cluster is unchanged, unless only the answer was lost. -/
theorem driver_label_reaches_operator (env : LabelEnv) (nodes : Nodes) :
    ((labelCurrentNode env nodes).2 = none ↔ env.Ready nodes) ∧
      ((labelCurrentNode env nodes).2 = none →
        ∃ major, Labelled env nodes (labelCurrentNode env nodes).1 major) ∧
      ((labelCurrentNode env nodes).2 ≠ none →
        (labelCurrentNode env nodes).1 = nodes ∨
          (∃ err, env.patch = .lost err) ∧
            ∃ major, Labelled env nodes (labelCurrentNode env nodes).1 major) := by
  refine ⟨⟨ready_of_labelCurrentNode, LabelEnv.Ready.labelCurrentNode⟩, ?_, ?_⟩
  · intro hnone
    obtain ⟨-, herr⟩ | ⟨major, hlabelled, -⟩ := labelCurrentNode_cases env nodes
    · exact absurd hnone herr
    · exact ⟨major, hlabelled⟩
  · intro herr
    obtain ⟨hsame, -⟩ | ⟨major, hlabelled, hnone | hlost⟩ := labelCurrentNode_cases env nodes
    · exact .inl hsame
    · exact absurd hnone herr
    · exact .inr ⟨hlost, major, hlabelled⟩

/-- A node with a recent driver, on which every call succeeds. -/
def recentDriver : LabelEnv :=
  { nodeName := "gpu-1"
    init := ⟨.alreadyInitialized, "Already Initialized"⟩
    driverVersion := ("615.43.02\n", ⟨.success, "SUCCESS"⟩)
    atoiError := fun value => "strconv.Atoi: parsing " ++ GoText.quote value ++ ": invalid syntax"
    inClusterConfig := none
    newForConfig := none
    patch := .done }

def bareNodes : Nodes := (∅ : Nodes).insert "gpu-1" ⟨∅, []⟩

theorem driver_label_reaches_operator_recentDriver :
    recentDriver.Drives 615 ∧
      Labelled recentDriver bareNodes (labelCurrentNode recentDriver bareNodes).1 615 := by
  have hdrives : recentDriver.Drives 615 :=
    ⟨by decide, by decide, ⟨"615", by decide, by decide, by decide⟩, by decide⟩
  obtain ⟨hiff, hlabelled, -⟩ := driver_label_reaches_operator recentDriver bareNodes
  obtain ⟨major, h⟩ := hlabelled
    (hiff.mpr ⟨by decide, ⟨615, hdrives⟩, rfl, rfl, by decide, rfl⟩)
  obtain rfl := h.drives.unique hdrives
  exact ⟨hdrives, h⟩

end Labelling

end GpuFractioning.Mpsd
