import GpuFractioning.Operator.Cluster

/-!
# The Ready condition of the nodes

`operator/internal/common/daemonmgr/conditions.go`, and the functions of the
controller that set and remove the condition: `patchNodeConditions` walks over
the managed pods page by page, `evaluateDriverUpgrade` clears nodes whose driver
is being upgraded.
-/

namespace GpuFractioning.Operator

section Condition

def findNodeCondition (node : Node) : Option NodeCondition :=
  node.conditions.find? fun cond => cond.type = nodeConditionType

/-- A strategic merge patch of the conditions, which are keyed by type. -/
def Node.mergeCondition (cond : NodeCondition) (node : Node) : Node :=
  { node with
    conditions := KeyedList.upsert NodeCondition.type (fun _ => cond) cond node.conditions }

def Node.deleteCondition (node : Node) : Node :=
  { node with conditions := node.conditions.filter fun cond => cond.type ≠ nodeConditionType }

/-- The patch of `PatchNodeCondition`; the clock is read once. -/
def writeNodeCondition (env : Env) (page item : ℕ) (c : Cluster) (nodeName : String)
    (condition : NodeCondition) (transitionTime : ℤ) : Cluster × Option String :=
  let failure (message : String) : Cluster × Option String :=
    (c, some ("patching node " ++ nodeName ++ " condition: " ++ message))
  match env.fails (.patchNode page item) with
  | some message => failure message
  | none =>
    if (c.nodes.lookup nodeName).isNone then failure ApiError.notFound.message
    else
      (c.modifyNode nodeName (Node.mergeCondition
        { condition with
          lastHeartbeatTime := env.now (.patchNode page item)
          lastTransitionTime := transitionTime }), none)

/-- `PatchNodeCondition`: nothing is written when status, reason and message agree, and
the transition time is kept when the status does. A failed read is only logged. -/
def patchNodeCondition (env : Env) (page item : ℕ) (c : Cluster) (nodeName : String)
    (condition : NodeCondition) : Cluster × Option String :=
  let now := env.now (.patchNode page item)
  let read : Option Node :=
    match env.fails (.readNode page item) with
    | some _ => none
    | none => c.nodes.lookup nodeName
  if condition.type ≠ nodeConditionType then
    (c, some ("unexpected node condition type " ++ GoText.quote condition.type ++ ", expected " ++
      GoText.quote nodeConditionType))
  else
    match read.bind findNodeCondition with
    | some existing =>
      if existing.status = condition.status then
        if existing.reason = condition.reason ∧ existing.message = condition.message then (c, none)
        else writeNodeCondition env page item c nodeName condition existing.lastTransitionTime
      else writeNodeCondition env page item c nodeName condition now
    | none => writeNodeCondition env page item c nodeName condition now

/-- `RemoveNodeCondition`; a node that is gone counts as success. -/
def removeNodeCondition (env : Env) (call : ApiCall) (c : Cluster) (nodeName : String) :
    Cluster × Option String :=
  match env.fails call with
  | some message => (c, some ("removing condition from node " ++ nodeName ++ ": " ++ message))
  | none => (c.modifyNode nodeName Node.deleteCondition, none)

/-- `GpuDriverDependencyChecker.Check`: a false condition may be explained by the
driver label of the node. -/
def checkGpuDriver (env : Env) (page item : ℕ) (c : Cluster) (nodeName : String)
    (condition : NodeCondition) : NodeCondition × Option String :=
  let unread (message : String) : NodeCondition × Option String :=
    (condition, if env.ctxDone (.checkDriver page item) then some message else none)
  if condition.status ≠ .conditionFalse then (condition, none)
  else
    match env.fails (.checkDriver page item) with
    | some message => unread message
    | none =>
      match c.nodes.lookup nodeName with
      | none => unread ApiError.notFound.message
      | some node =>
        match gpuDriverFailureReason node.labels with
        | some (reason, message) => ({ condition with reason := reason, message := message }, none)
        | none => (condition, none)

end Condition

section Pods

def isPodReady (pod : Pod) : Bool :=
  pod.conditions.any fun cond => cond.type = "Ready" && cond.status = .conditionTrue

def podFailureReason (pod : Pod) : String :=
  match (pod.initContainerStatuses ++ pod.containerStatuses).find? fun status =>
    match status.waiting with
    | some reason => reason ≠ ""
    | none => false with
  | some status => status.waiting.getD ""
  | none =>
    match pod.phase with
    | .pending => "Pending"
    | .failed => "Failed"
    | .running | .succeeded | .unknown => "NotReady"

def nodeConditionForPod (ready : Bool) (pod : Pod) : NodeCondition :=
  if ready then
    ⟨nodeConditionType, .conditionTrue, reasonAllDaemonsReady, messageAllDaemonsReady, 0, 0⟩
  else
    let reason := podFailureReason pod
    let daemonName := (pod.labels.lookup labelComponent).getD ""
    ⟨nodeConditionType, .conditionFalse, reason,
      daemonName ++ " pod is not ready: " ++ reason, 0, 0⟩

end Pods

section Pass

/-- The state of a `patchNodeConditions` pass. -/
structure NodePass where
  cluster : Cluster
  unhealthyNodes : Finset String
  errs : List String

namespace NodePass

/-- One pod: a node stays unhealthy once one of its pods is not ready. -/
def visit (env : Env) (page : ℕ) (pass : NodePass) (entry : Pod × ℕ) : NodePass :=
  let pod := entry.1
  let item := entry.2
  let ready := isPodReady pod
  if pod.nodeName = "" then pass
  else if ready ∧ pod.nodeName ∈ pass.unhealthyNodes then pass
  else
    let (condition, checkErr) :=
      checkGpuDriver env page item pass.cluster pod.nodeName (nodeConditionForPod ready pod)
    let (cluster, patchErr) :=
      patchNodeCondition env page item pass.cluster pod.nodeName condition
    { cluster := cluster
      unhealthyNodes :=
        if ready then pass.unhealthyNodes else insert pod.nodeName pass.unhealthyNodes
      errs := pass.errs ++ checkErr.toList ++ patchErr.toList }

/-- The pages, from the given one on; a list that fails ends the pass. -/
def visitPages (env : Env) : ℕ → List (List Pod) → NodePass → NodePass
  | _, [], pass => pass
  | page, pods :: rest, pass =>
    match env.fails (.listPods page) with
    | some message =>
      { pass with
        errs := pass.errs ++ ["listing pods for node condition patching: " ++ message] }
    | none => visitPages env (page + 1) rest (pods.zipIdx.foldl (visit env page) pass)

end NodePass

/-- The pages of managed pods a pass lists. -/
def podPagesOf (env : Env) (c : Cluster) (namespace_ : String) : List (List Pod) :=
  atLeastOnePage (env.podPages (c.managedPods namespace_))

def patchNodeConditions (env : Env) (c : Cluster) (namespace_ : String) : NodePass :=
  NodePass.visitPages env 0 (podPagesOf env c namespace_) ⟨c, ∅, []⟩

end Pass

section DriverUpgrade

/-- The label is set to something other than the terminal value. -/
def driverUpgrading (labels : LabelMap) : Bool :=
  match labels.lookup driverUpgradeStateLabel with
  | none => false
  | some state => state ≠ driverUpgradeStateDone

/-- The condition of one listed node is removed if it has one. -/
def clearUpgradingNode (env : Env) (acc : Cluster × List String) (entry : String × Node) :
    Cluster × List String :=
  if (findNodeCondition entry.2).isSome then
    let (c, err) := removeNodeCondition env (.removeUpgradingCondition entry.1) acc.1 entry.1
    (c, acc.2 ++ err.toList)
  else acc

/-- Whether a targeted node is being upgraded, or the error. -/
def evaluateDriverUpgrade (env : Env) (c : Cluster) (nodeSelector : LabelMap) :
    Cluster × Except String Bool :=
  match env.fails .listUpgradingNodes with
  | some message => (c, .error ("listing driver-upgrade nodes: " ++ message))
  | none =>
    let nodes := (c.nodesMatching nodeSelector).filter fun entry => driverUpgrading entry.2.labels
    let (c, errs) := nodes.foldl (clearUpgradingNode env) (c, [])
    (c, if errs = [] then .ok (nodes ≠ []) else .error ("\n".intercalate errs))

end DriverUpgrade

section Cleanup

/-- One page of nodes whose condition is removed. -/
def removeConditionsPage (env : Env) (acc : Cluster × List String) (entry : String × Node) :
    Cluster × List String :=
  if (findNodeCondition entry.2).isNone then acc
  else
    let (c, err) := removeNodeCondition env (.removeCondition entry.1) acc.1 entry.1
    (c, acc.2 ++ err.toList)

/-- One page of nodes whose driver label is removed. -/
def removeLabelsPage (env : Env) (acc : Cluster × List String) (entry : String × Node) :
    Cluster × List String :=
  let failure (message : String) : Cluster × List String :=
    (acc.1, acc.2 ++ ["removing driver label from node " ++ entry.1 ++ ": " ++ message])
  if (entry.2.labels.lookup nvidiaDriverMajorLabel).getD "" = "" then acc
  else
    match env.fails (.removeLabel entry.1) with
    | some message => failure message
    | none =>
      if (acc.1.nodes.lookup entry.1).isNone then failure ApiError.notFound.message
      else
        (acc.1.modifyNode entry.1 fun node =>
          { node with labels := node.labels.erase nvidiaDriverMajorLabel }, acc.2)

/-- A sweep over pages of nodes: a failed list ends it, failures of single nodes are
collected. -/
def sweepNodes (env : Env) (listCall : ℕ → ApiCall)
    (visit : Cluster × List String → String × Node → Cluster × List String) :
    ℕ → List (List (String × Node)) → Cluster × List String → Cluster × List String
  | _, [], acc => acc
  | page, nodes :: rest, acc =>
    match env.fails (listCall page) with
    | some message => (acc.1, ["listing nodes: " ++ message])
    | none => sweepNodes env listCall visit (page + 1) rest (nodes.foldl visit acc)

def nodesToSweep (env : Env) (c : Cluster) (nodeSelector : LabelMap) :
    List (List (String × Node)) :=
  atLeastOnePage (env.nodePages (c.nodesMatching nodeSelector))

def removeNodeConditions (env : Env) (c : Cluster) (nodeSelector : LabelMap) :
    Cluster × List String :=
  sweepNodes env .listNodesWithCondition (removeConditionsPage env) 0
    (nodesToSweep env c nodeSelector) (c, [])

def removeDriverMajorLabels (env : Env) (c : Cluster) (nodeSelector : LabelMap) :
    Cluster × List String :=
  sweepNodes env .listNodesWithLabel (removeLabelsPage env) 0 (nodesToSweep env c nodeSelector)
    (c, [])

end Cleanup

section ReadyStatus

/-- The status of the node's condition, if the node carries it. -/
def Cluster.readyStatus (c : Cluster) (nodeName : String) : Option ConditionStatus :=
  ((c.nodes.lookup nodeName).bind findNodeCondition).map NodeCondition.status

def Cluster.labelsOf (c : Cluster) (nodeName : String) : Option LabelMap :=
  (c.nodes.lookup nodeName).map Node.labels

/-- Only nodes differ, and those not in their labels. -/
structure Cluster.OnlyConditions (c c' : Cluster) : Prop where
  frame : c' = { c with nodes := c'.nodes }
  labels : ∀ nodeName, c'.labelsOf nodeName = c.labelsOf nodeName

theorem Cluster.OnlyConditions.refl (c : Cluster) : c.OnlyConditions c := ⟨rfl, fun _ => rfl⟩

theorem Cluster.OnlyConditions.trans {c c' c'' : Cluster} (h : c.OnlyConditions c')
    (h' : c'.OnlyConditions c'') : c.OnlyConditions c'' where
  frame := by
    rw [h'.frame, h.frame]
  labels nodeName := (h'.labels nodeName).trans (h.labels nodeName)

theorem Cluster.OnlyConditions.modifyNode (c : Cluster) (nodeName : String) {f : Node → Node}
    (hf : ∀ node, (f node).labels = node.labels) : c.OnlyConditions (c.modifyNode nodeName f) where
  frame := c.modifyNode_frame nodeName f
  labels nodeName' := by
    rw [Cluster.labelsOf, Cluster.lookup_modifyNode]
    split_ifs with h
    · rw [Cluster.labelsOf, h, Option.map_map]
      exact Option.map_congr fun node _ => hf node
    · rfl

theorem findNodeCondition_mergeCondition {cond : NodeCondition}
    (htype : cond.type = nodeConditionType) (node : Node) :
    findNodeCondition (node.mergeCondition cond) = some cond := by
  have hfind := KeyedList.find?_upsert NodeCondition.type cond id (fun _ => rfl) (fun _ => rfl)
    node.conditions nodeConditionType
  rw [Option.map_id, if_pos htype] at hfind
  exact hfind

theorem readyStatus_modifyNode (c : Cluster) (nodeName : String) (f : Node → Node)
    (nodeName' : String) :
    (c.modifyNode nodeName f).readyStatus nodeName' =
      if nodeName' = nodeName then
        ((c.nodes.lookup nodeName).bind fun node => findNodeCondition (f node)).map
          NodeCondition.status
      else c.readyStatus nodeName' := by
  rw [Cluster.readyStatus, Cluster.lookup_modifyNode]
  split_ifs with h
  · cases c.nodes.lookup nodeName <;> rfl
  · rfl

variable (env : Env) (page item : ℕ) (c : Cluster) (nodeName : String) (condition : NodeCondition)

theorem readyStatus_writeNodeCondition (htype : condition.type = nodeConditionType)
    (transitionTime : ℤ) (nodeName' : String) :
    (writeNodeCondition env page item c nodeName condition transitionTime).1.readyStatus nodeName' =
      if nodeName' = nodeName ∧
          (writeNodeCondition env page item c nodeName condition transitionTime).2 = none then
        some condition.status
      else c.readyStatus nodeName' := by
  unfold writeNodeCondition
  cases env.fails (.patchNode page item) with
  | some message => simp
  | none =>
    cases hnode : c.nodes.lookup nodeName with
    | none => simp
    | some node =>
      simp only [Option.isNone_some, Bool.false_eq_true, if_false, and_true,
        readyStatus_modifyNode, hnode, Option.bind_some]
      rw [findNodeCondition_mergeCondition]
      · rfl
      · exact htype

theorem patchNodeCondition_cases (htype : condition.type = nodeConditionType) :
    patchNodeCondition env page item c nodeName condition = (c, none) ∧
        c.readyStatus nodeName = some condition.status ∨
      ∃ time, patchNodeCondition env page item c nodeName condition =
        writeNodeCondition env page item c nodeName condition time := by
  unfold patchNodeCondition
  simp only [htype, ne_eq, not_true_eq_false, if_false]
  split
  · next existing hread =>
    split_ifs with hstatus hsame
    · refine .inl ⟨rfl, ?_⟩
      rw [← hstatus, Cluster.readyStatus]
      cases hfail : env.fails (.readNode page item) with
      | some message => simp [hfail] at hread
      | none =>
        simp only [hfail] at hread
        rw [hread]
        rfl
    · exact .inr ⟨_, rfl⟩
    · exact .inr ⟨_, rfl⟩
  · exact .inr ⟨_, rfl⟩

theorem readyStatus_patchNodeCondition (htype : condition.type = nodeConditionType)
    (nodeName' : String) :
    (patchNodeCondition env page item c nodeName condition).1.readyStatus nodeName' =
      if nodeName' = nodeName ∧
          (patchNodeCondition env page item c nodeName condition).2 = none then
        some condition.status
      else c.readyStatus nodeName' := by
  obtain ⟨hsame, hstatus⟩ | ⟨time, hwrite⟩ :=
    patchNodeCondition_cases env page item c nodeName condition htype
  · rw [hsame]
    by_cases hname : nodeName' = nodeName
    · simp [hname, hstatus]
    · simp [hname]
  · rw [hwrite]
    exact readyStatus_writeNodeCondition env page item c nodeName condition htype time nodeName'

theorem patchNodeCondition_succeeds (htype : condition.type = nodeConditionType)
    (hcall : env.fails (.patchNode page item) = none) (hexists : (c.labelsOf nodeName).isSome) :
    (patchNodeCondition env page item c nodeName condition).2 = none := by
  obtain ⟨hsame, -⟩ | ⟨time, hwrite⟩ :=
    patchNodeCondition_cases env page item c nodeName condition htype
  · rw [hsame]
  · rw [Cluster.labelsOf, Option.isSome_map] at hexists
    rw [hwrite, writeNodeCondition, hcall]
    simp [Option.isSome_iff_ne_none.mp hexists]

theorem onlyConditions_writeNodeCondition (transitionTime : ℤ) :
    c.OnlyConditions
      (writeNodeCondition env page item c nodeName condition transitionTime).1 := by
  unfold writeNodeCondition
  split
  · exact .refl c
  · dsimp only
    split_ifs
    · exact .refl c
    · exact .modifyNode c nodeName fun node => rfl

theorem onlyConditions_patchNodeCondition (htype : condition.type = nodeConditionType) :
    c.OnlyConditions (patchNodeCondition env page item c nodeName condition).1 := by
  obtain ⟨hsame, -⟩ | ⟨time, hwrite⟩ :=
    patchNodeCondition_cases env page item c nodeName condition htype
  · rw [hsame]
    exact .refl c
  · rw [hwrite]
    exact onlyConditions_writeNodeCondition env page item c nodeName condition time

theorem onlyConditions_removeNodeCondition (call : ApiCall) :
    c.OnlyConditions (removeNodeCondition env call c nodeName).1 := by
  unfold removeNodeCondition
  split
  · exact .refl c
  · exact .modifyNode c nodeName fun node => rfl

theorem readyStatus_removeNodeCondition_of_ne (call : ApiCall) {nodeName' : String}
    (hne : nodeName' ≠ nodeName) :
    (removeNodeCondition env call c nodeName).1.readyStatus nodeName' =
      c.readyStatus nodeName' := by
  unfold removeNodeCondition
  split
  · rfl
  · rw [readyStatus_modifyNode, if_neg hne]

end ReadyStatus

section Pods

theorem type_nodeConditionForPod (ready : Bool) (pod : Pod) :
    (nodeConditionForPod ready pod).type = nodeConditionType := by
  cases ready <;> rfl

theorem type_checkGpuDriver (env : Env) (page item : ℕ) (c : Cluster) (nodeName : String)
    (condition : NodeCondition) :
    (checkGpuDriver env page item c nodeName condition).1.type = condition.type := by
  unfold checkGpuDriver
  dsimp only
  split
  · rfl
  · split
    · rfl
    · split
      · rfl
      · split <;> rfl

end Pods

section ReadyPass

variable (env : Env)

theorem visit_ready (page : ℕ) {pass : NodePass} {entry : Pod × ℕ}
    (hready : isPodReady entry.1 = true) (hhealthy : pass.unhealthyNodes = ∅)
    (hnode : entry.1.nodeName ≠ "") :
    let patched := patchNodeCondition env page entry.2 pass.cluster entry.1.nodeName
      (nodeConditionForPod true entry.1)
    (pass.visit env page entry).cluster = patched.1 ∧
      (pass.visit env page entry).unhealthyNodes = ∅ ∧
      (pass.visit env page entry).errs = pass.errs ++ patched.2.toList := by
  have hcheck : checkGpuDriver env page entry.2 pass.cluster entry.1.nodeName
      (nodeConditionForPod true entry.1) = (nodeConditionForPod true entry.1, none) := rfl
  simp only [NodePass.visit, hready, hnode, hhealthy, Finset.notMem_empty, and_false, if_false,
    hcheck, if_true, Option.toList_none, List.append_nil, and_self]

/-- What a pass over pods that are all ready keeps and achieves; `patched` holds of the
nodes for which a patch is known to succeed. -/
structure ReadyPass (pods : List Pod) (patched : String → Prop) (pass pass' : NodePass) : Prop where
  healthy : pass'.unhealthyNodes = ∅
  only : pass.cluster.OnlyConditions pass'.cluster
  kept : ∀ nodeName, pass.cluster.readyStatus nodeName = some .conditionTrue →
    pass'.cluster.readyStatus nodeName = some .conditionTrue
  errs : pass'.errs = [] → pass.errs = []
  reached : pass'.errs = [] → ∀ pod ∈ pods, pod.nodeName ≠ "" →
    pass'.cluster.readyStatus pod.nodeName = some .conditionTrue
  patched : ∀ nodeName, patched nodeName → nodeName ≠ "" →
    (pass.cluster.labelsOf nodeName).isSome →
    pass'.cluster.readyStatus nodeName = some .conditionTrue

theorem ReadyPass.trans {pods pods' : List Pod} {patched patched' : String → Prop}
    {pass pass' pass'' : NodePass} (h : ReadyPass pods patched pass pass')
    (h' : ReadyPass pods' patched' pass' pass'') :
    ReadyPass (pods ++ pods') (fun nodeName => patched nodeName ∨ patched' nodeName) pass
      pass'' where
  healthy := h'.healthy
  only := h.only.trans h'.only
  kept nodeName hstatus := h'.kept nodeName (h.kept nodeName hstatus)
  errs herrs := h.errs (h'.errs herrs)
  reached herrs pod hpod hnode := by
    rcases List.mem_append.mp hpod with hpod | hpod
    · exact h'.kept _ (h.reached (h'.errs herrs) pod hpod hnode)
    · exact h'.reached herrs pod hpod hnode
  patched nodeName hpatched hnode hexists := by
    rcases hpatched with hpatched | hpatched
    · exact h'.kept _ (h.patched nodeName hpatched hnode hexists)
    · rw [← h.only.labels nodeName] at hexists
      exact h'.patched nodeName hpatched hnode hexists

theorem ReadyPass.mono {pods : List Pod} {patched patched' : String → Prop}
    {pass pass' : NodePass} (h : ReadyPass pods patched pass pass')
    (himp : ∀ nodeName, patched' nodeName → patched nodeName) :
    ReadyPass pods patched' pass pass' :=
  { h with patched := fun nodeName hpatched => h.patched nodeName (himp nodeName hpatched) }

theorem readyPass_nil {pass : NodePass} (hhealthy : pass.unhealthyNodes = ∅) :
    ReadyPass [] (fun _ => False) pass pass where
  healthy := hhealthy
  only := .refl _
  kept _ h := h
  errs h := h
  reached _ pod hpod := by simp at hpod
  patched _ hpatched := hpatched.elim

/-- The patch of the pod is for the node and succeeds. -/
def PatchedBy (env : Env) (page : ℕ) (nodeName : String) (entry : Pod × ℕ) : Prop :=
  entry.1.nodeName = nodeName ∧ env.fails (.patchNode page entry.2) = none

theorem readyPass_visit (page : ℕ) {pass : NodePass} {entry : Pod × ℕ}
    (hready : entry.1.nodeName ≠ "" → isPodReady entry.1 = true)
    (hhealthy : pass.unhealthyNodes = ∅) :
    ReadyPass [entry.1] (fun nodeName => PatchedBy env page nodeName entry) pass
      (pass.visit env page entry) := by
  by_cases hnode : entry.1.nodeName = ""
  · have hskip : pass.visit env page entry = pass := by simp [NodePass.visit, hnode]
    rw [hskip]
    refine ⟨hhealthy, .refl _, fun _ h => h, fun h => h, ?_, ?_⟩
    · intro _ pod hpod hne
      rw [List.mem_singleton.mp hpod] at hne
      exact absurd hnode hne
    · rintro nodeName ⟨rfl, -⟩ hne
      exact absurd hnode hne
  · obtain ⟨hcluster, hempty, herrs⟩ := visit_ready env page (hready hnode) hhealthy hnode
    have hstatus := readyStatus_patchNodeCondition env page entry.2 pass.cluster entry.1.nodeName
      (nodeConditionForPod true entry.1) rfl
    refine ⟨hempty, ?_, ?_, ?_, ?_, ?_⟩
    · rw [hcluster]
      exact onlyConditions_patchNodeCondition _ _ _ _ _ _ rfl
    · intro nodeName htrue
      rw [hcluster, hstatus]
      split_ifs
      · rfl
      · exact htrue
    · intro hnone
      rw [herrs] at hnone
      exact (List.append_eq_nil_iff.mp hnone).1
    · intro hnone pod hpod _
      rw [herrs] at hnone
      have hpatched := Option.toList_eq_nil_iff.mp (List.append_eq_nil_iff.mp hnone).2
      rw [List.mem_singleton.mp hpod, hcluster, hstatus, if_pos ⟨rfl, hpatched⟩]
      rfl
    · rintro nodeName ⟨rfl, hcall⟩ - hexists
      have hpatched := patchNodeCondition_succeeds env page entry.2 pass.cluster
        entry.1.nodeName (nodeConditionForPod true entry.1) rfl hcall hexists
      rw [hcluster, hstatus, if_pos ⟨rfl, hpatched⟩]
      rfl

theorem readyPass_foldl (page : ℕ) {entries : List (Pod × ℕ)} {pass : NodePass}
    (hready : ∀ entry ∈ entries, entry.1.nodeName ≠ "" → isPodReady entry.1 = true)
    (hhealthy : pass.unhealthyNodes = ∅) :
    ReadyPass (entries.map Prod.fst)
      (fun nodeName => ∃ entry ∈ entries, PatchedBy env page nodeName entry) pass
      (entries.foldl (NodePass.visit env page) pass) := by
  induction entries generalizing pass with
  | nil => exact (readyPass_nil hhealthy).mono fun nodeName h => by simp at h
  | cons entry entries ih =>
    have hfirst := readyPass_visit env page (hready entry List.mem_cons_self) hhealthy
    have hrest := ih (fun e he => hready e (List.mem_cons_of_mem _ he)) hfirst.healthy
    refine (hfirst.trans hrest).mono fun nodeName => ?_
    rw [List.exists_mem_cons_iff]
    exact id

/-- The pass gets to a pod of the node whose patch succeeds: until then no list fails. -/
def NodeReached (env : Env) (nodeName : String) : ℕ → List (List Pod) → Prop
  | _, [] => False
  | page, pods :: rest =>
    env.fails (.listPods page) = none ∧
      ((∃ entry ∈ pods.zipIdx, PatchedBy env page nodeName entry) ∨
        NodeReached env nodeName (page + 1) rest)

theorem readyPass_visitPages (page : ℕ) {pages : List (List Pod)} {pass : NodePass}
    (hready : ∀ pod ∈ pages.flatten, pod.nodeName ≠ "" → isPodReady pod = true)
    (hhealthy : pass.unhealthyNodes = ∅) :
    ReadyPass pages.flatten (fun nodeName => NodeReached env nodeName page pages) pass
      (NodePass.visitPages env page pages pass) := by
  induction pages generalizing page pass with
  | nil => exact readyPass_nil hhealthy
  | cons pods rest ih =>
    unfold NodePass.visitPages
    split
    · next hlist =>
      refine ⟨hhealthy, .refl _, fun _ h => h, fun h => by simp at h, fun h => by simp at h, ?_⟩
      rintro nodeName ⟨hnone, -⟩
      rw [hlist] at hnone
      exact absurd hnone (by simp)
    · next hlist =>
      have hentries : ∀ entry ∈ pods.zipIdx, entry.1.nodeName ≠ "" → isPodReady entry.1 = true := by
        intro entry hentry
        have hmem : entry.1 ∈ pods := List.fst_mem_of_mem_zipIdx hentry
        exact hready entry.1 (List.mem_flatten.mpr ⟨pods, List.mem_cons_self, hmem⟩)
      have hpage := readyPass_foldl env page hentries hhealthy
      have hmap : pods.zipIdx.map Prod.fst = pods := by simp
      rw [hmap] at hpage
      rw [List.flatten_cons, List.forall_mem_append] at hready
      exact (hpage.trans (ih (page + 1) hready.2 hpage.healthy)).mono fun nodeName h => h.2

/-- A pass over pods that are all ready sets their nodes to true, or reports an error
and takes the condition from no node that is true. -/
theorem readyPass_patchNodeConditions (c : Cluster) (namespace_ : String)
    (hready : ∀ pod ∈ c.managedPods namespace_, pod.nodeName ≠ "" → isPodReady pod = true) :
    ReadyPass (c.managedPods namespace_)
      (fun nodeName => NodeReached env nodeName 0 (podPagesOf env c namespace_)) ⟨c, ∅, []⟩
      (patchNodeConditions env c namespace_) := by
  have hmem (pod : Pod) :
      pod ∈ (podPagesOf env c namespace_).flatten ↔ pod ∈ c.managedPods namespace_ := by
    rw [podPagesOf, flatten_atLeastOnePage, (env.podPages_perm (c.managedPods namespace_)).mem_iff]
  have hstart : (⟨c, ∅, []⟩ : NodePass).unhealthyNodes = ∅ := rfl
  have hpass := readyPass_visitPages env 0 (fun pod hpod => hready pod ((hmem pod).mp hpod)) hstart
  exact { hpass with
    reached := fun herrs pod hpod => hpass.reached herrs pod ((hmem pod).mpr hpod) }

end ReadyPass

section Frames

variable (env : Env)

theorem onlyConditions_visit (page : ℕ) (pass : NodePass) (entry : Pod × ℕ) :
    pass.cluster.OnlyConditions (pass.visit env page entry).cluster := by
  unfold NodePass.visit
  have htype : (checkGpuDriver env page entry.2 pass.cluster entry.1.nodeName
      (nodeConditionForPod (isPodReady entry.1) entry.1)).1.type = nodeConditionType := by
    rw [type_checkGpuDriver, type_nodeConditionForPod]
  have hpatch := onlyConditions_patchNodeCondition env page entry.2 pass.cluster entry.1.nodeName
    _ htype
  dsimp only
  by_cases hnode : entry.1.nodeName = ""
  · rw [if_pos hnode]
    exact .refl _
  · rw [if_neg hnode]
    split
    · exact .refl _
    · exact hpatch

theorem onlyConditions_visitPages (page : ℕ) (pages : List (List Pod)) (pass : NodePass) :
    pass.cluster.OnlyConditions (NodePass.visitPages env page pages pass).cluster := by
  induction pages generalizing page pass with
  | nil => exact .refl _
  | cons pods rest ih =>
    unfold NodePass.visitPages
    split
    · exact .refl _
    · refine Cluster.OnlyConditions.trans ?_ (ih (page + 1) _)
      exact List.foldlRecOn (motive := fun p => pass.cluster.OnlyConditions p.cluster) _ _
        (.refl _) fun p hp entry _ => hp.trans (onlyConditions_visit env page p entry)

theorem onlyConditions_patchNodeConditions (c : Cluster) (namespace_ : String) :
    c.OnlyConditions (patchNodeConditions env c namespace_).cluster :=
  onlyConditions_visitPages env 0 _ ⟨c, ∅, []⟩

theorem onlyConditions_evaluateDriverUpgrade (c : Cluster) (nodeSelector : LabelMap) :
    c.OnlyConditions (evaluateDriverUpgrade env c nodeSelector).1 := by
  unfold evaluateDriverUpgrade
  split
  · exact .refl c
  · refine List.foldlRecOn
      (motive := fun acc : Cluster × List String => c.OnlyConditions acc.1) _ _ (.refl c) ?_
    intro acc hacc entry _
    unfold clearUpgradingNode
    split_ifs
    · exact hacc.trans (onlyConditions_removeNodeCondition env acc.1 entry.1 _)
    · exact hacc

theorem readyStatus_evaluateDriverUpgrade {c : Cluster} {nodeSelector : LabelMap}
    {nodeName : String} {node : Node} (hnode : c.nodes.lookup nodeName = some node)
    (hlabel : node.labels.lookup driverUpgradeStateLabel = none) :
    (evaluateDriverUpgrade env c nodeSelector).1.readyStatus nodeName = c.readyStatus nodeName := by
  unfold evaluateDriverUpgrade
  split
  · rfl
  · refine List.foldlRecOn
      (motive := fun acc : Cluster × List String =>
        acc.1.readyStatus nodeName = c.readyStatus nodeName) _ _ rfl ?_
    intro acc hacc entry hentry
    have hne : nodeName ≠ entry.1 := by
      rintro rfl
      obtain ⟨hmem, hupgrading⟩ := List.mem_filter.mp hentry
      have hlookup := FiniteMap.mem_pairs.mp (List.mem_filter.mp hmem).1
      rw [hnode] at hlookup
      rw [← Option.some.inj hlookup, driverUpgrading, hlabel] at hupgrading
      exact absurd hupgrading (by decide)
    unfold clearUpgradingNode
    split_ifs
    · rw [← hacc]
      exact readyStatus_removeNodeCondition_of_ne env acc.1 entry.1 _ hne
    · exact hacc

end Frames

end GpuFractioning.Operator
