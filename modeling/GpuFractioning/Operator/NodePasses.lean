import GpuFractioning.Operator.NodeConditions

/-!
# What a pass over the managed pods makes of the nodes

`patchNodeConditions` patches nodes while the pods stream in. A node is poisoned
by its first pod that is not ready, but may have been set to true for the pods
before that one. Where a node ends depends on the set of its pods alone; when it
last changed its status depends on their order.
-/

namespace GpuFractioning.Operator

section Listing

/-- The pods in the order they are visited, with their page and place. -/
def listedPods : ℕ → List (List Pod) → List (ℕ × Pod × ℕ)
  | _, [] => []
  | page, pods :: rest => pods.zipIdx.map (fun entry => (page, entry)) ++ listedPods (page + 1) rest

/-- The visits of the listed pods, one after another. -/
def NodePass.run (env : Env) (pass : NodePass) (entries : List (ℕ × Pod × ℕ)) : NodePass :=
  entries.foldl (fun pass entry => pass.visit env entry.1 entry.2) pass

@[simp] theorem NodePass.run_nil (env : Env) (pass : NodePass) : pass.run env [] = pass := rfl

theorem NodePass.run_snoc (env : Env) (pass : NodePass) (entries : List (ℕ × Pod × ℕ))
    (entry : ℕ × Pod × ℕ) :
    pass.run env (entries ++ [entry]) = (pass.run env entries).visit env entry.1 entry.2 := by
  simp [NodePass.run]

theorem visitPages_eq_run {env : Env} (hlist : ∀ page, env.fails (.listPods page) = none)
    (page : ℕ) (pages : List (List Pod)) (pass : NodePass) :
    NodePass.visitPages env page pages pass = pass.run env (listedPods page pages) := by
  induction pages generalizing page pass with
  | nil => rfl
  | cons pods rest ih =>
    simp only [NodePass.visitPages, hlist, ih, listedPods, NodePass.run, List.foldl_append,
      List.foldl_map]

theorem map_listedPods (page : ℕ) (pages : List (List Pod)) :
    (listedPods page pages).map (fun entry => entry.2.1) = pages.flatten := by
  induction pages generalizing page with
  | nil => rfl
  | cons pods rest ih =>
    have hpage : pods.zipIdx.map (fun entry => entry.1) = pods := List.zipIdx_map_fst 0 pods
    simp only [listedPods, List.map_append, List.map_map, Function.comp_def, ih,
      List.flatten_cons, hpage]

/-- `seenNodes` after one more pod. -/
def seePod (seen : Finset String) (pod : Pod) : Finset String :=
  if pod.nodeName = "" then seen else insert pod.nodeName seen

/-- `seenNodes` at the end of the pass, which a failed list leaves before its end. -/
def seenNodes (env : Env) : ℕ → List (List Pod) → Finset String → Option (Finset String)
  | _, [], seen => some seen
  | page, pods :: rest, seen =>
    match env.fails (.listPods page) with
    | some _ => none
    | none => seenNodes env (page + 1) rest (pods.foldl seePod seen)

/-- The arguments of `metrics.SetNodeHealth`, if the pass gets to it. -/
def nodeHealth (env : Env) (c : Cluster) (namespace_ : String) : Option (ℤ × ℤ) :=
  let unhealthyNodes := (patchNodeConditions env c namespace_).unhealthyNodes
  (seenNodes env 0 (podPagesOf env c namespace_) ∅).map fun seen =>
    ((seen.card : ℤ) - unhealthyNodes.card, (unhealthyNodes.card : ℤ))

end Listing

section Visits

/-- The pod is scheduled on the node. -/
def Hosts (nodeName : String) (pod : Pod) : Prop := pod.nodeName = nodeName ∧ nodeName ≠ ""

instance (nodeName : String) (pod : Pod) : Decidable (Hosts nodeName pod) :=
  inferInstanceAs (Decidable (_ ∧ _))

variable (env : Env) {page item : ℕ} {pass : NodePass} {pod : Pod} {nodeName : String}

theorem status_checkGpuDriver (page item : ℕ) (c : Cluster) (nodeName : String)
    (condition : NodeCondition) :
    (checkGpuDriver env page item c nodeName condition).1.status = condition.status := by
  unfold checkGpuDriver
  dsimp only
  split
  · rfl
  · split
    · rfl
    · split
      · rfl
      · split <;> rfl

/-- The condition a pod gives to its node, with the explanation of the driver check. -/
def conditionFor (env : Env) (page item : ℕ) (c : Cluster) (pod : Pod) : NodeCondition :=
  (checkGpuDriver env page item c pod.nodeName (nodeConditionForPod (isPodReady pod) pod)).1

theorem type_conditionFor (page item : ℕ) (c : Cluster) (pod : Pod) :
    (conditionFor env page item c pod).type = nodeConditionType := by
  rw [conditionFor, type_checkGpuDriver, type_nodeConditionForPod]

theorem status_conditionFor (page item : ℕ) (c : Cluster) (pod : Pod) :
    (conditionFor env page item c pod).status =
      if isPodReady pod then .conditionTrue else .conditionFalse := by
  rw [conditionFor, status_checkGpuDriver]
  cases isPodReady pod <;> rfl

/-- The pod is passed over: it is not scheduled, or ready on a node known to be unhealthy. -/
def NodePass.Skips (pass : NodePass) (pod : Pod) : Prop :=
  pod.nodeName = "" ∨ (isPodReady pod = true ∧ pod.nodeName ∈ pass.unhealthyNodes)

instance (pass : NodePass) (pod : Pod) : Decidable (pass.Skips pod) :=
  inferInstanceAs (Decidable (_ ∨ _))

/-- The error of the patch of one visit, if a patch is tried and fails. -/
def NodePass.patchError (env : Env) (pass : NodePass) (entry : ℕ × Pod × ℕ) : Option String :=
  if pass.Skips entry.2.1 then none
  else (patchNodeCondition env entry.1 entry.2.2 pass.cluster entry.2.1.nodeName
    (conditionFor env entry.1 entry.2.2 pass.cluster entry.2.1)).2

theorem visit_of_skips (h : pass.Skips pod) : pass.visit env page (pod, item) = pass := by
  rcases h with h | h
  · simp [NodePass.visit, h]
  · simp only [NodePass.visit, h, and_self, if_true, ite_self]

theorem cluster_visit_of_not_skips (h : ¬ pass.Skips pod) :
    (pass.visit env page (pod, item)).cluster =
      (patchNodeCondition env page item pass.cluster pod.nodeName
        (conditionFor env page item pass.cluster pod)).1 := by
  simp only [NodePass.Skips, not_or] at h
  simp only [NodePass.visit, h, if_false, conditionFor]

theorem mem_unhealthyNodes_visit :
    nodeName ∈ (pass.visit env page (pod, item)).unhealthyNodes ↔
      nodeName ∈ pass.unhealthyNodes ∨ (Hosts nodeName pod ∧ isPodReady pod = false) := by
  by_cases hnode : pod.nodeName = ""
  · rw [visit_of_skips env (.inl hnode)]
    simp only [Hosts, hnode]
    tauto
  · have hhosts : Hosts nodeName pod ↔ nodeName = pod.nodeName := by
      unfold Hosts
      constructor
      · rintro ⟨h, -⟩
        exact h.symm
      · rintro rfl
        exact ⟨rfl, hnode⟩
    cases hready : isPodReady pod with
    | true =>
      simp only [NodePass.visit, hnode, hready, if_false, if_true]
      split_ifs <;> simp
    | false =>
      simp only [NodePass.visit, hnode, hready, if_false, Bool.false_eq_true, false_and,
        Finset.mem_insert, hhosts, and_true]
      tauto

/-- The other conditions of a node. -/
def Node.otherConditions (node : Node) : List NodeCondition :=
  node.conditions.filter fun cond => cond.type ≠ nodeConditionType

theorem otherConditions_mergeCondition {cond : NodeCondition}
    (htype : cond.type = nodeConditionType) (node : Node) :
    (node.mergeCondition cond).otherConditions = node.otherConditions := by
  unfold Node.otherConditions Node.mergeCondition
  rw [← htype]
  exact KeyedList.filter_ne_upsert NodeCondition.type cond (fun _ => rfl) node.conditions

theorem lookup_patchNodeCondition (c : Cluster) (condition : NodeCondition)
    (htype : condition.type = nodeConditionType) (page item : ℕ) (patched : String) :
    (nodeName ≠ patched →
      (patchNodeCondition env page item c patched condition).1.nodes.lookup nodeName =
        c.nodes.lookup nodeName) ∧
    ((patchNodeCondition env page item c patched condition).1.nodes.lookup nodeName).map
        Node.otherConditions = (c.nodes.lookup nodeName).map Node.otherConditions := by
  obtain ⟨hsame, -⟩ | ⟨time, hwrite⟩ :=
    patchNodeCondition_cases env page item c patched condition htype
  · rw [hsame]
    exact ⟨fun _ => rfl, rfl⟩
  · rw [hwrite]
    unfold writeNodeCondition
    cases env.fails (.patchNode page item) with
    | some message => exact ⟨fun _ => rfl, rfl⟩
    | none =>
      dsimp only
      split_ifs with hmissing
      · exact ⟨fun _ => rfl, rfl⟩
      · rw [Cluster.lookup_modifyNode]
        constructor
        · intro hne
          rw [if_neg hne]
        · split_ifs with heq
          · rw [heq, Option.map_map]
            apply Option.map_congr
            intro node _
            apply otherConditions_mergeCondition
            exact htype
          · rfl

theorem lookup_visit_of_not_hosts (h : ¬ Hosts nodeName pod) :
    (pass.visit env page (pod, item)).cluster.nodes.lookup nodeName =
      pass.cluster.nodes.lookup nodeName := by
  by_cases hskips : pass.Skips pod
  · rw [visit_of_skips env hskips]
  · have hne : nodeName ≠ pod.nodeName := by
      rintro rfl
      exact h ⟨rfl, fun hempty => hskips (.inl hempty)⟩
    rw [cluster_visit_of_not_skips env hskips]
    exact (lookup_patchNodeCondition env _ _ (type_conditionFor env _ _ _ _) _ _ _).1 hne

theorem otherConditions_visit :
    ((pass.visit env page (pod, item)).cluster.nodes.lookup nodeName).map Node.otherConditions =
      (pass.cluster.nodes.lookup nodeName).map Node.otherConditions := by
  by_cases hskips : pass.Skips pod
  · rw [visit_of_skips env hskips]
  · rw [cluster_visit_of_not_skips env hskips]
    exact (lookup_patchNodeCondition env _ _ (type_conditionFor env _ _ _ _) _ _ _).2

theorem readyStatus_visit_of_hosts (hhosts : Hosts nodeName pod) (hskips : ¬ pass.Skips pod)
    (hcall : env.fails (.patchNode page item) = none)
    (hexists : (pass.cluster.labelsOf nodeName).isSome) :
    (pass.visit env page (pod, item)).cluster.readyStatus nodeName =
      some (if isPodReady pod then .conditionTrue else .conditionFalse) := by
  obtain ⟨rfl, -⟩ := hhosts
  have htype := type_conditionFor env page item pass.cluster pod
  have hpatched := patchNodeCondition_succeeds env page item pass.cluster pod.nodeName _ htype
    hcall hexists
  rw [cluster_visit_of_not_skips env hskips, readyStatus_patchNodeCondition _ _ _ _ _ _ htype,
    if_pos ⟨rfl, hpatched⟩, status_conditionFor]

end Visits

section Runs

variable (env : Env) (start : NodePass) {entries : List (ℕ × Pod × ℕ)} {nodeName : String}

/-- A pod of the node that is not ready is among the entries. -/
def Unready (nodeName : String) (entries : List (ℕ × Pod × ℕ)) : Prop :=
  ∃ entry ∈ entries, Hosts nodeName entry.2.1 ∧ isPodReady entry.2.1 = false

theorem unready_snoc {entry : ℕ × Pod × ℕ} :
    Unready nodeName (entries ++ [entry]) ↔
      Unready nodeName entries ∨ (Hosts nodeName entry.2.1 ∧ isPodReady entry.2.1 = false) := by
  simp only [Unready, List.mem_append, List.mem_singleton, or_and_right, exists_or,
    exists_eq_left]

theorem mem_unhealthyNodes_run :
    nodeName ∈ (start.run env entries).unhealthyNodes ↔
      nodeName ∈ start.unhealthyNodes ∨ Unready nodeName entries := by
  induction entries using List.reverseRecOn with
  | nil => simp [Unready]
  | append_singleton entries entry ih =>
    rw [NodePass.run_snoc, mem_unhealthyNodes_visit, ih, unready_snoc, or_assoc]

theorem lookup_run_of_not_hosts (h : ∀ entry ∈ entries, ¬ Hosts nodeName entry.2.1) :
    (start.run env entries).cluster.nodes.lookup nodeName =
      start.cluster.nodes.lookup nodeName := by
  induction entries using List.reverseRecOn with
  | nil => rfl
  | append_singleton entries entry ih =>
    rw [List.forall_mem_append] at h
    rw [NodePass.run_snoc, lookup_visit_of_not_hosts env (h.2 entry (List.mem_singleton_self _)),
      ih h.1]

theorem otherConditions_run :
    ((start.run env entries).cluster.nodes.lookup nodeName).map Node.otherConditions =
      (start.cluster.nodes.lookup nodeName).map Node.otherConditions := by
  induction entries using List.reverseRecOn with
  | nil => rfl
  | append_singleton entries entry ih => rw [NodePass.run_snoc, otherConditions_visit, ih]

theorem onlyConditions_run :
    start.cluster.OnlyConditions (start.run env entries).cluster := by
  induction entries using List.reverseRecOn with
  | nil => exact .refl _
  | append_singleton entries entry ih =>
    rw [NodePass.run_snoc]
    exact ih.trans (onlyConditions_visit env _ _ _)

/-- No patch of the node fails: it exists and every call for it succeeds. -/
def PatchesSucceed (env : Env) (c : Cluster) (entries : List (ℕ × Pod × ℕ)) (nodeName : String) :
    Prop :=
  ∀ entry ∈ entries, Hosts nodeName entry.2.1 →
    (c.labelsOf nodeName).isSome ∧ env.fails (.patchNode entry.1 entry.2.2) = none

/-- The status a node is due, from the set of its pods. -/
def dueStatus (c : Cluster) (pods : List Pod) (nodeName : String) : Option ConditionStatus :=
  if ∃ pod ∈ pods, Hosts nodeName pod ∧ isPodReady pod = false then some .conditionFalse
  else if ∃ pod ∈ pods, Hosts nodeName pod then some .conditionTrue
  else c.readyStatus nodeName

/-- Only which pods the node hosts counts, not in which order they are listed. -/
theorem dueStatus_congr {c : Cluster} {pods pods' : List Pod}
    (h : ∀ pod, Hosts nodeName pod → (pod ∈ pods ↔ pod ∈ pods')) :
    dueStatus c pods nodeName = dueStatus c pods' nodeName := by
  have hunready : (∃ pod ∈ pods, Hosts nodeName pod ∧ isPodReady pod = false) ↔
      ∃ pod ∈ pods', Hosts nodeName pod ∧ isPodReady pod = false := by
    constructor
    · rintro ⟨pod, hmem, hhosts, hready⟩
      exact ⟨pod, (h pod hhosts).mp hmem, hhosts, hready⟩
    · rintro ⟨pod, hmem, hhosts, hready⟩
      exact ⟨pod, (h pod hhosts).mpr hmem, hhosts, hready⟩
  have hhosted : (∃ pod ∈ pods, Hosts nodeName pod) ↔ ∃ pod ∈ pods', Hosts nodeName pod := by
    constructor
    · rintro ⟨pod, hmem, hhosts⟩
      exact ⟨pod, (h pod hhosts).mp hmem, hhosts⟩
    · rintro ⟨pod, hmem, hhosts⟩
      exact ⟨pod, (h pod hhosts).mpr hmem, hhosts⟩
  exact if_congr hunready rfl (if_congr hhosted rfl rfl)

theorem dueStatus_of_unready {c : Cluster} (h : Unready nodeName entries) :
    dueStatus c (entries.map fun entry => entry.2.1) nodeName = some .conditionFalse := by
  obtain ⟨entry, hmem, hhosts, hready⟩ := h
  exact if_pos ⟨entry.2.1, List.mem_map_of_mem hmem, hhosts, hready⟩

theorem dueStatus_of_ready {c : Cluster} (h : ¬ Unready nodeName entries)
    {entry : ℕ × Pod × ℕ} (hmem : entry ∈ entries) (hhosts : Hosts nodeName entry.2.1) :
    dueStatus c (entries.map fun entry => entry.2.1) nodeName = some .conditionTrue := by
  have hready : ¬ ∃ pod ∈ entries.map fun entry => entry.2.1,
      Hosts nodeName pod ∧ isPodReady pod = false := by
    rintro ⟨pod, hpod, hunready⟩
    obtain ⟨e, he, rfl⟩ := List.mem_map.mp hpod
    exact h ⟨e, he, hunready⟩
  rw [dueStatus, if_neg hready]
  exact if_pos ⟨entry.2.1, List.mem_map_of_mem hmem, hhosts⟩

/-- After any number of visits the node has the status its visited pods are due. -/
theorem readyStatus_run (c : Cluster) (hpatches : PatchesSucceed env c entries nodeName) :
    ((⟨c, ∅, []⟩ : NodePass).run env entries).cluster.readyStatus nodeName =
      dueStatus c (entries.map fun entry => entry.2.1) nodeName := by
  induction entries using List.reverseRecOn with
  | nil => simp [dueStatus]
  | append_singleton entries entry ih =>
    have ih := ih fun e he => hpatches e (List.mem_append_left _ he)
    have hpoisoned : nodeName ∈ ((⟨c, ∅, []⟩ : NodePass).run env entries).unhealthyNodes ↔
        Unready nodeName entries := by
      rw [mem_unhealthyNodes_run]
      simp
    rw [NodePass.run_snoc]
    by_cases hhosts : Hosts nodeName entry.2.1
    · obtain ⟨hexists, hcall⟩ := hpatches entry (by simp) hhosts
      have honly : c.OnlyConditions ((⟨c, ∅, []⟩ : NodePass).run env entries).cluster :=
        onlyConditions_run env ⟨c, ∅, []⟩
      rw [← honly.labels] at hexists
      have hnamed : entry.2.1.nodeName ≠ "" := hhosts.1 ▸ hhosts.2
      by_cases hskips : ((⟨c, ∅, []⟩ : NodePass).run env entries).Skips entry.2.1
      · have hunready : Unready nodeName entries := by
          rw [← hpoisoned, ← hhosts.1]
          exact (hskips.resolve_left hnamed).2
        rw [visit_of_skips env hskips, ih, dueStatus_of_unready hunready,
          dueStatus_of_unready (unready_snoc.mpr (.inl hunready))]
      · rw [readyStatus_visit_of_hosts env hhosts hskips hcall hexists]
        cases hready : isPodReady entry.2.1 with
        | false =>
          rw [dueStatus_of_unready (unready_snoc.mpr (.inr ⟨hhosts, hready⟩))]
          rfl
        | true =>
          have hclean : ¬ Unready nodeName (entries ++ [entry]) := by
            rw [unready_snoc, ← hpoisoned, ← hhosts.1]
            rintro (hmem | ⟨-, hfalse⟩)
            · exact hskips (.inr ⟨hready, hmem⟩)
            · simp [hready] at hfalse
          have hlast : entry ∈ entries ++ [entry] := by simp
          rw [dueStatus_of_ready hclean hlast hhosts]
          rfl
    · rw [Cluster.readyStatus, lookup_visit_of_not_hosts env hhosts, ← Cluster.readyStatus, ih]
      apply dueStatus_congr
      intro pod hpod
      simp only [List.map_append, List.map_cons, List.map_nil, List.mem_append, List.mem_singleton]
      constructor
      · exact .inl
      · rintro (hmem | rfl)
        · exact hmem
        · exact absurd hpod hhosts

end Runs

section Errors

variable (env : Env) {pass : NodePass} {entry : ℕ × Pod × ℕ}

theorem errs_visit_of_not_skips (h : ¬ pass.Skips entry.2.1) :
    (pass.visit env entry.1 entry.2).errs =
      pass.errs ++ (checkGpuDriver env entry.1 entry.2.2 pass.cluster entry.2.1.nodeName
        (nodeConditionForPod (isPodReady entry.2.1) entry.2.1)).2.toList ++
        (pass.patchError env entry).toList := by
  rw [NodePass.patchError, if_neg h]
  simp only [NodePass.Skips, not_or] at h
  simp only [NodePass.visit, h, if_false, conditionFor]

theorem errs_visit_of_ne_nil (h : pass.errs ≠ [] ∨ (pass.patchError env entry).isSome) :
    (pass.visit env entry.1 entry.2).errs ≠ [] := by
  by_cases hskips : pass.Skips entry.2.1
  · have hvisit : pass.visit env entry.1 entry.2 = pass := visit_of_skips env hskips
    rw [hvisit]
    refine h.resolve_right ?_
    simp [NodePass.patchError, hskips]
  · rw [errs_visit_of_not_skips env hskips]
    rcases h with h | h
    · simp [h]
    · obtain ⟨message, hmessage⟩ := Option.isSome_iff_exists.mp h
      simp [hmessage]

theorem checkGpuDriver_no_error {page item : ℕ} {c : Cluster} {nodeName : String}
    (hcall : env.fails (.checkDriver page item) = none) (hexists : (c.labelsOf nodeName).isSome)
    (condition : NodeCondition) :
    (checkGpuDriver env page item c nodeName condition).2 = none := by
  obtain ⟨labels, hlabels⟩ := Option.isSome_iff_exists.mp hexists
  obtain ⟨node, hnode, -⟩ := Option.map_eq_some_iff.mp hlabels
  unfold checkGpuDriver
  simp only [hcall, hnode]
  split
  · rfl
  · split <;> rfl

theorem errs_visit_of_succeeds (herrs : pass.errs = [])
    (hdriver : env.fails (.checkDriver entry.1 entry.2.2) = none)
    (hpatch : Hosts entry.2.1.nodeName entry.2.1 →
      (pass.cluster.labelsOf entry.2.1.nodeName).isSome ∧
        env.fails (.patchNode entry.1 entry.2.2) = none) :
    (pass.visit env entry.1 entry.2).errs = [] := by
  by_cases hskips : pass.Skips entry.2.1
  · have hvisit : pass.visit env entry.1 entry.2 = pass := visit_of_skips env hskips
    rw [hvisit, herrs]
  · have hnamed : entry.2.1.nodeName ≠ "" := fun h => hskips (.inl h)
    obtain ⟨hexists, hcall⟩ := hpatch ⟨rfl, hnamed⟩
    have hpatched : pass.patchError env entry = none := by
      rw [NodePass.patchError, if_neg hskips]
      exact patchNodeCondition_succeeds env _ _ _ _ _ (type_conditionFor env _ _ _ _) hcall hexists
    rw [errs_visit_of_not_skips env hskips, herrs, hpatched,
      checkGpuDriver_no_error env hdriver hexists]
    rfl

end Errors

section Results

variable (env : Env) (c : Cluster) (namespace_ : String)

/-- The pods of a pass, in the order they are visited. -/
def listing : List (ℕ × Pod × ℕ) := listedPods 0 (podPagesOf env c namespace_)

/-- The pass after some visits. -/
def passAfter (entries : List (ℕ × Pod × ℕ)) : NodePass := (⟨c, ∅, []⟩ : NodePass).run env entries

/-- The nodes with a pod among the listed ones. -/
def hostingNodes (pods : List Pod) : Finset String :=
  ((pods.map Pod.nodeName).filter fun nodeName => nodeName ≠ "").toFinset

theorem mem_hostingNodes {pods : List Pod} {nodeName : String} :
    nodeName ∈ hostingNodes pods ↔ ∃ pod ∈ pods, Hosts nodeName pod := by
  simp only [hostingNodes, List.mem_toFinset, List.mem_filter, List.mem_map, decide_eq_true_eq,
    Hosts]
  constructor
  · rintro ⟨⟨pod, hpod, hname⟩, hne⟩
    exact ⟨pod, hpod, hname, hne⟩
  · rintro ⟨pod, hpod, hname, hne⟩
    exact ⟨⟨pod, hpod, hname⟩, hne⟩

theorem mem_listing {pod : Pod} :
    pod ∈ (listing env c namespace_).map (fun entry => entry.2.1) ↔
      pod ∈ c.managedPods namespace_ := by
  rw [listing, map_listedPods, podPagesOf, flatten_atLeastOnePage,
    (env.podPages_perm (c.managedPods namespace_)).mem_iff]

theorem unready_listing {nodeName : String} :
    Unready nodeName (listing env c namespace_) ↔
      ∃ pod ∈ c.managedPods namespace_, Hosts nodeName pod ∧ isPodReady pod = false := by
  simp only [← mem_listing env c namespace_, List.mem_map]
  constructor
  · rintro ⟨entry, hmem, hunready⟩
    exact ⟨entry.2.1, ⟨entry, hmem, rfl⟩, hunready⟩
  · rintro ⟨_, ⟨entry, hmem, rfl⟩, hunready⟩
    exact ⟨entry, hmem, hunready⟩

theorem mem_foldl_seePod {pods : List Pod} {seen : Finset String} {nodeName : String} :
    nodeName ∈ pods.foldl seePod seen ↔
      nodeName ∈ seen ∨ ∃ pod ∈ pods, Hosts nodeName pod := by
  induction pods generalizing seen with
  | nil => simp
  | cons pod pods ih =>
    rw [List.foldl_cons, ih, List.exists_mem_cons_iff]
    have hstep : nodeName ∈ seePod seen pod ↔ nodeName ∈ seen ∨ Hosts nodeName pod := by
      unfold seePod Hosts
      split_ifs with hempty
      · rw [hempty]
        tauto
      · rw [Finset.mem_insert]
        constructor
        · rintro (rfl | hseen)
          · exact .inr ⟨rfl, hempty⟩
          · exact .inl hseen
        · rintro (hseen | ⟨hname, -⟩)
          · exact .inr hseen
          · exact .inl hname.symm
    rw [hstep, or_assoc]

theorem seenNodes_eq {env : Env} (hlist : ∀ page, env.fails (.listPods page) = none)
    (page : ℕ) (pages : List (List Pod)) (seen : Finset String) :
    seenNodes env page pages seen = some (pages.flatten.foldl seePod seen) := by
  induction pages generalizing page seen with
  | nil => rfl
  | cons pods rest ih => simp only [seenNodes, hlist, ih, List.flatten_cons, List.foldl_append]

/-- What a pass leaves, where at most patches fail. -/
structure PassResult : Prop where
  status : ∀ nodeName, PatchesSucceed env c (listing env c namespace_) nodeName →
    (patchNodeConditions env c namespace_).cluster.readyStatus nodeName =
      dueStatus c (c.managedPods namespace_) nodeName
  untouched : ∀ nodeName, (∀ pod ∈ c.managedPods namespace_, ¬ Hosts nodeName pod) →
    (patchNodeConditions env c namespace_).cluster.nodes.lookup nodeName =
      c.nodes.lookup nodeName
  others : ∀ nodeName,
    ((patchNodeConditions env c namespace_).cluster.nodes.lookup nodeName).map
        Node.otherConditions = (c.nodes.lookup nodeName).map Node.otherConditions
  flag : (∀ nodeName, PatchesSucceed env c (listing env c namespace_) nodeName) →
    ((patchNodeConditions env c namespace_).unhealthyNodes.Nonempty ↔
      ∃ nodeName ∈ hostingNodes (c.managedPods namespace_),
        (patchNodeConditions env c namespace_).cluster.readyStatus nodeName =
          some .conditionFalse)
  gauges : (∀ nodeName, PatchesSucceed env c (listing env c namespace_) nodeName) →
    let ended (status : ConditionStatus) := (hostingNodes (c.managedPods namespace_)).filter
      fun nodeName => (patchNodeConditions env c namespace_).cluster.readyStatus nodeName =
        some status
    nodeHealth env c namespace_ =
      some (((ended .conditionTrue).card : ℤ), ((ended .conditionFalse).card : ℤ))
  noError : (∀ nodeName, PatchesSucceed env c (listing env c namespace_) nodeName) →
    (patchNodeConditions env c namespace_).errs = []
  error : ∀ before entry after, listing env c namespace_ = before ++ entry :: after →
    ((passAfter env c before).patchError env entry).isSome →
      (patchNodeConditions env c namespace_).errs ≠ []

variable {env} (hlist : ∀ page, env.fails (.listPods page) = none)

include hlist in
theorem patchNodeConditions_eq :
    patchNodeConditions env c namespace_ = passAfter env c (listing env c namespace_) :=
  visitPages_eq_run hlist _ _ _

include hlist in
theorem readyStatus_patchNodeConditions_eq {nodeName : String}
    (hpatches : PatchesSucceed env c (listing env c namespace_) nodeName) :
    (patchNodeConditions env c namespace_).cluster.readyStatus nodeName =
      dueStatus c (c.managedPods namespace_) nodeName := by
  rw [patchNodeConditions_eq c namespace_ hlist, passAfter, readyStatus_run env c hpatches]
  exact dueStatus_congr fun _ _ => mem_listing env c namespace_

include hlist in
theorem mem_unhealthyNodes_patchNodeConditions {nodeName : String} :
    nodeName ∈ (patchNodeConditions env c namespace_).unhealthyNodes ↔
      ∃ pod ∈ c.managedPods namespace_, Hosts nodeName pod ∧ isPodReady pod = false := by
  rw [patchNodeConditions_eq c namespace_ hlist, passAfter, mem_unhealthyNodes_run,
    unready_listing]
  simp

include hlist in
theorem readyStatus_of_hosting {nodeName : String}
    (hpatches : PatchesSucceed env c (listing env c namespace_) nodeName)
    (hhosting : nodeName ∈ hostingNodes (c.managedPods namespace_)) :
    (patchNodeConditions env c namespace_).cluster.readyStatus nodeName =
      if nodeName ∈ (patchNodeConditions env c namespace_).unhealthyNodes then
        some .conditionFalse
      else some .conditionTrue := by
  have hmem : nodeName ∈ (patchNodeConditions env c namespace_).unhealthyNodes ↔ _ :=
    mem_unhealthyNodes_patchNodeConditions c namespace_ hlist
  rw [readyStatus_patchNodeConditions_eq c namespace_ hlist hpatches, dueStatus]
  by_cases hunready : ∃ pod ∈ c.managedPods namespace_,
      Hosts nodeName pod ∧ isPodReady pod = false
  · rw [if_pos hunready, if_pos (hmem.mpr hunready)]
  · rw [if_neg hunready, if_neg fun h => hunready (hmem.mp h),
      if_pos (mem_hostingNodes.mp hhosting)]

include hlist in
theorem unhealthyNodes_subset :
    (patchNodeConditions env c namespace_).unhealthyNodes ⊆
      hostingNodes (c.managedPods namespace_) := by
  intro nodeName hmem
  obtain ⟨pod, hpod, hhosts, -⟩ :=
    (mem_unhealthyNodes_patchNodeConditions c namespace_ hlist).mp hmem
  exact mem_hostingNodes.mpr ⟨pod, hpod, hhosts⟩

include hlist in
theorem nodeHealth_eq :
    nodeHealth env c namespace_ =
      some (((hostingNodes (c.managedPods namespace_)).card : ℤ) -
        (patchNodeConditions env c namespace_).unhealthyNodes.card,
        ((patchNodeConditions env c namespace_).unhealthyNodes.card : ℤ)) := by
  have hseen : (podPagesOf env c namespace_).flatten.foldl seePod ∅ =
      hostingNodes (c.managedPods namespace_) := by
    ext nodeName
    rw [mem_foldl_seePod, mem_hostingNodes]
    simp only [Finset.notMem_empty, false_or, ← mem_listing env c namespace_, listing,
      map_listedPods]
  rw [nodeHealth, seenNodes_eq hlist, hseen]
  rfl

include hlist in
theorem nodeHealth_eq_ended
    (hpatches : ∀ nodeName, PatchesSucceed env c (listing env c namespace_) nodeName) :
    let ended (status : ConditionStatus) := (hostingNodes (c.managedPods namespace_)).filter
      fun nodeName => (patchNodeConditions env c namespace_).cluster.readyStatus nodeName =
        some status
    nodeHealth env c namespace_ =
      some (((ended .conditionTrue).card : ℤ), ((ended .conditionFalse).card : ℤ)) := by
  intro ended
  have hstatus {nodeName : String}
      (hhosting : nodeName ∈ hostingNodes (c.managedPods namespace_)) :=
    readyStatus_of_hosting c namespace_ hlist (hpatches nodeName) hhosting
  have hsubset := unhealthyNodes_subset c namespace_ hlist
  have hfalse : ended .conditionFalse =
      (patchNodeConditions env c namespace_).unhealthyNodes := by
    ext nodeName
    rw [Finset.mem_filter]
    constructor
    · rintro ⟨hhosting, hended⟩
      by_contra hhealthy
      simp [hstatus hhosting, hhealthy] at hended
    · intro hmem
      exact ⟨hsubset hmem, by rw [hstatus (hsubset hmem), if_pos hmem]⟩
  have htrue : ended .conditionTrue = hostingNodes (c.managedPods namespace_) \
      (patchNodeConditions env c namespace_).unhealthyNodes := by
    ext nodeName
    rw [Finset.mem_filter, Finset.mem_sdiff, and_congr_right_iff]
    intro hhosting
    by_cases hmem : nodeName ∈ (patchNodeConditions env c namespace_).unhealthyNodes <;>
      simp [hstatus hhosting, hmem]
  rw [nodeHealth_eq c namespace_ hlist, hfalse, htrue, Finset.cast_card_sdiff hsubset]

theorem errs_run_of_ne_nil {pass : NodePass} (entries : List (ℕ × Pod × ℕ))
    (h : pass.errs ≠ []) : (pass.run env entries).errs ≠ [] := by
  induction entries using List.reverseRecOn with
  | nil => exact h
  | append_singleton entries entry ih =>
    rw [NodePass.run_snoc]
    exact errs_visit_of_ne_nil env (.inl ih)

theorem errs_passAfter {entries : List (ℕ × Pod × ℕ)}
    (hdriver : ∀ page item, env.fails (.checkDriver page item) = none)
    (hpatches : ∀ nodeName, PatchesSucceed env c entries nodeName) :
    (passAfter env c entries).errs = [] := by
  induction entries using List.reverseRecOn with
  | nil => rfl
  | append_singleton entries entry ih =>
    have hbefore := ih fun nodeName e he => hpatches nodeName e (List.mem_append_left _ he)
    have honly : c.OnlyConditions (passAfter env c entries).cluster :=
      onlyConditions_run env ⟨c, ∅, []⟩
    rw [passAfter, NodePass.run_snoc]
    apply errs_visit_of_succeeds env hbefore (hdriver _ _)
    intro hhosts
    have hpatch := hpatches entry.2.1.nodeName entry (by simp) hhosts
    exact ⟨(honly.labels _).symm ▸ hpatch.1, hpatch.2⟩

variable (env)

/-- The result of a pass in which nothing but patches fails: every node no patch of which fails
ends as its pods are due, and the flag and the gauges speak of the nodes with listed pods. -/
theorem patchNodeConditions_result
    (hcalls : ∀ call, (∀ page item, call ≠ .patchNode page item) → env.fails call = none) :
    PassResult env c namespace_ := by
  have hlist : ∀ page, env.fails (.listPods page) = none := fun page => hcalls _ (by simp)
  have hrun := patchNodeConditions_eq c namespace_ hlist
  refine ⟨?_, ?_, ?_, ?_, ?_, ?_, ?_⟩
  · intro nodeName hpatches
    exact readyStatus_patchNodeConditions_eq c namespace_ hlist hpatches
  · intro nodeName hnone
    rw [hrun]
    apply lookup_run_of_not_hosts
    intro entry hentry
    exact hnone _ ((mem_listing env c namespace_).mp (List.mem_map_of_mem hentry))
  · intro nodeName
    rw [hrun]
    exact otherConditions_run env ⟨c, ∅, []⟩
  · intro hpatches
    constructor
    · rintro ⟨nodeName, hmem⟩
      have hhosting := unhealthyNodes_subset c namespace_ hlist hmem
      refine ⟨nodeName, hhosting, ?_⟩
      rw [readyStatus_of_hosting c namespace_ hlist (hpatches nodeName) hhosting, if_pos hmem]
    · rintro ⟨nodeName, hhosting, hfalse⟩
      rw [readyStatus_of_hosting c namespace_ hlist (hpatches nodeName) hhosting] at hfalse
      by_contra hempty
      rw [Finset.not_nonempty_iff_eq_empty] at hempty
      simp [hempty] at hfalse
  · intro hpatches
    exact nodeHealth_eq_ended c namespace_ hlist hpatches
  · intro hpatches
    rw [hrun]
    exact errs_passAfter c (fun page item => hcalls _ (by simp)) hpatches
  · intro before entry after hsplit hfails
    have hsplit' : listing env c namespace_ = before ++ [entry] ++ after := by simp [hsplit]
    have hone : (passAfter env c (before ++ [entry])).errs ≠ [] := by
      rw [passAfter, NodePass.run_snoc]
      exact errs_visit_of_ne_nil env (.inr hfails)
    rw [hrun, hsplit', passAfter, NodePass.run, List.foldl_append]
    exact errs_run_of_ne_nil after hone

/-- A managed pod on `n1`, ready or not. -/
def podOnFirstNode (ready : ConditionStatus) : Pod where
  namespace_ := "gpu-fractioning"
  labels := (∅ : LabelMap).insert labelManagedBy managedByValue
  nodeName := "n1"
  phase := .running
  conditions := [⟨"Ready", ready⟩]
  initContainerStatuses := []
  containerStatuses := []

/-- A node whose condition has been false from the start. -/
def falseNode : Node :=
  ⟨∅, [⟨nodeConditionType, .conditionFalse, "NotReady", "", 0, 0⟩]⟩

/-- The nodes `n1` and `n2` with a false condition, and pods on `n1` only. -/
def twoFalseNodes (pods : List Pod) : Cluster :=
  ⟨none, ∅, ((∅ : FiniteMap String Node).insert "n1" falseNode).insert "n2" falseNode, pods,
    none, none⟩

/-- With a ready and an unready pod on it `n1` ends false, and is counted. -/
theorem patchNodeConditions_result_mixed :
    let c := twoFalseNodes [podOnFirstNode .conditionTrue, podOnFirstNode .conditionFalse]
    (∀ call, Env.undisturbed.fails call = none) ∧
      PassResult .undisturbed c "gpu-fractioning" ∧
      nodeHealth .undisturbed c "gpu-fractioning" = some (0, 1) :=
  ⟨fun _ => rfl, patchNodeConditions_result .undisturbed _ _ fun _ _ => rfl, by decide +kernel⟩

/-- `n2` hosts no pod and ends false as it was, but the pass over a ready `n1` reports no unhealthy
node and counts none as degraded. -/
theorem stale_false_node_unreported :
    let c := twoFalseNodes [podOnFirstNode .conditionTrue]
    let pass := patchNodeConditions .undisturbed c "gpu-fractioning"
    (∀ call, Env.undisturbed.fails call = none) ∧
      pass.cluster.readyStatus "n2" = some .conditionFalse ∧ pass.unhealthyNodes = ∅ ∧
      nodeHealth .undisturbed c "gpu-fractioning" = some (1, 0) :=
  ⟨fun _ => rfl, by decide +kernel⟩

end Results

end GpuFractioning.Operator
