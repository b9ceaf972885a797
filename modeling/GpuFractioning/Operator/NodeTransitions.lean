import GpuFractioning.Operator.NodePasses

/-!
# The nodes during a pass

`PatchNodeCondition` keeps the time of the last transition where the status it
reads is the one it writes. A node with an unready pod is not set to true after
that pod, but may be before it, and then goes from false to true and back within
one pass.
-/

namespace GpuFractioning.Operator

section Transitions

/-- The condition of the node, if it carries one. -/
def Cluster.conditionOf (c : Cluster) (nodeName : String) : Option NodeCondition :=
  (c.nodes.lookup nodeName).bind findNodeCondition

/-- A step writes the node's condition as true. -/
def SetsTrue (c c' : Cluster) (nodeName : String) : Prop :=
  c'.readyStatus nodeName = some .conditionTrue ∧
    c'.nodes.lookup nodeName ≠ c.nodes.lookup nodeName

/-- The first listed pod of the node, if it has any, is not ready. -/
def UnreadyFirst (nodeName : String) (entries : List (ℕ × Pod × ℕ)) : Prop :=
  ∀ entry ∈ entries.find? fun entry => Hosts nodeName entry.2.1, isPodReady entry.2.1 = false

variable (env : Env) {page item : ℕ} {c : Cluster} {nodeName : String} {condition : NodeCondition}

theorem cluster_of_patch_failed (htype : condition.type = nodeConditionType)
    (h : (patchNodeCondition env page item c nodeName condition).2 ≠ none) :
    (patchNodeCondition env page item c nodeName condition).1 = c := by
  obtain ⟨hsame, -⟩ | ⟨time, hwrite⟩ :=
    patchNodeCondition_cases env page item c nodeName condition htype
  · rw [hsame]
  · rw [hwrite] at h ⊢
    unfold writeNodeCondition at h ⊢
    cases hcall : env.fails (.patchNode page item) with
    | some message => rfl
    | none =>
      simp only [hcall] at h ⊢
      split_ifs at h ⊢
      · rfl
      · exact absurd rfl h

theorem conditionOf_patch_same_status (hread : env.fails (.readNode page item) = none)
    (htype : condition.type = nodeConditionType) {existing : NodeCondition}
    (hexisting : c.conditionOf nodeName = some existing)
    (hstatus : existing.status = condition.status) :
    ∃ cond, (patchNodeCondition env page item c nodeName condition).1.conditionOf nodeName =
        some cond ∧ cond.status = existing.status ∧
        cond.lastTransitionTime = existing.lastTransitionTime := by
  unfold Cluster.conditionOf at hexisting
  unfold patchNodeCondition
  simp only [htype, ne_eq, not_true_eq_false, if_false, hread, hexisting, hstatus, if_true]
  split_ifs with hsame
  · exact ⟨existing, hexisting, hstatus, rfl⟩
  · unfold writeNodeCondition
    cases env.fails (.patchNode page item) with
    | some message => exact ⟨existing, hexisting, hstatus, rfl⟩
    | none =>
      cases hnode : c.nodes.lookup nodeName with
      | none => simp [hnode] at hexisting
      | some node =>
        simp only [Option.isNone_some, Bool.false_eq_true, if_false]
        rw [Cluster.conditionOf, Cluster.lookup_modifyNode, if_pos rfl, hnode, Option.map_some,
          Option.bind_some, findNodeCondition_mergeCondition (by exact htype)]
        exact ⟨_, rfl, rfl, rfl⟩

/-- Once a pod of the node that is not ready has been visited, no visit sets the node to true. -/
theorem not_setsTrue_of_unready {entries : List (ℕ × Pod × ℕ)} (entry : ℕ × Pod × ℕ)
    (hunready : Unready nodeName entries) :
    ¬ SetsTrue (passAfter env c entries).cluster (passAfter env c (entries ++ [entry])).cluster
      nodeName := by
  have hpoisoned : nodeName ∈ (passAfter env c entries).unhealthyNodes :=
    (mem_unhealthyNodes_run env _).mpr (.inr hunready)
  have hnext : passAfter env c (entries ++ [entry]) =
      (passAfter env c entries).visit env entry.1 entry.2 := NodePass.run_snoc env _ _ _
  rw [hnext]
  rintro ⟨htrue, hchanged⟩
  by_cases hhosts : Hosts nodeName entry.2.1
  · obtain ⟨rfl, -⟩ := hhosts
    by_cases hskips : (passAfter env c entries).Skips entry.2.1
    · have hvisit : (passAfter env c entries).visit env entry.1 entry.2 =
          passAfter env c entries := visit_of_skips env hskips
      exact hchanged (by rw [hvisit])
    · have hready : isPodReady entry.2.1 = false := by
        by_contra hready
        exact hskips (.inr ⟨by simpa using hready, hpoisoned⟩)
      have htype := type_conditionFor env entry.1 entry.2.2 (passAfter env c entries).cluster
        entry.2.1
      have hcluster : ((passAfter env c entries).visit env entry.1 entry.2).cluster = _ :=
        cluster_visit_of_not_skips env hskips
      rw [hcluster] at htrue hchanged
      have hpatched : (patchNodeCondition env entry.1 entry.2.2 (passAfter env c entries).cluster
          entry.2.1.nodeName (conditionFor env entry.1 entry.2.2
            (passAfter env c entries).cluster entry.2.1)).2 = none := by
        by_contra hfailed
        exact hchanged (by rw [cluster_of_patch_failed env htype hfailed])
      rw [readyStatus_patchNodeCondition _ _ _ _ _ _ htype, if_pos ⟨rfl, hpatched⟩,
        status_conditionFor, hready] at htrue
      simp at htrue
  · exact hchanged (lookup_visit_of_not_hosts env hhosts)

theorem unreadyFirst_of_snoc {entries : List (ℕ × Pod × ℕ)} {entry : ℕ × Pod × ℕ}
    (h : UnreadyFirst nodeName (entries ++ [entry])) :
    UnreadyFirst nodeName entries ∧
      (Hosts nodeName entry.2.1 → isPodReady entry.2.1 = true → Unready nodeName entries) := by
  unfold UnreadyFirst at h ⊢
  rw [List.find?_append] at h
  cases hfind : entries.find? fun entry => Hosts nodeName entry.2.1 with
  | some first =>
    have hfirst := h first (by simp [hfind])
    refine ⟨?_, fun _ _ => ⟨first, List.mem_of_find?_eq_some hfind, ?_, hfirst⟩⟩
    · rintro e he
      cases he
      exact hfirst
    · simpa using List.find?_some hfind
  | none =>
    refine ⟨by simp, fun hhosts hready => ?_⟩
    have hfalse := h entry (by simp [hfind, hhosts])
    simp [hready] at hfalse

theorem conditionOf_passAfter (hcalls : ∀ call, env.fails call = none) {existing : NodeCondition}
    (hexisting : c.conditionOf nodeName = some existing)
    (hstatus : existing.status = .conditionFalse) {entries : List (ℕ × Pod × ℕ)}
    (hfirst : UnreadyFirst nodeName entries) :
    ∃ cond, (passAfter env c entries).cluster.conditionOf nodeName = some cond ∧
      cond.status = .conditionFalse ∧ cond.lastTransitionTime = existing.lastTransitionTime := by
  induction entries using List.reverseRecOn with
  | nil => exact ⟨existing, hexisting, hstatus, rfl⟩
  | append_singleton entries entry ih =>
    obtain ⟨hfirst, hready⟩ := unreadyFirst_of_snoc hfirst
    obtain ⟨cond, hcond, hfalse, htime⟩ := ih hfirst
    have hnext : passAfter env c (entries ++ [entry]) =
        (passAfter env c entries).visit env entry.1 entry.2 := NodePass.run_snoc env _ _ _
    rw [hnext]
    by_cases hhosts : Hosts nodeName entry.2.1
    · by_cases hskips : (passAfter env c entries).Skips entry.2.1
      · have hvisit : (passAfter env c entries).visit env entry.1 entry.2 =
            passAfter env c entries := visit_of_skips env hskips
        rw [hvisit]
        exact ⟨cond, hcond, hfalse, htime⟩
      · have hunready : isPodReady entry.2.1 = false := by
          by_contra hnot
          have hisReady : isPodReady entry.2.1 = true := by simpa using hnot
          have hpoisoned : nodeName ∈ (passAfter env c entries).unhealthyNodes :=
            (mem_unhealthyNodes_run env _).mpr (.inr (hready hhosts hisReady))
          exact hskips (.inr ⟨hisReady, hhosts.1 ▸ hpoisoned⟩)
        obtain ⟨rfl, -⟩ := hhosts
        have hcluster : ((passAfter env c entries).visit env entry.1 entry.2).cluster = _ :=
          cluster_visit_of_not_skips env hskips
        have hsame : cond.status = (conditionFor env entry.1 entry.2.2
            (passAfter env c entries).cluster entry.2.1).status := by
          rw [hfalse, status_conditionFor, hunready]
          rfl
        obtain ⟨cond', hcond', hstatus', htime'⟩ := conditionOf_patch_same_status env (hcalls _)
          (type_conditionFor env _ _ _ _) hcond hsame
        rw [hcluster]
        exact ⟨cond', hcond', hstatus'.trans hfalse, htime'.trans htime⟩
    · rw [Cluster.conditionOf, lookup_visit_of_not_hosts env hhosts]
      exact ⟨cond, hcond, hfalse, htime⟩

/-- Within a pass no node is set to true after one of its pods has been found unready, and a node
that is false before and after it keeps its transition time if its first listed pod is not ready. -/
theorem nodes_steady_after_unready (c : Cluster) (namespace_ : String)
    (hcalls : ∀ call, env.fails call = none) :
    patchNodeConditions env c namespace_ = passAfter env c (listing env c namespace_) ∧
      (∀ before entry after, listing env c namespace_ = before ++ entry :: after →
        ∀ nodeName, Unready nodeName before →
          ¬ SetsTrue (passAfter env c before).cluster
            (passAfter env c (before ++ [entry])).cluster nodeName) ∧
      ∀ nodeName cond cond', c.conditionOf nodeName = some cond →
        cond.status = .conditionFalse →
        (patchNodeConditions env c namespace_).cluster.conditionOf nodeName = some cond' →
        cond'.status = .conditionFalse →
        UnreadyFirst nodeName (listing env c namespace_) →
          cond'.lastTransitionTime = cond.lastTransitionTime := by
  have hrun := patchNodeConditions_eq c namespace_ fun page => hcalls (.listPods page)
  refine ⟨hrun, ?_, ?_⟩
  · intro before entry after _ nodeName hunready
    exact not_setsTrue_of_unready env entry hunready
  · intro nodeName cond cond' hcond hfalse hcond' _ hfirst
    obtain ⟨last, hlast, -, htime⟩ := conditionOf_passAfter env hcalls hcond hfalse hfirst
    rw [hrun, hlast] at hcond'
    cases hcond'
    exact htime

/-- A clock that has moved on since the condition was written. -/
def Env.later : Env := { Env.undisturbed with now := fun _ => 100 }

/-- With its unready pod listed first, the node keeps its transition time. -/
theorem nodes_steady_unready_listed_first :
    let c := twoFalseNodes [podOnFirstNode .conditionFalse, podOnFirstNode .conditionTrue]
    ∃ cond', (patchNodeConditions .later c "gpu-fractioning").cluster.conditionOf "n1" =
        some cond' ∧ cond'.status = .conditionFalse ∧ cond'.lastTransitionTime = 0 := by
  intro c
  have hsteady := (nodes_steady_after_unready .later c "gpu-fractioning" fun _ => rfl).2.2 "n1"
  refine ⟨_, rfl, rfl, hsteady _ _ rfl rfl rfl rfl ?_⟩
  intro entry hentry
  cases hentry
  decide +kernel

/-- With its ready pod listed first, the node is set to true on the way from false to false, and
its transition time moves. -/
theorem ready_pod_listed_first_flaps :
    let c := twoFalseNodes [podOnFirstNode .conditionTrue, podOnFirstNode .conditionFalse]
    let first := (passAfter .later c ((listing .later c "gpu-fractioning").take 1)).cluster
    let last := (patchNodeConditions .later c "gpu-fractioning").cluster
    (∀ call, Env.later.fails call = none) ∧ SetsTrue c first "n1" ∧
      (c.conditionOf "n1").map (fun cond => (cond.status, cond.lastTransitionTime)) =
        some (.conditionFalse, 0) ∧
      (last.conditionOf "n1").map (fun cond => (cond.status, cond.lastTransitionTime)) =
        some (.conditionFalse, 100) := by
  refine ⟨fun _ => rfl, ⟨by decide +kernel, by decide +kernel⟩, ?_⟩
  decide +kernel

end Transitions

end GpuFractioning.Operator
