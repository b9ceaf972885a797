import GpuFractioning.Operator.NodeConditions

/-!
# Sweeps over listed nodes

The cleanup of conditions and labels and the driver upgrade walk over listed nodes
and patch those that need it. A turn touches its own node only; a failed patch is
noted and the walk goes on, a failed list ends it.
-/

namespace GpuFractioning.Operator

/-- The accumulator of a walk: the cluster and the errors so far. -/
abbrev Walk := Cluster × List String

section Turn

variable (env : Env) (patchCall : String → ApiCall) (needs : Node → Prop) (act : Node → Node)

/-- One turn: a listed node that needs it is patched with `act`, or the failure noted. -/
structure Patches (visit : Walk → String × Node → Walk) : Prop where
  skipped : ∀ acc entry, ¬ needs entry.2 → visit acc entry = acc
  failed : ∀ acc entry, needs entry.2 → env.fails (patchCall entry.1) ≠ none →
    ∃ err, visit acc entry = (acc.1, acc.2 ++ [err])
  patched : ∀ acc entry, needs entry.2 → env.fails (patchCall entry.1) = none →
    (acc.1.nodes.lookup entry.1).isSome → visit acc entry = (acc.1.modifyNode entry.1 act, acc.2)
  idempotent : ∀ node, act (act node) = act node

/-- The turn of the entry patches the node. -/
def PatchedIn (nodeName : String) (entry : String × Node) : Prop :=
  entry.1 = nodeName ∧ needs entry.2 ∧ env.fails (patchCall entry.1) = none

/-- The turn of the entry ends without an error. -/
def Unfailing (entry : String × Node) : Prop :=
  needs entry.2 → env.fails (patchCall entry.1) = none

/-- What a walk does: the `reached` nodes are patched, the others left alone, and
there is no new error exactly when `clean` holds. -/
structure Swept (reached : String → Prop) (clean : Prop) (acc acc' : Walk) : Prop where
  frame : acc'.1 = { acc.1 with nodes := acc'.1.nodes }
  patched : ∀ nodeName, reached nodeName →
    acc'.1.nodes.lookup nodeName = (acc.1.nodes.lookup nodeName).map act
  kept : ∀ nodeName, ¬ reached nodeName →
    acc'.1.nodes.lookup nodeName = acc.1.nodes.lookup nodeName
  errs : acc'.2 = [] ↔ acc.2 = [] ∧ clean

variable {env patchCall needs act} {visit : Walk → String × Node → Walk}

theorem swept_refl (acc : Walk) : Swept act (fun _ => False) True acc acc where
  frame := rfl
  patched _ h := h.elim
  kept _ _ := rfl
  errs := by simp

theorem Swept.mono {reached reached' : String → Prop} {clean clean' : Prop} {acc acc' : Walk}
    (h : Swept act reached clean acc acc') (hreached : ∀ nodeName, reached nodeName ↔
      reached' nodeName) (hclean : clean ↔ clean') : Swept act reached' clean' acc acc' where
  frame := h.frame
  patched nodeName hname := h.patched nodeName ((hreached nodeName).mpr hname)
  kept nodeName hname := h.kept nodeName fun hname' => hname ((hreached nodeName).mp hname')
  errs := by rw [h.errs, hclean]

theorem Swept.isSome {reached : String → Prop} {clean : Prop} {acc acc' : Walk}
    (h : Swept act reached clean acc acc') (nodeName : String) :
    (acc'.1.nodes.lookup nodeName).isSome = (acc.1.nodes.lookup nodeName).isSome := by
  by_cases hname : reached nodeName
  · rw [h.patched nodeName hname, Option.isSome_map]
  · rw [h.kept nodeName hname]

theorem Swept.trans (hact : ∀ node, act (act node) = act node) {reached reached' : String → Prop}
    {clean clean' : Prop} {acc acc' acc'' : Walk} (h : Swept act reached clean acc acc')
    (h' : Swept act reached' clean' acc' acc'') :
    Swept act (fun nodeName => reached nodeName ∨ reached' nodeName) (clean ∧ clean') acc
      acc'' where
  frame := by rw [h'.frame, h.frame]
  patched nodeName hname := by
    by_cases hsecond : reached' nodeName
    · rw [h'.patched nodeName hsecond]
      by_cases hfirst : reached nodeName
      · rw [h.patched nodeName hfirst, Option.map_map]
        exact Option.map_congr fun node _ => hact node
      · rw [h.kept nodeName hfirst]
    · rw [h'.kept nodeName hsecond]
      exact h.patched nodeName (hname.resolve_right hsecond)
  kept nodeName hname := by
    rw [not_or] at hname
    rw [h'.kept nodeName hname.2, h.kept nodeName hname.1]
  errs := by rw [h'.errs, h.errs, and_assoc]

theorem swept_visit (hvisit : Patches env patchCall needs act visit) {acc : Walk}
    {entry : String × Node} (hexists : (acc.1.nodes.lookup entry.1).isSome) :
    Swept act (fun nodeName => PatchedIn env patchCall needs nodeName entry)
      (Unfailing env patchCall needs entry) acc (visit acc entry) := by
  by_cases hneeds : needs entry.2
  · by_cases hcall : env.fails (patchCall entry.1) = none
    · rw [hvisit.patched acc entry hneeds hcall hexists]
      refine ⟨acc.1.modifyNode_frame entry.1 act, ?_, ?_, ?_⟩
      · rintro nodeName ⟨rfl, -⟩
        exact (acc.1.lookup_modifyNode entry.1 act entry.1).trans (if_pos rfl)
      · intro nodeName hname
        refine (acc.1.lookup_modifyNode entry.1 act nodeName).trans (if_neg ?_)
        rintro rfl
        exact hname ⟨rfl, hneeds, hcall⟩
      · simp [Unfailing, hcall]
    · obtain ⟨err, herr⟩ := hvisit.failed acc entry hneeds hcall
      rw [herr]
      refine ⟨rfl, ?_, fun _ _ => rfl, ?_⟩
      · rintro nodeName ⟨-, -, hnone⟩
        exact absurd hnone hcall
      · simp [Unfailing, hneeds, hcall]
  · rw [hvisit.skipped acc entry hneeds]
    refine ⟨rfl, ?_, fun _ _ => rfl, ?_⟩
    · rintro nodeName ⟨-, hneeds', -⟩
      exact absurd hneeds' hneeds
    · simp [Unfailing, hneeds]

theorem swept_foldl (hvisit : Patches env patchCall needs act visit)
    {entries : List (String × Node)} {acc : Walk}
    (hexists : ∀ entry ∈ entries, (acc.1.nodes.lookup entry.1).isSome) :
    Swept act (fun nodeName => ∃ entry ∈ entries, PatchedIn env patchCall needs nodeName entry)
      (∀ entry ∈ entries, Unfailing env patchCall needs entry) acc (entries.foldl visit acc) := by
  induction entries generalizing acc with
  | nil =>
    refine (swept_refl acc).mono ?_ ?_
    · simp
    · simp
  | cons entry entries ih =>
    have hfirst := swept_visit hvisit (hexists entry List.mem_cons_self)
    have hrest : ∀ e ∈ entries, ((visit acc entry).1.nodes.lookup e.1).isSome := by
      intro e he
      rw [hfirst.isSome]
      exact hexists e (List.mem_cons_of_mem _ he)
    refine (hfirst.trans hvisit.idempotent (ih hrest)).mono ?_ ?_
    · intro nodeName
      rw [List.exists_mem_cons_iff]
    · rw [List.forall_mem_cons]

end Turn

section Pages

variable (env : Env) (listCall : ℕ → ApiCall)

/-- The entry is on a page that is listed: no list fails up to that page. -/
def Listed (entry : String × Node) : ℕ → List (List (String × Node)) → Prop
  | _, [] => False
  | page, nodes :: rest =>
    env.fails (listCall page) = none ∧ (entry ∈ nodes ∨ Listed entry (page + 1) rest)

/-- No list of the sweep fails. -/
def ListsSucceed : ℕ → List (List (String × Node)) → Prop
  | _, [] => True
  | page, _ :: rest => env.fails (listCall page) = none ∧ ListsSucceed (page + 1) rest

/-- No call of the sweep fails: neither a list nor the patch of a node that needs it. -/
def SweepSucceeds (patchCall : String → ApiCall) (needs : Node → Prop)
    (pages : List (List (String × Node))) : Prop :=
  ListsSucceed env listCall 0 pages ∧
    ∀ entry ∈ pages.flatten, Unfailing env patchCall needs entry

variable {env listCall} {patchCall : String → ApiCall} {needs : Node → Prop} {act : Node → Node}
  {visit : Walk → String × Node → Walk}

theorem listed_of_listsSucceed {entry : String × Node} {page : ℕ}
    {pages : List (List (String × Node))} (hlists : ListsSucceed env listCall page pages)
    (hentry : entry ∈ pages.flatten) : Listed env listCall entry page pages := by
  induction pages generalizing page with
  | nil => simp at hentry
  | cons nodes rest ih =>
    obtain ⟨hlist, hrest⟩ := hlists
    rw [List.flatten_cons, List.mem_append] at hentry
    exact ⟨hlist, hentry.imp id (ih hrest)⟩

theorem Listed.mem {entry : String × Node} {page : ℕ} {pages : List (List (String × Node))}
    (h : Listed env listCall entry page pages) : entry ∈ pages.flatten := by
  induction pages generalizing page with
  | nil => exact h.elim
  | cons nodes rest ih =>
    rw [List.flatten_cons, List.mem_append]
    exact h.2.imp id ih

theorem swept_sweepNodes (hvisit : Patches env patchCall needs act visit)
    {pages : List (List (String × Node))} {page : ℕ} {acc : Walk}
    (hexists : ∀ entry ∈ pages.flatten, (acc.1.nodes.lookup entry.1).isSome) :
    Swept act
      (fun nodeName => ∃ entry, Listed env listCall entry page pages ∧
        PatchedIn env patchCall needs nodeName entry)
      (ListsSucceed env listCall page pages ∧
        ∀ entry ∈ pages.flatten, Unfailing env patchCall needs entry)
      acc (sweepNodes env listCall visit page pages acc) := by
  induction pages generalizing page acc with
  | nil =>
    refine (swept_refl acc).mono ?_ ?_
    · simp [Listed]
    · simp [ListsSucceed]
  | cons nodes rest ih =>
    rw [List.flatten_cons, List.forall_mem_append] at hexists
    cases hlist : env.fails (listCall page) with
    | some message =>
      simp only [sweepNodes, hlist]
      refine ⟨rfl, ?_, fun _ _ => rfl, ?_⟩
      · rintro nodeName ⟨entry, ⟨hnone, -⟩, -⟩
        rw [hlist] at hnone
        exact absurd hnone (by simp)
      · simp [ListsSucceed, hlist]
    | none =>
      simp only [sweepNodes, hlist]
      have hpage := swept_foldl hvisit hexists.1
      have hrest : ∀ entry ∈ rest.flatten,
          ((nodes.foldl visit acc).1.nodes.lookup entry.1).isSome := by
        intro entry hentry
        rw [hpage.isSome]
        exact hexists.2 entry hentry
      refine (hpage.trans hvisit.idempotent (ih hrest)).mono ?_ ?_
      · intro nodeName
        simp only [Listed, hlist, true_and, or_and_right, exists_or]
      · rw [ListsSucceed, List.flatten_cons, List.forall_mem_append]
        simp only [hlist, true_and]
        exact and_left_comm

end Pages

section Visits

variable (env : Env)

/-- The node carries the condition. -/
def carriesCondition (node : Node) : Prop := (findNodeCondition node).isSome

/-- The node has a driver-major label that is not empty. -/
def carriesDriverMajor (node : Node) : Prop :=
  (node.labels.lookup nvidiaDriverMajorLabel).getD "" ≠ ""

/-- The patch that removes the label. -/
def Node.deleteDriverMajor (node : Node) : Node :=
  { node with labels := node.labels.erase nvidiaDriverMajorLabel }

theorem Node.deleteCondition_idempotent (node : Node) :
    node.deleteCondition.deleteCondition = node.deleteCondition := by
  simp [Node.deleteCondition]

theorem Node.deleteDriverMajor_idempotent (node : Node) :
    node.deleteDriverMajor.deleteDriverMajor = node.deleteDriverMajor := by
  have herased : (node.labels.erase nvidiaDriverMajorLabel).lookup nvidiaDriverMajorLabel = none :=
    AList.lookup_erase _ _
  simp only [Node.deleteDriverMajor, FiniteMap.erase_eq_self herased]

theorem findNodeCondition_deleteCondition (node : Node) :
    findNodeCondition node.deleteCondition = none := by
  simp [findNodeCondition, Node.deleteCondition]

theorem patches_removeConditionsPage :
    Patches env .removeCondition carriesCondition Node.deleteCondition
      (removeConditionsPage env) where
  skipped acc entry hneeds := if_pos (by simpa [carriesCondition] using hneeds)
  failed acc entry hneeds hcall := by
    obtain ⟨message, hmessage⟩ := Option.ne_none_iff_exists'.mp hcall
    refine ⟨"removing condition from node " ++ entry.1 ++ ": " ++ message, ?_⟩
    simp only [removeConditionsPage, removeNodeCondition, hmessage]
    exact if_neg (by simpa [carriesCondition, Option.isSome_iff_ne_none] using hneeds)
  patched acc entry hneeds hcall _ := by
    simp only [removeConditionsPage, removeNodeCondition, hcall, Option.toList_none,
      List.append_nil]
    exact if_neg (by simpa [carriesCondition, Option.isSome_iff_ne_none] using hneeds)
  idempotent := Node.deleteCondition_idempotent

theorem patches_clearUpgradingNode :
    Patches env .removeUpgradingCondition carriesCondition Node.deleteCondition
      (clearUpgradingNode env) where
  skipped acc entry hneeds := by
    exact if_neg hneeds
  failed acc entry hneeds hcall := by
    obtain ⟨message, hmessage⟩ := Option.ne_none_iff_exists'.mp hcall
    refine ⟨"removing condition from node " ++ entry.1 ++ ": " ++ message, ?_⟩
    simp only [clearUpgradingNode, removeNodeCondition, hmessage]
    exact if_pos hneeds
  patched acc entry hneeds hcall _ := by
    simp only [clearUpgradingNode, removeNodeCondition, hcall, Option.toList_none, List.append_nil]
    exact if_pos hneeds
  idempotent := Node.deleteCondition_idempotent

theorem patches_removeLabelsPage :
    Patches env .removeLabel carriesDriverMajor Node.deleteDriverMajor (removeLabelsPage env) where
  skipped acc entry hneeds := by
    simp only [removeLabelsPage]
    exact if_pos (not_not.mp hneeds)
  failed acc entry hneeds hcall := by
    obtain ⟨message, hmessage⟩ := Option.ne_none_iff_exists'.mp hcall
    refine ⟨"removing driver label from node " ++ entry.1 ++ ": " ++ message, ?_⟩
    simp only [removeLabelsPage, hmessage]
    exact if_neg hneeds
  patched acc entry hneeds hcall hexists := by
    have hnode : (acc.1.nodes.lookup entry.1).isNone = false := by
      simpa [Option.isSome_iff_ne_none] using hexists
    simp only [removeLabelsPage, hcall, hnode]
    exact if_neg hneeds
  idempotent := Node.deleteDriverMajor_idempotent

end Visits

end GpuFractioning.Operator
