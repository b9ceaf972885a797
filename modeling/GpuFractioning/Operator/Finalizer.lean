import GpuFractioning.Operator.NodeSweeps
import GpuFractioning.Operator.Rollout

/-!
# The cleanup before the finalizer goes

`reconcileDelete` takes the Ready condition and the driver-major label from the
targeted nodes, in two paged sweeps, and then releases the finalizer. Whatever
calls fail, the finalizer outlives everything there is to clean up.
-/

namespace GpuFractioning.Operator

section Nodes

/-- Neither the condition nor a driver-major label is left. -/
structure Node.Clean (node : Node) : Prop where
  condition : ¬ carriesCondition node
  driverMajor : ¬ carriesDriverMajor node

/-- At most the condition and the driver-major label differ. -/
structure Node.SameOtherwise (node node' : Node) : Prop where
  conditions : (node'.conditions.filter fun cond => cond.type ≠ nodeConditionType) =
    node.conditions.filter fun cond => cond.type ≠ nodeConditionType
  labels : ∀ key, key ≠ nvidiaDriverMajorLabel → node'.labels.lookup key = node.labels.lookup key

theorem Node.SameOtherwise.refl (node : Node) : node.SameOtherwise node := ⟨rfl, fun _ _ => rfl⟩

theorem Node.SameOtherwise.trans {node node' node'' : Node} (h : node.SameOtherwise node')
    (h' : node'.SameOtherwise node'') : node.SameOtherwise node'' where
  conditions := h'.conditions.trans h.conditions
  labels key hkey := (h'.labels key hkey).trans (h.labels key hkey)

theorem Node.sameOtherwise_deleteCondition (node : Node) :
    node.SameOtherwise node.deleteCondition := by
  refine ⟨?_, fun _ _ => rfl⟩
  simp [Node.deleteCondition]

theorem Node.sameOtherwise_deleteDriverMajor (node : Node) :
    node.SameOtherwise node.deleteDriverMajor := by
  refine ⟨rfl, ?_⟩
  intro key hkey
  exact (FiniteMap.lookup_erase _ _ _).trans (if_neg hkey)

theorem not_carriesCondition_deleteCondition (node : Node) :
    ¬ carriesCondition node.deleteCondition := by
  simp [carriesCondition, findNodeCondition_deleteCondition]

theorem not_carriesDriverMajor_deleteDriverMajor (node : Node) :
    ¬ carriesDriverMajor node.deleteDriverMajor := by
  simp [carriesDriverMajor, Node.deleteDriverMajor, AList.lookup_erase]

/-- The nodes of a cluster, except for what the cleanup removes from the targeted ones. -/
structure NodesKept (selector : LabelMap) (c c' : Cluster) : Prop where
  present : ∀ nodeName node, c.nodes.lookup nodeName = some node →
    ∃ node', c'.nodes.lookup nodeName = some node' ∧ node.SameOtherwise node' ∧
      (matchesSelector selector node.labels = false → node' = node)
  absent : ∀ nodeName, c.nodes.lookup nodeName = none → c'.nodes.lookup nodeName = none

theorem NodesKept.refl (selector : LabelMap) (c : Cluster) : NodesKept selector c c where
  present _ node hnode := ⟨node, hnode, .refl node, fun _ => rfl⟩
  absent _ h := h

theorem NodesKept.trans {selector : LabelMap} {c c' c'' : Cluster} (h : NodesKept selector c c')
    (h' : NodesKept selector c' c'') : NodesKept selector c c'' where
  present nodeName node hnode := by
    obtain ⟨node', hnode', hsame, hother⟩ := h.present nodeName node hnode
    obtain ⟨node'', hnode'', hsame', hother'⟩ := h'.present nodeName node' hnode'
    refine ⟨node'', hnode'', hsame.trans hsame', ?_⟩
    intro hmatch
    have hnode := hother hmatch
    rw [← hnode] at hmatch
    exact (hother' hmatch).trans hnode
  absent nodeName hnone := h'.absent nodeName (h.absent nodeName hnone)

end Nodes

section Sweeps

variable (env : Env) (c : Cluster) (selector : LabelMap)

theorem mem_nodesToSweep {entry : String × Node} :
    entry ∈ (nodesToSweep env c selector).flatten ↔
      c.nodes.lookup entry.1 = some entry.2 ∧ matchesSelector selector entry.2.labels = true := by
  rw [nodesToSweep, flatten_atLeastOnePage, (env.nodePages_perm _).mem_iff, Cluster.nodesMatching,
    List.mem_filter, FiniteMap.mem_pairs]

theorem swept_nodesToSweep {listCall : ℕ → ApiCall} {patchCall : String → ApiCall}
    {needs : Node → Prop} {act : Node → Node} {visit : Walk → String × Node → Walk}
    (hvisit : Patches env patchCall needs act visit) :
    Swept act
      (fun nodeName => ∃ entry, Listed env listCall entry 0 (nodesToSweep env c selector) ∧
        PatchedIn env patchCall needs nodeName entry)
      (SweepSucceeds env listCall patchCall needs (nodesToSweep env c selector)) (c, [])
      (sweepNodes env listCall visit 0 (nodesToSweep env c selector) (c, [])) := by
  refine swept_sweepNodes hvisit ?_
  intro entry hentry
  rw [((mem_nodesToSweep env c selector).mp hentry).1]
  rfl

/-- No call of the first sweep fails. -/
def ConditionSweepSucceeds : Prop :=
  SweepSucceeds env .listNodesWithCondition .removeCondition carriesCondition
    (nodesToSweep env c selector)

/-- No call of the second sweep fails. -/
def LabelSweepSucceeds : Prop :=
  SweepSucceeds env .listNodesWithLabel .removeLabel carriesDriverMajor
    (nodesToSweep env c selector)

variable {env c selector}

theorem nodesKept_of_swept {listCall : ℕ → ApiCall} {patchCall : String → ApiCall}
    {needs : Node → Prop} {act : Node → Node} {clean : Prop} {acc : Walk}
    (hact : ∀ node : Node, node.SameOtherwise (act node))
    (h : Swept act
      (fun nodeName => ∃ entry, Listed env listCall entry 0 (nodesToSweep env c selector) ∧
        PatchedIn env patchCall needs nodeName entry) clean (c, []) acc) :
    NodesKept selector c acc.1 where
  present nodeName node hnode := by
    by_cases hreached : ∃ entry, Listed env listCall entry 0 (nodesToSweep env c selector) ∧
        PatchedIn env patchCall needs nodeName entry
    · refine ⟨act node, ?_, hact node, ?_⟩
      · rw [h.patched nodeName hreached, hnode]
        rfl
      · intro hother
        obtain ⟨entry, hlisted, rfl, -⟩ := hreached
        obtain ⟨hentry, hmatch⟩ := (mem_nodesToSweep env c selector).mp hlisted.mem
        rw [hnode, Option.some.injEq] at hentry
        rw [hentry, hmatch] at hother
        exact absurd hother (by decide)
    · exact ⟨node, (h.kept nodeName hreached).trans hnode, .refl node, fun _ => rfl⟩
  absent nodeName hnone := by
    have hsome := h.isSome nodeName
    rw [hnone] at hsome
    exact Option.isSome_eq_false_iff.mp hsome |> Option.isNone_iff_eq_none.mp

theorem lookup_of_swept {act : Node → Node} {reached : String → Prop} {clean : Prop}
    {acc acc' : Walk} (h : Swept act reached clean acc acc') {nodeName : String} {node : Node}
    (hnode : acc.1.nodes.lookup nodeName = some node) :
    acc'.1.nodes.lookup nodeName = some (act node) ∨
      acc'.1.nodes.lookup nodeName = some node := by
  by_cases hreached : reached nodeName
  · rw [h.patched nodeName hreached, hnode]
    exact .inl rfl
  · rw [h.kept nodeName hreached, hnode]
    exact .inr rfl

theorem not_needs_of_swept {listCall : ℕ → ApiCall} {patchCall : String → ApiCall}
    {needs : Node → Prop} {act : Node → Node} {acc : Walk}
    (hact : ∀ node, ¬ needs (act node))
    (h : Swept act
      (fun nodeName => ∃ entry, Listed env listCall entry 0 (nodesToSweep env c selector) ∧
        PatchedIn env patchCall needs nodeName entry)
      (SweepSucceeds env listCall patchCall needs (nodesToSweep env c selector)) (c, []) acc)
    (herrs : acc.2 = []) {nodeName : String} {node node' : Node}
    (hnode : c.nodes.lookup nodeName = some node)
    (hmatch : matchesSelector selector node.labels = true)
    (hnode' : acc.1.nodes.lookup nodeName = some node') : ¬ needs node' := by
  obtain ⟨-, hlists, hpatches⟩ := h.errs.mp herrs
  have hmem : (nodeName, node) ∈ (nodesToSweep env c selector).flatten :=
    (mem_nodesToSweep env c selector).mpr ⟨hnode, hmatch⟩
  by_cases hreached : ∃ entry, Listed env listCall entry 0 (nodesToSweep env c selector) ∧
      PatchedIn env patchCall needs nodeName entry
  · rw [h.patched nodeName hreached, hnode, Option.map_some, Option.some.injEq] at hnode'
    rw [← hnode']
    exact hact node
  · rw [h.kept nodeName hreached, hnode, Option.some.injEq] at hnode'
    rw [← hnode']
    intro hneeds
    exact hreached ⟨(nodeName, node), listed_of_listsSucceed hlists hmem, rfl, hneeds,
      hpatches _ hmem hneeds⟩

end Sweeps

section Deletion

variable (env : Env) (c : Cluster) (config : GpuFractioningConfig)

/-- The cluster between the sweeps. -/
def afterConditions : Cluster := (removeNodeConditions env c config.spec.nodeSelector).1

/-- The cluster after both. -/
def afterLabels : Cluster :=
  (removeDriverMajorLabels env (afterConditions env c config) config.spec.nodeSelector).1

theorem swept_afterConditions :
    Swept Node.deleteCondition
      (fun nodeName => ∃ entry, Listed env .listNodesWithCondition entry 0
          (nodesToSweep env c config.spec.nodeSelector) ∧
        PatchedIn env .removeCondition carriesCondition nodeName entry)
      (ConditionSweepSucceeds env c config.spec.nodeSelector) (c, [])
      (removeNodeConditions env c config.spec.nodeSelector) :=
  swept_nodesToSweep env c _ (patches_removeConditionsPage env)

theorem swept_afterLabels :
    Swept Node.deleteDriverMajor
      (fun nodeName => ∃ entry, Listed env .listNodesWithLabel entry 0
          (nodesToSweep env (afterConditions env c config) config.spec.nodeSelector) ∧
        PatchedIn env .removeLabel carriesDriverMajor nodeName entry)
      (LabelSweepSucceeds env (afterConditions env c config) config.spec.nodeSelector)
      (afterConditions env c config, [])
      (removeDriverMajorLabels env (afterConditions env c config) config.spec.nodeSelector) :=
  swept_nodesToSweep env _ _ (patches_removeLabelsPage env)

theorem nodesKept_afterConditions :
    NodesKept config.spec.nodeSelector c (afterConditions env c config) :=
  nodesKept_of_swept Node.sameOtherwise_deleteCondition (swept_afterConditions env c config)

theorem nodesKept_afterLabels :
    NodesKept config.spec.nodeSelector (afterConditions env c config)
      (afterLabels env c config) :=
  nodesKept_of_swept Node.sameOtherwise_deleteDriverMajor (swept_afterLabels env c config)

theorem afterConditions_frame :
    afterConditions env c config = { c with nodes := (afterConditions env c config).nodes } :=
  (swept_afterConditions env c config).frame

theorem afterLabels_frame :
    afterLabels env c config = { c with nodes := (afterLabels env c config).nodes } := by
  have hframe : afterLabels env c config =
      { afterConditions env c config with nodes := (afterLabels env c config).nodes } :=
    (swept_afterLabels env c config).frame
  rw [hframe, afterConditions_frame]

/-- How a deletion can end. -/
inductive DeleteOutcome : Cluster × Except String Result → Prop
  | conditionsFailed (hconditions : ¬ ConditionSweepSucceeds env c config.spec.nodeSelector)
      (err : String) : DeleteOutcome (afterConditions env c config, .error err)
  | labelsFailed (hconditions : ConditionSweepSucceeds env c config.spec.nodeSelector)
      (hlabels : ¬ LabelSweepSucceeds env (afterConditions env c config) config.spec.nodeSelector)
      (err : String) : DeleteOutcome (afterLabels env c config, .error err)
  | updateFailed (hconditions : ConditionSweepSucceeds env c config.spec.nodeSelector)
      (hlabels : LabelSweepSucceeds env (afterConditions env c config) config.spec.nodeSelector)
      (hcall : env.fails .removeFinalizer ≠ none) (err : String) :
      DeleteOutcome (afterLabels env c config, .error err)
  | released (hconditions : ConditionSweepSucceeds env c config.spec.nodeSelector)
      (hlabels : LabelSweepSucceeds env (afterConditions env c config) config.spec.nodeSelector)
      (hcall : env.fails .removeFinalizer = none) :
      DeleteOutcome ({ afterLabels env c config with
        config := Reconciler.releaseFinalizer config }, .ok .done)

variable {config}

theorem deleteOutcome (hfinalizer : nodeConditionCleanupFinalizer ∈ config.finalizers) :
    DeleteOutcome env c config (Reconciler.reconcileDelete env c config) := by
  have hconditions := (swept_afterConditions env c config).errs
  have hlabels := (swept_afterLabels env c config).errs
  rw [eq_self, true_and] at hconditions hlabels
  unfold Reconciler.reconcileDelete
  rw [if_neg (not_not.mpr hfinalizer)]
  dsimp only
  rw [← afterConditions]
  by_cases herrs : (removeNodeConditions env c config.spec.nodeSelector).2 = []
  · rw [if_neg (not_not.mpr herrs)]
    by_cases herrs' : (removeDriverMajorLabels env (afterConditions env c config)
        config.spec.nodeSelector).2 = []
    · rw [if_neg (not_not.mpr herrs')]
      cases hcall : env.fails .removeFinalizer with
      | some message =>
        exact .updateFailed (hconditions.mp herrs) (hlabels.mp herrs') (by simp [hcall]) _
      | none => exact .released (hconditions.mp herrs) (hlabels.mp herrs') hcall
    · rw [if_pos herrs']
      exact .labelsFailed (hconditions.mp herrs) (fun h => herrs' (hlabels.mpr h)) _
  · rw [if_pos herrs]
    exact .conditionsFailed (fun h => herrs (hconditions.mpr h)) _

theorem notMem_releaseFinalizer {config' : GpuFractioningConfig}
    (h : Reconciler.releaseFinalizer config = some config') :
    nodeConditionCleanupFinalizer ∉ config'.finalizers ∧ config'.deleting = config.deleting := by
  unfold Reconciler.releaseFinalizer at h
  dsimp only at h
  split_ifs at h
  obtain rfl := Option.some.inj h
  simp

/-- The custom resource is still there with the finalizer. -/
def Cluster.HoldsFinalizer (c : Cluster) : Prop :=
  ∃ config, c.config = some config ∧ nodeConditionCleanupFinalizer ∈ config.finalizers

/-- What a deletion guarantees, whatever calls fail. -/
structure DeletionSafe (env : Env) (c : Cluster) (config : GpuFractioningConfig)
    (done : Cluster × Except String Result) : Prop where
  /-- The finalizer goes only when nothing is left on the targeted nodes. -/
  clean : ¬ done.1.HoldsFinalizer → ∀ nodeName node node', c.nodes.lookup nodeName = some node →
    done.1.nodes.lookup nodeName = some node' →
    matchesSelector config.spec.nodeSelector node.labels = true ∨
      matchesSelector config.spec.nodeSelector node'.labels = true → node'.Clean
  /-- A failed list or patch is reported and keeps the finalizer. -/
  failure : ¬ ConditionSweepSucceeds env c config.spec.nodeSelector ∨
      ¬ LabelSweepSucceeds env (afterConditions env c config) config.spec.nodeSelector →
    (∃ err, done.2 = .error err) ∧ done.1.config = some config
  /-- Every listed node that carries it loses its condition, unless its own patch fails. -/
  conditions : ∀ entry, Listed env .listNodesWithCondition entry 0
      (nodesToSweep env c config.spec.nodeSelector) →
    carriesCondition entry.2 → env.fails (.removeCondition entry.1) = none →
    ∃ node', done.1.nodes.lookup entry.1 = some node' ∧ ¬ carriesCondition node'
  /-- The same of the label, once that sweep is reached. -/
  driverMajors : ConditionSweepSucceeds env c config.spec.nodeSelector →
    ∀ entry, Listed env .listNodesWithLabel entry 0
      (nodesToSweep env (afterConditions env c config) config.spec.nodeSelector) →
    carriesDriverMajor entry.2 → env.fails (.removeLabel entry.1) = none →
    ∃ node', done.1.nodes.lookup entry.1 = some node' ∧ ¬ carriesDriverMajor node'
  /-- Nothing else of any node changes, and no other node. -/
  nodes : NodesKept config.spec.nodeSelector c done.1
  frame : done.1 = { c with nodes := done.1.nodes, config := done.1.config }
  /-- Without a failure the finalizer goes. -/
  released : (∀ call, env.fails call = none) → ¬ done.1.HoldsFinalizer

variable {env c}

theorem clean_afterLabels
    (hconditions : ConditionSweepSucceeds env c config.spec.nodeSelector)
    (hlabels : LabelSweepSucceeds env (afterConditions env c config) config.spec.nodeSelector)
    {nodeName : String} {node node' : Node} (hnode : c.nodes.lookup nodeName = some node)
    (hnode' : (afterLabels env c config).nodes.lookup nodeName = some node')
    (hmatch : matchesSelector config.spec.nodeSelector node.labels = true) : node'.Clean := by
  have hfirst := swept_afterConditions env c config
  have hsecond := swept_afterLabels env c config
  obtain ⟨middle, hmiddle, -⟩ :=
    (nodesKept_afterConditions env c config).present nodeName node hnode
  have hcondition : ¬ carriesCondition middle :=
    not_needs_of_swept not_carriesCondition_deleteCondition hfirst
      (hfirst.errs.mpr ⟨rfl, hconditions⟩) hnode hmatch hmiddle
  have hlabelsEq : middle.labels = node.labels := by
    rcases lookup_of_swept hfirst hnode with h | h
    · rw [← Option.some.inj (h.symm.trans hmiddle)]
      rfl
    · rw [← Option.some.inj (h.symm.trans hmiddle)]
  refine ⟨?_, ?_⟩
  · rcases lookup_of_swept hsecond hmiddle with h | h
    · rw [← Option.some.inj (h.symm.trans hnode')]
      exact hcondition
    · rw [← Option.some.inj (h.symm.trans hnode')]
      exact hcondition
  · rw [← hlabelsEq] at hmatch
    exact not_needs_of_swept not_carriesDriverMajor_deleteDriverMajor hsecond
      (hsecond.errs.mpr ⟨rfl, hlabels⟩) hmiddle hmatch hnode'

theorem listsSucceed_of_none (h : ∀ call, env.fails call = none) (listCall : ℕ → ApiCall)
    (page : ℕ) (pages : List (List (String × Node))) : ListsSucceed env listCall page pages := by
  induction pages generalizing page with
  | nil => trivial
  | cons nodes rest ih => exact ⟨h _, ih (page + 1)⟩

theorem sweepSucceeds_of_none (h : ∀ call, env.fails call = none) (listCall : ℕ → ApiCall)
    (patchCall : String → ApiCall) (needs : Node → Prop) (pages : List (List (String × Node))) :
    SweepSucceeds env listCall patchCall needs pages :=
  ⟨listsSucceed_of_none h listCall 0 pages, fun _ _ _ => h _⟩

theorem conditionless_afterLabels {nodeName : String} {node : Node}
    (hnode : (afterConditions env c config).nodes.lookup nodeName = some node)
    (hcondition : ¬ carriesCondition node) :
    ∃ node', (afterLabels env c config).nodes.lookup nodeName = some node' ∧
      ¬ carriesCondition node' := by
  rcases lookup_of_swept (swept_afterLabels env c config) hnode with h | h
  · exact ⟨_, h, hcondition⟩
  · exact ⟨_, h, hcondition⟩

theorem conditionless_afterConditions {entry : String × Node}
    (hlisted : Listed env .listNodesWithCondition entry 0
      (nodesToSweep env c config.spec.nodeSelector))
    (hneeds : carriesCondition entry.2) (hcall : env.fails (.removeCondition entry.1) = none) :
    ∃ node', (afterConditions env c config).nodes.lookup entry.1 = some node' ∧
      ¬ carriesCondition node' := by
  obtain ⟨hnode, -⟩ := (mem_nodesToSweep env c _).mp hlisted.mem
  refine ⟨entry.2.deleteCondition, ?_, not_carriesCondition_deleteCondition entry.2⟩
  have hpatched := (swept_afterConditions env c config).patched entry.1
    ⟨entry, hlisted, rfl, hneeds, hcall⟩
  rw [hnode] at hpatched
  exact hpatched

theorem driverless_afterLabels {entry : String × Node}
    (hlisted : Listed env .listNodesWithLabel entry 0
      (nodesToSweep env (afterConditions env c config) config.spec.nodeSelector))
    (hneeds : carriesDriverMajor entry.2) (hcall : env.fails (.removeLabel entry.1) = none) :
    ∃ node', (afterLabels env c config).nodes.lookup entry.1 = some node' ∧
      ¬ carriesDriverMajor node' := by
  obtain ⟨hnode, -⟩ := (mem_nodesToSweep env _ _).mp hlisted.mem
  refine ⟨entry.2.deleteDriverMajor, ?_, not_carriesDriverMajor_deleteDriverMajor entry.2⟩
  have hpatched := (swept_afterLabels env c config).patched entry.1
    ⟨entry, hlisted, rfl, hneeds, hcall⟩
  rw [hnode] at hpatched
  exact hpatched

theorem nodesKept_both : NodesKept config.spec.nodeSelector c (afterLabels env c config) :=
  (nodesKept_afterConditions env c config).trans (nodesKept_afterLabels env c config)

/-- An outcome that leaves the custom resource alone is safe if it reports an error and the
nodes are those after one of the sweeps. -/
theorem DeletionSafe.of_error {c' : Cluster} {err : String}
    (hconfig : c.config = some config)
    (hfinalizer : nodeConditionCleanupFinalizer ∈ config.finalizers)
    (hframe : c' = { c with nodes := c'.nodes })
    (hnodes : NodesKept config.spec.nodeSelector c c')
    (hconditions : ∀ entry, Listed env .listNodesWithCondition entry 0
        (nodesToSweep env c config.spec.nodeSelector) →
      carriesCondition entry.2 → env.fails (.removeCondition entry.1) = none →
      ∃ node', c'.nodes.lookup entry.1 = some node' ∧ ¬ carriesCondition node')
    (hmajors : ConditionSweepSucceeds env c config.spec.nodeSelector →
      ∀ entry, Listed env .listNodesWithLabel entry 0
        (nodesToSweep env (afterConditions env c config) config.spec.nodeSelector) →
      carriesDriverMajor entry.2 → env.fails (.removeLabel entry.1) = none →
      ∃ node', c'.nodes.lookup entry.1 = some node' ∧ ¬ carriesDriverMajor node')
    (hfailed : ∃ call, env.fails call ≠ none) :
    DeletionSafe env c config (c', .error err) := by
  have hstays : c'.config = some config := by
    rw [hframe]
    exact hconfig
  refine ⟨?_, ?_, hconditions, hmajors, hnodes, ?_, ?_⟩
  · intro hgone
    exact absurd ⟨config, hstays, hfinalizer⟩ hgone
  · intro _
    exact ⟨⟨err, rfl⟩, hstays⟩
  · rw [hframe]
  · intro hnone
    obtain ⟨call, hcall⟩ := hfailed
    exact absurd (hnone call) hcall

theorem exists_failing (h : ¬ ∀ call, env.fails call = none) : ∃ call, env.fails call ≠ none := by
  simpa using h

theorem deletionSafe_of_outcome {done : Cluster × Except String Result}
    (hconfig : c.config = some config)
    (hfinalizer : nodeConditionCleanupFinalizer ∈ config.finalizers)
    (h : DeleteOutcome env c config done) : DeletionSafe env c config done := by
  have hboth : ∀ entry, Listed env .listNodesWithCondition entry 0
      (nodesToSweep env c config.spec.nodeSelector) →
      carriesCondition entry.2 → env.fails (.removeCondition entry.1) = none →
      ∃ node', (afterLabels env c config).nodes.lookup entry.1 = some node' ∧
        ¬ carriesCondition node' := by
    intro entry hlisted hneeds hcall
    obtain ⟨node, hnode, hcondition⟩ := conditionless_afterConditions hlisted hneeds hcall
    exact conditionless_afterLabels hnode hcondition
  cases h with
  | conditionsFailed hconditions err =>
    refine .of_error hconfig hfinalizer (afterConditions_frame env c config)
      (nodesKept_afterConditions env c config)
      (fun entry hlisted hneeds hcall => conditionless_afterConditions hlisted hneeds hcall)
      (fun hsucceeds => absurd hsucceeds hconditions) (exists_failing fun hnone => ?_)
    exact hconditions (sweepSucceeds_of_none hnone _ _ _ _)
  | labelsFailed _ hlabels err =>
    refine .of_error hconfig hfinalizer (afterLabels_frame env c config) nodesKept_both hboth
      (fun _ entry hlisted hneeds hcall => driverless_afterLabels hlisted hneeds hcall)
      (exists_failing fun hnone => ?_)
    exact hlabels (sweepSucceeds_of_none hnone _ _ _ _)
  | updateFailed _ _ hcall err =>
    exact .of_error hconfig hfinalizer (afterLabels_frame env c config) nodesKept_both hboth
      (fun _ entry hlisted hneeds hcall => driverless_afterLabels hlisted hneeds hcall)
      ⟨_, hcall⟩
  | released hconditions hlabels hcall =>
    have hkept : NodesKept config.spec.nodeSelector c (afterLabels env c config) := nodesKept_both
    refine ⟨?_, ?_, hboth, ?_, ⟨hkept.present, hkept.absent⟩, ?_, ?_⟩
    · intro _ nodeName node node' hnode hnode' hmatch
      refine clean_afterLabels hconditions hlabels hnode hnode' ?_
      by_contra hother
      obtain ⟨node'', hnode'', -, hsame⟩ := hkept.present nodeName node hnode
      have hunchanged := hsame (Bool.eq_false_iff.mpr hother)
      rw [Option.some.inj (hnode'.symm.trans hnode''), hunchanged, or_self] at hmatch
      exact hother hmatch
    · rintro (hfailed | hfailed)
      · exact absurd hconditions hfailed
      · exact absurd hlabels hfailed
    · intro _ entry hlisted hneeds hcall
      exact driverless_afterLabels hlisted hneeds hcall
    · dsimp only
      rw [afterLabels_frame]
    · rintro - ⟨config', hconfig', hmem⟩
      exact (notMem_releaseFinalizer hconfig').1 hmem

end Deletion

section Attempts

variable (r : Reconciler)

/-- The cluster after a sequence of reconciles. -/
def attempts (envs : List Env) (c : Cluster) : Cluster :=
  envs.foldl (fun c env => (r.reconcile env c).1) c

/-- The custom resource is being deleted, or gone. -/
def Cluster.Deleting (c : Cluster) : Prop :=
  ∀ config, c.config = some config → config.deleting = true

variable {r}

theorem reconcile_of_deleting {env : Env} {c : Cluster} {config : GpuFractioningConfig}
    (hget : env.fails .getConfig = none) (hconfig : c.config = some config)
    (hdeleting : config.deleting = true) :
    r.reconcile env c = Reconciler.reconcileDelete env c config := by
  unfold Reconciler.reconcile
  simp only [hget, hconfig, hdeleting, if_true]

theorem config_reconcileDelete {env : Env} {c : Cluster} {config config' : GpuFractioningConfig}
    (hconfig : c.config = some config)
    (h : (Reconciler.reconcileDelete env c config).1.config = some config') :
    config'.deleting = config.deleting := by
  by_cases hfinalizer : nodeConditionCleanupFinalizer ∈ config.finalizers
  · have hkept : ∀ c' : Cluster, c' = { c with nodes := c'.nodes } → c'.config = some config' →
        config'.deleting = config.deleting := by
      intro c' hframe hconfig'
      rw [hframe, hconfig] at hconfig'
      rw [Option.some.inj hconfig']
    have houtcome := deleteOutcome env c hfinalizer
    generalize Reconciler.reconcileDelete env c config = done at houtcome h
    cases houtcome with
    | conditionsFailed _ err => exact hkept _ (afterConditions_frame env c config) h
    | labelsFailed _ _ err => exact hkept _ (afterLabels_frame env c config) h
    | updateFailed _ _ _ err => exact hkept _ (afterLabels_frame env c config) h
    | released _ _ _ => exact (notMem_releaseFinalizer h).2
  · rw [Reconciler.reconcileDelete, if_pos hfinalizer, hconfig] at h
    rw [Option.some.inj h]

theorem Cluster.Deleting.reconcile {c : Cluster} (h : c.Deleting) (env : Env) :
    (r.reconcile env c).1.Deleting := by
  intro config' hconfig'
  cases hget : env.fails .getConfig with
  | some message =>
    simp only [Reconciler.reconcile, hget] at hconfig'
    exact h config' hconfig'
  | none =>
    cases hconfig : c.config with
    | none =>
      simp only [Reconciler.reconcile, hget, hconfig] at hconfig'
      exact absurd hconfig' (by simp)
    | some config =>
      rw [reconcile_of_deleting hget hconfig (h config hconfig)] at hconfig'
      rw [config_reconcileDelete hconfig hconfig', h config hconfig]

theorem Cluster.Deleting.attempts {c : Cluster} (h : c.Deleting) (envs : List Env) :
    (attempts r envs c).Deleting := by
  induction envs generalizing c with
  | nil => exact h
  | cons env envs ih => exact ih (h.reconcile env)

theorem released_of_no_failure {env : Env} {c : Cluster} (h : c.Deleting)
    (hnone : ∀ call, env.fails call = none) : ¬ (r.reconcile env c).1.HoldsFinalizer := by
  cases hconfig : c.config with
  | none =>
    rintro ⟨config', hconfig', -⟩
    simp only [Reconciler.reconcile, hnone, hconfig] at hconfig'
    exact absurd hconfig' (by simp)
  | some config =>
    rw [reconcile_of_deleting (hnone _) hconfig (h config hconfig)]
    by_cases hfinalizer : nodeConditionCleanupFinalizer ∈ config.finalizers
    · exact (deletionSafe_of_outcome hconfig hfinalizer
        (deleteOutcome env c hfinalizer)).released hnone
    · rw [Reconciler.reconcileDelete, if_pos hfinalizer]
      rintro ⟨config', hconfig', hmem⟩
      rw [hconfig] at hconfig'
      rw [← Option.some.inj hconfig'] at hmem
      exact hfinalizer hmem

/-- The finalizer goes only after the nodes are clean, failures keep it and are confined
to their own node, nothing else is touched, and an attempt without a failure releases it
whatever came before. -/
theorem finalizer_outlives_cleanup (env : Env) (c : Cluster) (config : GpuFractioningConfig)
    (hconfig : c.config = some config) :
    (nodeConditionCleanupFinalizer ∈ config.finalizers →
      DeletionSafe env c config (Reconciler.reconcileDelete env c config)) ∧
    (nodeConditionCleanupFinalizer ∉ config.finalizers →
      Reconciler.reconcileDelete env c config = (c, .ok .done)) ∧
    (config.deleting = true → ∀ (r : Reconciler) (envs : List Env) (env' : Env),
      (∀ call, env'.fails call = none) →
      ¬ (r.reconcile env' (attempts r envs c)).1.HoldsFinalizer) := by
  refine ⟨?_, ?_, ?_⟩
  · intro hfinalizer
    exact deletionSafe_of_outcome hconfig hfinalizer (deleteOutcome env c hfinalizer)
  · intro hfinalizer
    rw [Reconciler.reconcileDelete, if_pos hfinalizer]
  · intro hdeleting r envs env' hnone
    have hstart : c.Deleting := by
      intro config' hconfig'
      rw [hconfig] at hconfig'
      rw [← Option.some.inj hconfig']
      exact hdeleting
    exact released_of_no_failure (hstart.attempts envs) hnone

/-- A resource that is being deleted. -/
def deletedConfig : GpuFractioningConfig :=
  { sampleConfig with deleting := true, finalizers := [nodeConditionCleanupFinalizer] }

/-- Two nodes that carry what the cleanup removes. -/
def labelledCluster : Cluster :=
  let node : Node :=
    ⟨(∅ : LabelMap).insert nvidiaDriverMajorLabel "570",
      [⟨nodeConditionType, .conditionTrue, reasonAllDaemonsReady, messageAllDaemonsReady, 0, 0⟩]⟩
  { freshCluster (.object []) with
    config := some deletedConfig
    nodes := ((∅ : FiniteMap String Node).insert "n1" node).insert "n2" node }

/-- The patch of the first node fails. -/
def Env.failingFirstNode : Env :=
  { Env.undisturbed with
    fails := fun call => if call = .removeCondition "n1" then some "timeout" else none }

/-- The first attempt fails on one node and cleans the other; the second succeeds. -/
theorem finalizer_outlives_cleanup_retry :
    (Reconciler.reconcileDelete .failingFirstNode labelledCluster deletedConfig).1.config =
        some deletedConfig ∧
      (∃ node', (Reconciler.reconcileDelete .failingFirstNode labelledCluster
        deletedConfig).1.nodes.lookup "n2" = some node' ∧ ¬ carriesCondition node') ∧
      ¬ (sampleReconciler.reconcile .undisturbed
        (attempts sampleReconciler [.failingFirstNode] labelledCluster)).1.HoldsFinalizer := by
  have hsafety := finalizer_outlives_cleanup .failingFirstNode labelledCluster deletedConfig rfl
  have hdeletion := hsafety.1 List.mem_cons_self
  refine ⟨(hdeletion.failure (.inl ?_)).2, ?_, ?_⟩
  · rintro ⟨-, hpatches⟩
    have hfailed := hpatches ("n1", _) (List.mem_cons_of_mem _ List.mem_cons_self) rfl
    exact absurd hfailed (by decide)
  · exact hdeletion.conditions ("n2", _) ⟨rfl, .inl List.mem_cons_self⟩ rfl rfl
  · exact hsafety.2.2 rfl sampleReconciler [.failingFirstNode] .undisturbed fun _ => rfl

end Attempts

end GpuFractioning.Operator
