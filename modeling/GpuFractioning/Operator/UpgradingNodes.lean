import GpuFractioning.Operator.NodeSweeps
import GpuFractioning.Operator.Settling

/-!
# Nodes under a driver upgrade

A reconcile first takes the Ready condition from the nodes whose driver is being
upgraded, and then may walk over the managed pods and set the condition of every
node that hosts one, upgraded or not.
-/

namespace GpuFractioning.Operator

section Coverage

variable (env : Env)

/-- The nodes a pass counts as unhealthy carry the condition. -/
def NodePass.Marked (pass : NodePass) : Prop :=
  ∀ nodeName ∈ pass.unhealthyNodes, (pass.cluster.labelsOf nodeName).isSome →
    (pass.cluster.readyStatus nodeName).isSome

/-- What a pass in which no call fails does to the conditions of the nodes. -/
structure CoversPods (pods : List Pod) (pass pass' : NodePass) : Prop where
  only : pass.cluster.OnlyConditions pass'.cluster
  kept : ∀ nodeName, (pass.cluster.readyStatus nodeName).isSome →
    (pass'.cluster.readyStatus nodeName).isSome
  untouched : ∀ nodeName, (∀ pod ∈ pods, pod.nodeName ≠ "" → pod.nodeName ≠ nodeName) →
    pass'.cluster.readyStatus nodeName = pass.cluster.readyStatus nodeName
  marked : pass.Marked → pass'.Marked
  covered : pass.Marked → ∀ pod ∈ pods, pod.nodeName ≠ "" →
    (pass.cluster.labelsOf pod.nodeName).isSome →
    (pass'.cluster.readyStatus pod.nodeName).isSome

theorem coversPods_unchanged {pods : List Pod} {pass : NodePass}
    (hcovered : pass.Marked → ∀ pod ∈ pods, pod.nodeName ≠ "" →
      (pass.cluster.labelsOf pod.nodeName).isSome →
      (pass.cluster.readyStatus pod.nodeName).isSome) : CoversPods pods pass pass where
  only := .refl _
  kept _ h := h
  untouched _ _ := rfl
  marked h := h
  covered := hcovered

theorem coversPods_nil (pass : NodePass) : CoversPods [] pass pass :=
  coversPods_unchanged fun _ _ hpod => absurd hpod List.not_mem_nil

theorem CoversPods.trans {pods pods' : List Pod} {pass pass' pass'' : NodePass}
    (h : CoversPods pods pass pass') (h' : CoversPods pods' pass' pass'') :
    CoversPods (pods ++ pods') pass pass'' where
  only := h.only.trans h'.only
  kept nodeName hstatus := h'.kept nodeName (h.kept nodeName hstatus)
  untouched nodeName hpods := by
    rw [List.forall_mem_append] at hpods
    rw [h'.untouched nodeName hpods.2, h.untouched nodeName hpods.1]
  marked hmarked := h'.marked (h.marked hmarked)
  covered hmarked pod hpod hnode hexists := by
    rcases List.mem_append.mp hpod with hpod | hpod
    · exact h'.kept _ (h.covered hmarked pod hpod hnode hexists)
    · rw [← h.only.labels] at hexists
      exact h'.covered (h.marked hmarked) pod hpod hnode hexists

theorem visit_patches (page : ℕ) {pass : NodePass} {entry : Pod × ℕ}
    (hnode : entry.1.nodeName ≠ "")
    (hpoisoned : ¬ (isPodReady entry.1 = true ∧ entry.1.nodeName ∈ pass.unhealthyNodes)) :
    ∃ condition : NodeCondition, condition.type = nodeConditionType ∧
      (pass.visit env page entry).cluster =
        (patchNodeCondition env page entry.2 pass.cluster entry.1.nodeName condition).1 ∧
      ∀ nodeName ∈ (pass.visit env page entry).unhealthyNodes,
        nodeName ∈ pass.unhealthyNodes ∨ nodeName = entry.1.nodeName := by
  refine ⟨(checkGpuDriver env page entry.2 pass.cluster entry.1.nodeName
    (nodeConditionForPod (isPodReady entry.1) entry.1)).1, ?_, ?_, ?_⟩
  · rw [type_checkGpuDriver, type_nodeConditionForPod]
  · simp only [NodePass.visit, hnode, hpoisoned, if_false]
  · simp only [NodePass.visit, hnode, hpoisoned, if_false]
    intro nodeName hmem
    split_ifs at hmem
    · exact .inl hmem
    · exact (Finset.mem_insert.mp hmem).symm

variable {env} (hnone : ∀ call, env.fails call = none)

include hnone

theorem coversPods_visit (page : ℕ) (pass : NodePass) (entry : Pod × ℕ) :
    CoversPods [entry.1] pass (pass.visit env page entry) := by
  by_cases hnode : entry.1.nodeName = ""
  · have hskip : pass.visit env page entry = pass := by simp [NodePass.visit, hnode]
    rw [hskip]
    refine coversPods_unchanged ?_
    intro _ pod hpod hne
    rw [List.mem_singleton.mp hpod] at hne
    exact absurd hnode hne
  · by_cases hpoisoned : isPodReady entry.1 = true ∧ entry.1.nodeName ∈ pass.unhealthyNodes
    · have hskip : pass.visit env page entry = pass := by
        simp [NodePass.visit, hnode, hpoisoned]
      rw [hskip]
      refine coversPods_unchanged ?_
      intro hmarked pod hpod _ hexists
      rw [List.mem_singleton.mp hpod] at hexists ⊢
      exact hmarked _ hpoisoned.2 hexists
    · obtain ⟨condition, htype, hcluster, hunhealthy⟩ := visit_patches env page hnode hpoisoned
      have hstatus := readyStatus_patchNodeCondition env page entry.2 pass.cluster
        entry.1.nodeName condition htype
      have honly := onlyConditions_visit env page pass entry
      have hcovered : (pass.cluster.labelsOf entry.1.nodeName).isSome →
          ((pass.visit env page entry).cluster.readyStatus entry.1.nodeName).isSome := by
        intro hexists
        have hpatched := patchNodeCondition_succeeds env page entry.2 pass.cluster
          entry.1.nodeName condition htype (hnone _) hexists
        rw [hcluster, hstatus, if_pos ⟨rfl, hpatched⟩]
        rfl
      have hkept : ∀ nodeName, (pass.cluster.readyStatus nodeName).isSome →
          ((pass.visit env page entry).cluster.readyStatus nodeName).isSome := by
        intro nodeName hsome
        rw [hcluster, hstatus]
        split_ifs
        · rfl
        · exact hsome
      refine ⟨honly, hkept, ?_, ?_, ?_⟩
      · intro nodeName hother
        have hne := hother entry.1 List.mem_cons_self hnode
        rw [hcluster, hstatus, if_neg fun h => hne h.1.symm]
      · intro hmarked nodeName hmem hexists
        rw [honly.labels] at hexists
        rcases hunhealthy nodeName hmem with hbefore | rfl
        · exact hkept nodeName (hmarked nodeName hbefore hexists)
        · exact hcovered hexists
      · intro _ pod hpod _ hexists
        rw [List.mem_singleton.mp hpod] at hexists ⊢
        exact hcovered hexists

theorem coversPods_foldl (page : ℕ) (entries : List (Pod × ℕ)) (pass : NodePass) :
    CoversPods (entries.map Prod.fst) pass (entries.foldl (NodePass.visit env page) pass) := by
  induction entries generalizing pass with
  | nil => exact coversPods_nil pass
  | cons entry entries ih => exact (coversPods_visit hnone page pass entry).trans (ih _)

theorem coversPods_visitPages (page : ℕ) (pages : List (List Pod)) (pass : NodePass) :
    CoversPods pages.flatten pass (NodePass.visitPages env page pages pass) := by
  induction pages generalizing page pass with
  | nil => exact coversPods_nil pass
  | cons pods rest ih =>
    simp only [NodePass.visitPages, hnone]
    have hpage := coversPods_foldl hnone page pods.zipIdx pass
    rw [List.zipIdx_map_fst] at hpage
    exact hpage.trans (ih (page + 1) _)

/-- A pass in which no call fails gives the condition to every node that hosts a managed
pod, and to no other. -/
theorem readyStatus_patchNodeConditions (c : Cluster) (namespace_ : String) :
    (∀ pod ∈ c.managedPods namespace_, pod.nodeName ≠ "" → (c.labelsOf pod.nodeName).isSome →
      ((patchNodeConditions env c namespace_).cluster.readyStatus pod.nodeName).isSome) ∧
    ∀ nodeName, (∀ pod ∈ c.managedPods namespace_, pod.nodeName ≠ "" → pod.nodeName ≠ nodeName) →
      (patchNodeConditions env c namespace_).cluster.readyStatus nodeName =
        c.readyStatus nodeName := by
  have hmem (pod : Pod) :
      pod ∈ (podPagesOf env c namespace_).flatten ↔ pod ∈ c.managedPods namespace_ := by
    rw [podPagesOf, flatten_atLeastOnePage, (env.podPages_perm (c.managedPods namespace_)).mem_iff]
  have hpass := coversPods_visitPages hnone 0 (podPagesOf env c namespace_) ⟨c, ∅, []⟩
  refine ⟨?_, ?_⟩
  · intro pod hpod hnode hexists
    have hmarked : NodePass.Marked ⟨c, ∅, []⟩ := by
      intro nodeName hempty
      simp at hempty
    exact hpass.covered hmarked pod ((hmem pod).mpr hpod) hnode hexists
  · intro nodeName hother
    exact hpass.untouched nodeName fun pod hpod => hother pod ((hmem pod).mp hpod)

end Coverage

section Clearing

/-- The node is there, is targeted, and its driver is being upgraded. -/
def Cluster.Upgrading (c : Cluster) (selector : LabelMap) (nodeName : String) : Prop :=
  ∃ labels, c.labelsOf nodeName = some labels ∧ matchesSelector selector labels = true ∧
    driverUpgrading labels = true

variable {env : Env} (hnone : ∀ call, env.fails call = none)

include hnone

theorem evaluateDriverUpgrade_clears (c : Cluster) (selector : LabelMap) :
    (∃ upgrading, (evaluateDriverUpgrade env c selector).2 = .ok upgrading) ∧
      ∀ nodeName, c.Upgrading selector nodeName →
        (evaluateDriverUpgrade env c selector).1.readyStatus nodeName = none := by
  set nodes := (c.nodesMatching selector).filter fun entry => driverUpgrading entry.2.labels
    with hnodes
  have hmem (nodeName : String) (node : Node) : (nodeName, node) ∈ nodes ↔
      c.nodes.lookup nodeName = some node ∧ matchesSelector selector node.labels = true ∧
        driverUpgrading node.labels = true := by
    rw [hnodes, List.mem_filter, Cluster.nodesMatching, List.mem_filter, FiniteMap.mem_pairs,
      and_assoc]
  have hexists : ∀ entry ∈ nodes, (((c, []) : Walk).1.nodes.lookup entry.1).isSome := by
    intro entry hentry
    rw [((hmem entry.1 entry.2).mp hentry).1]
    rfl
  have hswept := swept_foldl (patches_clearUpgradingNode env) hexists
  have herrs : (nodes.foldl (clearUpgradingNode env) (c, [])).2 = [] :=
    hswept.errs.mpr ⟨rfl, fun entry _ _ => hnone _⟩
  simp only [evaluateDriverUpgrade, hnone, ← hnodes, herrs, if_true]
  refine ⟨⟨_, rfl⟩, ?_⟩
  rintro nodeName ⟨labels, hlabels, hmatch, hupgrading⟩
  obtain ⟨node, hnode, rfl⟩ := Option.map_eq_some_iff.mp hlabels
  have hentry := (hmem nodeName node).mpr ⟨hnode, hmatch, hupgrading⟩
  rw [Cluster.readyStatus]
  by_cases hcarries : carriesCondition node
  · rw [hswept.patched nodeName ⟨_, hentry, rfl, hcarries, hnone _⟩, hnode]
    simp [findNodeCondition_deleteCondition]
  · have hkept := hswept.kept nodeName (by
      rintro ⟨⟨nodeName', node'⟩, hentry', rfl, hneeds, -⟩
      have hsame := ((hmem nodeName' node').mp hentry').1
      rw [hnode, Option.some.injEq] at hsame
      rw [← hsame] at hneeds
      exact hcarries hneeds)
    rw [hkept, hnode]
    have hmissing : findNodeCondition node = none := by
      simpa [carriesCondition] using hcarries
    simp [hmissing]

end Clearing

section Requeue

variable {env : Env} (hnone : ∀ call, env.fails call = none)

include hnone

theorem reconcileDaemon_of_no_failure (config : GpuFractioningConfig) (daemon : ManagedDaemon)
    (opts : BuildOptions) (stored : Option DaemonSet) :
    (∃ health, (reconcileDaemon env config daemon opts stored).2 = .ok health ∧
        health.desiredNodes ≤ health.readyNodes) ↔
      stored.any (ownedByOther config) = false ∧
        (daemonSetStatus stored).desiredNumberScheduled ≤ (daemonSetStatus stored).numberReady := by
  constructor
  · rintro ⟨health, hok, hready⟩
    obtain ⟨rfl, hcreate, -⟩ := reconcileDaemon_ok env config daemon opts stored hok
    exact ⟨(createOrUpdate_succeeds _ _ _ _ _ hcreate).2.1, hready⟩
  · rintro ⟨howner, hready⟩
    have hcreate : (createOrUpdate env config daemon.name (daemon.buildDaemonSet opts) stored).2 =
        none := by
      unfold createOrUpdate
      simp only [hnone]
      cases stored with
      | none => rfl
      | some existing =>
        rw [Option.any_some] at howner
        simp only [mutate, howner, Bool.false_eq_true, if_false]
        split_ifs <;> rfl
    cases houtcome : (reconcileDaemon env config daemon opts stored).2 with
    | ok health =>
      obtain ⟨rfl, -, -⟩ := reconcileDaemon_ok env config daemon opts stored houtcome
      exact ⟨_, rfl, hready⟩
    | error err =>
      unfold reconcileDaemon at houtcome
      dsimp only at houtcome
      obtain ⟨err', herr'⟩ | ⟨ds, hds, -⟩ :=
        createOrUpdate_cases env config daemon.name (daemon.buildDaemonSet opts) stored
      · rw [herr'] at hcreate
        exact absurd hcreate (by simp)
      · rw [hds] at houtcome
        simp [hnone] at houtcome

omit hnone in
theorem needsRequeue_foldl {config : GpuFractioningConfig} {opts : BuildOptions}
    {daemons : List ManagedDaemon} (hapart : daemons.Pairwise (Apart opts)) {p : Progress}
    (hbefore : p.needsRequeue = false)
    (hhealthy : ∀ daemon ∈ daemons, ∃ health,
      (p.cluster.outcome env config opts daemon).2 = .ok health ∧
        health.desiredNodes ≤ health.readyNodes) :
    (daemons.foldl (Progress.reconcileDaemon env config opts) p).needsRequeue = false := by
  induction daemons generalizing p with
  | nil => exact hbefore
  | cons daemon daemons ih =>
    rw [List.pairwise_cons] at hapart
    obtain ⟨⟨health, hok, hready⟩, hrest⟩ := List.forall_mem_cons.mp hhealthy
    refine ih hapart.2 ?_ ?_
    · have hreported : reported (p.cluster.outcome env config opts daemon).2 = (health, none) := by
        rw [hok]
        rfl
      change (p.needsRequeue || (reported (p.cluster.outcome env config opts daemon).2).2.isSome ||
        decide ((reported (p.cluster.outcome env config opts daemon).2).1.readyNodes <
          (reported (p.cluster.outcome env config opts daemon).2).1.desiredNodes)) = false
      rw [hreported, hbefore]
      simpa using hready
    · intro daemon' hdaemon'
      obtain ⟨health', hok', hready'⟩ := hrest daemon' hdaemon'
      refine ⟨health', ?_, hready'⟩
      rw [← hok', outcome_reconcileDaemon p (hapart.1 daemon' hdaemon')]

end Requeue

section Reconcile

variable (r : Reconciler) (c : Cluster) (config : GpuFractioningConfig)

/-- No DaemonSet of the daemons belongs to another owner or waits for pods. -/
def Reconciler.DaemonsQuiet : Prop :=
  ∀ daemon ∈ r.daemons config.spec,
    (c.daemonSets.lookup (daemon.key r.namespace_)).any (ownedByOther config) = false ∧
      (daemonSetStatus (c.daemonSets.lookup (daemon.key r.namespace_))).desiredNumberScheduled ≤
        (daemonSetStatus (c.daemonSets.lookup (daemon.key r.namespace_))).numberReady

/-- The managed pods are not looked at: the daemons are quiet and Ready was last
published as true. -/
def Reconciler.PodsSkipped : Prop :=
  isConditionTrue config.status.conditions conditionReady = true ∧ r.DaemonsQuiet c config

variable {env : Env} (hnone : ∀ call, env.fails call = none)

include hnone

theorem list_not_failed (call : ApiCall) (objects : Option (List Json)) {err : ApiError}
    (h : env.list call objects = .error err) : err.isFailure = false := by
  unfold Env.list at h
  rw [hnone] at h
  cases objects with
  | none =>
    rw [← Except.error.inj h]
    rfl
  | some objects => exact absurd h (by simp)

theorem readClusterPolicy_not_failed : (readClusterPolicy env c).err = none := by
  unfold readClusterPolicy
  cases hlist : env.list .listClusterPolicies c.clusterPolicies with
  | ok policies => cases policies <;> rfl
  | error err => simp [ClusterPolicy.ofList, list_not_failed hnone _ _ hlist]

theorem needsRequeue_evaluate :
    (r.evaluate env c config).needsRequeue = false ↔ r.DaemonsQuiet c config := by
  have hkey := r.buildOptions_namespace config.spec (readClusterPolicy env c)
  constructor
  · intro hrequeue daemon hdaemon
    have houtcome := (evaluated_evaluate r env c config).requeue hrequeue daemon hdaemon
    rw [← hkey]
    exact (reconcileDaemon_of_no_failure hnone _ _ _ _).mp houtcome
  · intro hquiet
    have hloop : (r.afterDaemons env c config).needsRequeue = false := by
      refine needsRequeue_foldl (buildDaemons_apart _ _ _) rfl ?_
      intro daemon hdaemon
      refine (reconcileDaemon_of_no_failure hnone _ _ _ _).mpr ?_
      rw [hkey]
      exact hquiet daemon hdaemon
    have hcheck : (r.checkDependencies env config (readClusterPolicy env c)
        (r.afterDaemons env c config)).needsRequeue = false := by
      refine Bool.or_eq_false_iff.mpr ⟨hloop, ?_⟩
      rw [check_snd _ _ _ _ (readClusterPolicy_not_failed c hnone)
        fun err herr => list_not_failed hnone _ _ herr]
      rfl
    rw [evaluate_eq]
    obtain ⟨⟨upgrading, hok⟩, -⟩ := evaluateDriverUpgrade_clears hnone
      (r.checkDependencies env config (readClusterPolicy env c)
        (r.afterDaemons env c config)).cluster config.spec.nodeSelector
    unfold Reconciler.noteDriverUpgrade
    split
    · next hevaluate =>
      rw [hevaluate] at hok
      exact absurd hok (by simp)
    · exact hcheck

theorem readyStatus_evaluate_upgrading {nodeName : String}
    (hupgrading : c.Upgrading config.spec.nodeSelector nodeName) :
    (r.evaluate env c config).cluster.readyStatus nodeName = none := by
  have hnodes : (r.checkDependencies env config (readClusterPolicy env c)
      (r.afterDaemons env c config)).cluster.nodes = c.nodes := by
    rw [checkDependencies_cluster, (daemonsReconciled_afterDaemons r env c config).frame]
  rw [evaluate_eq, noteDriverUpgrade_cluster]
  refine (evaluateDriverUpgrade_clears hnone _ _).2 nodeName ?_
  unfold Cluster.Upgrading Cluster.labelsOf at hupgrading ⊢
  rw [hnodes]
  exact hupgrading

theorem reconcileLive_nodes :
    (r.reconcileLive env c config).1.nodes =
      (r.patchNodes env (!isConditionTrue config.status.conditions conditionReady)
        (r.evaluate env c config)).cluster.nodes := by
  unfold Reconciler.reconcileLive Reconciler.updateStatus
  rw [hnone]

theorem patchNodes_of_skipped (hskipped : r.PodsSkipped c config) :
    r.patchNodes env (!isConditionTrue config.status.conditions conditionReady)
      (r.evaluate env c config) = r.evaluate env c config := by
  have hrequeue := (needsRequeue_evaluate r c config hnone).mpr hskipped.2
  unfold Reconciler.patchNodes
  rw [hrequeue, hskipped.1]
  rfl

theorem patchNodes_of_not_skipped (hskipped : ¬ r.PodsSkipped c config) :
    (r.patchNodes env (!isConditionTrue config.status.conditions conditionReady)
      (r.evaluate env c config)).cluster =
        (patchNodeConditions env (r.evaluate env c config).cluster r.namespace_).cluster := by
  have hpass : ((r.evaluate env c config).needsRequeue ||
      !isConditionTrue config.status.conditions conditionReady) = true := by
    by_contra hquiet
    rw [Bool.not_eq_true, Bool.or_eq_false_iff, Bool.not_eq_false',
      needsRequeue_evaluate r c config hnone] at hquiet
    exact hskipped ⟨hquiet.2, hquiet.1⟩
  unfold Reconciler.patchNodes
  rw [if_pos hpass]

/-- The nodes under upgrade carry no condition after a reconcile exactly when the pods are
skipped or none of them is on such a node. -/
theorem readyStatus_reconcileLive_upgrading :
    (∀ nodeName, (r.reconcileLive env c config).1.Upgrading config.spec.nodeSelector nodeName →
        (r.reconcileLive env c config).1.readyStatus nodeName = none) ↔
      r.PodsSkipped c config ∨ ∀ pod ∈ c.managedPods r.namespace_, pod.nodeName ≠ "" →
        ¬ c.Upgrading config.spec.nodeSelector pod.nodeName := by
  have hevaluated := evaluated_evaluate r env c config
  have honly := onlyConditions_patchNodes r env
    (!isConditionTrue config.status.conditions conditionReady) (r.evaluate env c config)
  have hnodes := reconcileLive_nodes r c config hnone
  have hupgrading (nodeName : String) :
      (r.reconcileLive env c config).1.Upgrading config.spec.nodeSelector nodeName ↔
        c.Upgrading config.spec.nodeSelector nodeName := by
    unfold Cluster.Upgrading
    rw [← hevaluated.labels, ← honly.labels, Cluster.labelsOf, Cluster.labelsOf, hnodes]
  have hstatus (nodeName : String) : (r.reconcileLive env c config).1.readyStatus nodeName =
      (r.patchNodes env (!isConditionTrue config.status.conditions conditionReady)
        (r.evaluate env c config)).cluster.readyStatus nodeName := by
    rw [Cluster.readyStatus, Cluster.readyStatus, hnodes]
  have hpods : (r.evaluate env c config).cluster.managedPods r.namespace_ =
      c.managedPods r.namespace_ := by
    rw [Cluster.managedPods, Cluster.managedPods, hevaluated.frame]
  simp only [hupgrading, hstatus]
  by_cases hskipped : r.PodsSkipped c config
  · refine iff_of_true ?_ (.inl hskipped)
    intro nodeName hnode
    rw [patchNodes_of_skipped r c config hnone hskipped]
    exact readyStatus_evaluate_upgrading r c config hnone hnode
  · obtain ⟨hcovered, huntouched⟩ := readyStatus_patchNodeConditions hnone
      (r.evaluate env c config).cluster r.namespace_
    rw [hpods] at hcovered huntouched
    rw [patchNodes_of_not_skipped r c config hnone hskipped]
    constructor
    · intro hclear
      refine .inr fun pod hpod hname hnode => ?_
      have hexists : ((r.evaluate env c config).cluster.labelsOf pod.nodeName).isSome := by
        obtain ⟨labels, hlabels, -⟩ := hnode
        rw [hevaluated.labels, hlabels]
        rfl
      have hcarried := hcovered pod hpod hname hexists
      rw [hclear pod.nodeName hnode] at hcarried
      exact absurd hcarried (by simp)
    · rintro (hskip | hfree) nodeName hnode
      · exact absurd hskip hskipped
      · rw [huntouched nodeName]
        · exact readyStatus_evaluate_upgrading r c config hnone hnode
        · rintro pod hpod hname rfl
          exact hfree pod hpod hname hnode

/-- When no call of a reconcile fails, the nodes under a driver upgrade end up without the
Ready condition exactly when the managed pods are skipped or none is on such a node. -/
theorem upgrading_nodes_unready_iff (hconfig : c.config = some config)
    (hlive : config.deleting = false) :
    (∀ nodeName, (r.reconcile env c).1.Upgrading config.spec.nodeSelector nodeName →
        (r.reconcile env c).1.readyStatus nodeName = none) ↔
      r.PodsSkipped c config ∨ ∀ pod ∈ c.managedPods r.namespace_, pod.nodeName ≠ "" →
        ¬ c.Upgrading config.spec.nodeSelector pod.nodeName := by
  obtain ⟨config', hsame, hreconcile⟩ :=
    reconcile_through r env hconfig hlive (hnone _) (hnone _)
  rw [hreconcile, hsame]
  exact readyStatus_reconcileLive_upgrading r
    { c with config := some { config with finalizers := config'.finalizers } }
    { config with finalizers := config'.finalizers } hnone

end Reconcile

section Undrained

def cordonLabels : LabelMap := (∅ : LabelMap).insert driverUpgradeStateLabel "cordon-required"

/-- The node of the ready pods has entered a driver upgrade. -/
def undrainedCluster : Cluster :=
  { readyCluster with
    nodes := (∅ : FiniteMap String Node).insert "n1" ⟨cordonLabels, []⟩ }

/-- A node under upgrade whose pods have not been drained is published as ready. -/
theorem undrained_node_advertises_ready :
    undrainedCluster.config = some sampleConfig ∧ sampleConfig.deleting = false ∧
      (∀ call, Env.undisturbed.fails call = none) ∧
      (sampleReconciler.reconcile .undisturbed undrainedCluster).1.Upgrading
        sampleConfig.spec.nodeSelector "n1" ∧
      (sampleReconciler.reconcile .undisturbed undrainedCluster).1.readyStatus "n1" =
        some .conditionTrue := by
  exact ⟨rfl, rfl, fun _ => rfl, ⟨_, (by decide +kernel : _ = some cordonLabels), rfl, rfl⟩,
    by decide +kernel⟩

/-- The same cluster once the pods are gone, with a stale condition on the node. -/
def drainedCluster : Cluster :=
  { undrainedCluster with
    pods := []
    nodes := (∅ : FiniteMap String Node).insert "n1"
      ⟨cordonLabels,
        [⟨nodeConditionType, .conditionTrue, reasonAllDaemonsReady, messageAllDaemonsReady,
          0, 0⟩]⟩ }

/-- After the drain the reconcile clears the node. -/
theorem upgrading_nodes_unready_drained :
    drainedCluster.readyStatus "n1" = some .conditionTrue ∧
      (sampleReconciler.reconcile .undisturbed drainedCluster).1.readyStatus "n1" = none := by
  refine ⟨rfl, ?_⟩
  refine (upgrading_nodes_unready_iff sampleReconciler drainedCluster sampleConfig
    (fun _ => rfl) rfl rfl).mpr (.inr ?_) "n1"
      ⟨_, (by decide +kernel : _ = some cordonLabels), rfl, rfl⟩
  intro pod hpod
  exact absurd hpod List.not_mem_nil

end Undrained

end GpuFractioning.Operator
