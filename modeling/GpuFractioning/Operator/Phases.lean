import GpuFractioning.Operator.Reconcile

/-!
# What the phases of a reconcile do

The loop over the daemons, the dependency check, the driver upgrade and the node
conditions, each with what it leaves alone, and the cases of a whole reconcile.
-/

namespace GpuFractioning.Operator

section Loop

variable (env : Env) (config : GpuFractioningConfig) (opts : BuildOptions)

/-- The reconcile of a daemon on what the cluster stores for it. -/
def Cluster.outcome (c : Cluster) (daemon : ManagedDaemon) :
    Option DaemonSet × Except String DaemonHealth :=
  reconcileDaemon env config daemon opts (c.daemonSets.lookup (daemon.key opts.namespace_))

/-- The condition set for a daemon. -/
def daemonCondition (daemon : ManagedDaemon) (outcome : Except String DaemonHealth) : Condition :=
  daemonHealthToCondition daemon.name (reported outcome).1 config.generation (reported outcome).2
    (env.now (.refetchDaemonSet daemon.name))

theorem type_daemonCondition (daemon : ManagedDaemon) (outcome : Except String DaemonHealth) :
    (daemonCondition env config daemon outcome).type = daemon.condType := by
  unfold daemonCondition daemonHealthToCondition
  dsimp only
  split
  · rfl
  · split_ifs <;> rfl

theorem ManagedDaemon.condType_isComponent (daemon : ManagedDaemon) :
    daemon.condType ≠ conditionReady ∧ daemon.condType ≠ conditionDriverUpgradeInProgress := by
  have hfractiond : capitalize FractiondDaemon.daemonName ++ "Ready" ≠ conditionReady ∧
      capitalize FractiondDaemon.daemonName ++ "Ready" ≠ conditionDriverUpgradeInProgress := by
    decide
  have hmpsd : capitalize MpsdDaemon.daemonName ++ "Ready" ≠ conditionReady ∧
      capitalize MpsdDaemon.daemonName ++ "Ready" ≠ conditionDriverUpgradeInProgress := by
    decide
  cases daemon with
  | fractiond _ => exact hfractiond
  | mpsd _ => exact hmpsd

/-- The daemons do not get in each other's way. -/
def Apart (daemon daemon' : ManagedDaemon) : Prop :=
  daemon.key opts.namespace_ ≠ daemon'.key opts.namespace_ ∧ daemon.condType ≠ daemon'.condType

/-- The loop treats every daemon as if it were the only one. -/
structure DaemonsReconciled (daemons : List ManagedDaemon) (p p' : Progress) : Prop where
  frame : p'.cluster = { p.cluster with daemonSets := p'.cluster.daemonSets }
  stored : ∀ daemon ∈ daemons, p'.cluster.daemonSets.lookup (daemon.key opts.namespace_) =
    (p.cluster.outcome env config opts daemon).1
  others : ∀ key, (∀ daemon ∈ daemons, daemon.key opts.namespace_ ≠ key) →
    p'.cluster.daemonSets.lookup key = p.cluster.daemonSets.lookup key
  conditions : ∀ daemon ∈ daemons, statusOf p'.conditions daemon.condType =
    some (daemonCondition env config daemon (p.cluster.outcome env config opts daemon).2).status
  otherConditions : ∀ condType, (∀ daemon ∈ daemons, daemon.condType ≠ condType) →
    statusOf p'.conditions condType = statusOf p.conditions condType
  requeue : p'.needsRequeue = false → p.needsRequeue = false ∧
    ∀ daemon ∈ daemons, ∃ health, (p.cluster.outcome env config opts daemon).2 = .ok health ∧
      health.desiredNodes ≤ health.readyNodes

variable {env config opts}

theorem DaemonsReconciled.outcome_eq {daemons : List ManagedDaemon} {p p' : Progress}
    (h : DaemonsReconciled env config opts daemons p p') {daemon' : ManagedDaemon}
    (hapart : ∀ daemon ∈ daemons, Apart opts daemon daemon') :
    p'.cluster.outcome env config opts daemon' = p.cluster.outcome env config opts daemon' := by
  unfold Cluster.outcome
  rw [h.others _ fun daemon hdaemon => (hapart daemon hdaemon).1]

theorem DaemonsReconciled.trans {daemons daemons' : List ManagedDaemon} {p p' p'' : Progress}
    (h : DaemonsReconciled env config opts daemons p p')
    (h' : DaemonsReconciled env config opts daemons' p' p'')
    (hapart : ∀ daemon ∈ daemons, ∀ daemon' ∈ daemons', Apart opts daemon daemon') :
    DaemonsReconciled env config opts (daemons ++ daemons') p p'' := by
  have houtcome (daemon' : ManagedDaemon) (hdaemon' : daemon' ∈ daemons') :
      p'.cluster.outcome env config opts daemon' = p.cluster.outcome env config opts daemon' :=
    h.outcome_eq fun daemon hdaemon => hapart daemon hdaemon daemon' hdaemon'
  refine ⟨?_, ?_, ?_, ?_, ?_, ?_⟩
  · rw [h'.frame, h.frame]
  · intro daemon hdaemon
    rcases List.mem_append.mp hdaemon with hdaemon | hdaemon
    · rw [h'.others _ fun daemon' hdaemon' => (hapart daemon hdaemon daemon' hdaemon').1.symm]
      exact h.stored daemon hdaemon
    · rw [h'.stored daemon hdaemon, houtcome daemon hdaemon]
  · intro key hkey
    rw [List.forall_mem_append] at hkey
    rw [h'.others key hkey.2, h.others key hkey.1]
  · intro daemon hdaemon
    rcases List.mem_append.mp hdaemon with hdaemon | hdaemon
    · rw [h'.otherConditions _ fun daemon' hdaemon' =>
        (hapart daemon hdaemon daemon' hdaemon').2.symm]
      exact h.conditions daemon hdaemon
    · rw [h'.conditions daemon hdaemon, houtcome daemon hdaemon]
  · intro condType hcond
    rw [List.forall_mem_append] at hcond
    rw [h'.otherConditions condType hcond.2, h.otherConditions condType hcond.1]
  · intro hrequeue
    obtain ⟨hmiddle, hsecond⟩ := h'.requeue hrequeue
    obtain ⟨hbefore, hfirst⟩ := h.requeue hmiddle
    refine ⟨hbefore, List.forall_mem_append.mpr ⟨hfirst, ?_⟩⟩
    intro daemon hdaemon
    rw [← houtcome daemon hdaemon]
    exact hsecond daemon hdaemon

theorem daemonsReconciled_turn (p : Progress) (daemon : ManagedDaemon) :
    DaemonsReconciled env config opts [daemon] p
      (p.reconcileDaemon env config opts daemon) := by
  have hlookup := lookup_putDaemonSet (p.cluster.outcome env config opts daemon).1 p.cluster
    (daemon.key opts.namespace_) (reconcileDaemon_eq_none env config daemon opts _)
  have hstatus := statusOf_setCondition
    (daemonCondition env config daemon (p.cluster.outcome env config opts daemon).2) p.conditions
  rw [type_daemonCondition] at hstatus
  refine ⟨putDaemonSet_frame _ _ _, ?_, ?_, ?_, ?_, ?_⟩
  · intro daemon' hdaemon'
    rw [List.mem_singleton.mp hdaemon']
    exact (hlookup _).trans (if_pos rfl)
  · intro key hkey
    exact (hlookup key).trans (if_neg (hkey daemon (List.mem_singleton_self daemon)).symm)
  · intro daemon' hdaemon'
    rw [List.mem_singleton.mp hdaemon']
    exact (hstatus _).trans (if_pos rfl)
  · intro condType hcond
    exact (hstatus condType).trans (if_neg (hcond daemon (List.mem_singleton_self daemon)))
  · intro hrequeue
    have hflags : (p.needsRequeue ||
        (reported (p.cluster.outcome env config opts daemon).2).2.isSome ||
        decide ((reported (p.cluster.outcome env config opts daemon).2).1.readyNodes <
          (reported (p.cluster.outcome env config opts daemon).2).1.desiredNodes)) = false :=
      hrequeue
    simp only [Bool.or_eq_false_iff, decide_eq_false_iff_not, not_lt] at hflags
    refine ⟨hflags.1.1, fun daemon' hdaemon' => ?_⟩
    rw [List.mem_singleton.mp hdaemon']
    cases houtcome : (p.cluster.outcome env config opts daemon).2 with
    | error err => simp [houtcome, reported] at hflags
    | ok health =>
      rw [houtcome] at hflags
      exact ⟨health, rfl, hflags.2⟩

theorem outcome_reconcileDaemon (p : Progress) {daemon daemon' : ManagedDaemon}
    (hapart : Apart opts daemon daemon') :
    (p.reconcileDaemon env config opts daemon).cluster.outcome env config opts daemon' =
      p.cluster.outcome env config opts daemon' := by
  refine (daemonsReconciled_turn p daemon).outcome_eq fun first hfirst => ?_
  rw [List.mem_singleton.mp hfirst]
  exact hapart

theorem daemonsReconciled_foldl {daemons : List ManagedDaemon}
    (hapart : daemons.Pairwise (Apart opts)) (p : Progress) :
    DaemonsReconciled env config opts daemons p
      (daemons.foldl (Progress.reconcileDaemon env config opts) p) := by
  induction daemons generalizing p with
  | nil => exact ⟨rfl, by simp, fun _ _ => rfl, by simp, fun _ _ => rfl, fun h => ⟨h, by simp⟩⟩
  | cons daemon daemons ih =>
    rw [List.pairwise_cons] at hapart
    refine (daemonsReconciled_turn p daemon).trans (ih hapart.2 _) ?_
    intro first hfirst
    rw [List.mem_singleton.mp hfirst]
    exact hapart.1

theorem buildDaemons_apart (spec : GpuFractioningConfigSpec)
    (mpsdAuditLog supportSMSharing : Bool) :
    (buildDaemons spec mpsdAuditLog supportSMSharing).Pairwise (Apart opts) := by
  have hname : daemonSetName FractiondDaemon.daemonName ≠ daemonSetName MpsdDaemon.daemonName := by
    decide
  have hcond : capitalize FractiondDaemon.daemonName ++ "Ready" ≠
      capitalize MpsdDaemon.daemonName ++ "Ready" := by
    decide
  refine List.pairwise_pair.mpr ⟨?_, hcond⟩
  intro hkey
  exact hname (Prod.mk.inj hkey).2

end Loop

section Evaluation

variable (r : Reconciler) (env : Env) (c : Cluster) (config : GpuFractioningConfig)

/-- The options of the daemons in this reconcile. -/
def Reconciler.options : BuildOptions := r.buildOptions config.spec (readClusterPolicy env c)

theorem Reconciler.buildOptions_namespace (spec : GpuFractioningConfigSpec)
    (clusterPolicy : ClusterPolicy) :
    (r.buildOptions spec clusterPolicy).namespace_ = r.namespace_ := by
  unfold Reconciler.buildOptions
  split_ifs <;> rfl

/-- The verdict of the dependency check on the conditions of the loop. -/
def Reconciler.verdict (conditions : List Condition) : Condition :=
  let now := env.now .listClusterServiceVersions
  (r.gpuOperatorChecker.check (env.list .listClusterServiceVersions c.clusterServiceVersions)
    (env.ctxDone .listClusterPolicies) (env.ctxDone .listClusterServiceVersions)
    (readClusterPolicy env c) config.generation
    (aggregateReadyCondition conditions config.generation now) now).1

theorem Reconciler.type_verdict (conditions : List Condition) :
    (r.verdict env c config conditions).type = conditionReady :=
  type_check _ _ _ _ _ _ _ _ (type_aggregateReadyCondition _ _ _)

theorem checkDependencies_cluster (clusterPolicy : ClusterPolicy) (p : Progress) :
    (r.checkDependencies env config clusterPolicy p).cluster = p.cluster := by
  unfold Reconciler.checkDependencies
  rfl

theorem checkDependencies_requeue {clusterPolicy : ClusterPolicy} {p : Progress}
    (h : (r.checkDependencies env config clusterPolicy p).needsRequeue = false) :
    p.needsRequeue = false := by
  unfold Reconciler.checkDependencies at h
  exact (Bool.or_eq_false_iff.mp h).1

theorem noteDriverUpgrade_cluster (p : Progress) :
    (Reconciler.noteDriverUpgrade env config p).cluster =
      (evaluateDriverUpgrade env p.cluster config.spec.nodeSelector).1 := by
  unfold Reconciler.noteDriverUpgrade
  split
  · next h => rw [h]
  · next h => rw [h]

theorem noteDriverUpgrade_frame (p : Progress) :
    p.cluster.OnlyConditions (Reconciler.noteDriverUpgrade env config p).cluster ∧
      ∀ nodeName labels, p.cluster.labelsOf nodeName = some labels →
        labels.lookup driverUpgradeStateLabel = none →
        (Reconciler.noteDriverUpgrade env config p).cluster.readyStatus nodeName =
          p.cluster.readyStatus nodeName := by
  rw [noteDriverUpgrade_cluster]
  refine ⟨onlyConditions_evaluateDriverUpgrade env p.cluster config.spec.nodeSelector, ?_⟩
  intro nodeName labels hlabels hlabel
  obtain ⟨node, hnode, rfl⟩ := Option.map_eq_some_iff.mp hlabels
  exact readyStatus_evaluateDriverUpgrade env hnode hlabel

theorem find?_noteDriverUpgrade {β : Type} (f : Condition → β)
    (hf : ∀ c time, f { c with lastTransitionTime := time } = f c) (p : Progress)
    {condType : String} (hne : conditionDriverUpgradeInProgress ≠ condType) :
    ((Reconciler.noteDriverUpgrade env config p).conditions.find?
        fun c => c.type = condType).map f =
      (p.conditions.find? fun c => c.type = condType).map f := by
  unfold Reconciler.noteDriverUpgrade
  split
  · rfl
  · exact (find?_setCondition f hf _ _ _).trans (if_neg hne)

theorem noteDriverUpgrade_requeue {p : Progress}
    (h : (Reconciler.noteDriverUpgrade env config p).needsRequeue = false) :
    p.needsRequeue = false := by
  unfold Reconciler.noteDriverUpgrade at h
  split at h
  · exact absurd h (by simp)
  · exact h

/-- What a reconcile knows before it turns to the nodes. -/
structure Evaluated (p : Progress) : Prop where
  frame : p.cluster = { c with daemonSets := p.cluster.daemonSets, nodes := p.cluster.nodes }
  labels : ∀ nodeName, p.cluster.labelsOf nodeName = c.labelsOf nodeName
  readyStatus : ∀ nodeName labels, c.labelsOf nodeName = some labels →
    labels.lookup driverUpgradeStateLabel = none →
    p.cluster.readyStatus nodeName = c.readyStatus nodeName
  stored : ∀ daemon ∈ r.daemons config.spec,
    p.cluster.daemonSets.lookup (daemon.key r.namespace_) =
      (c.outcome env config (r.options env c config) daemon).1
  requeue : p.needsRequeue = false → ∀ daemon ∈ r.daemons config.spec,
    ∃ health, (c.outcome env config (r.options env c config) daemon).2 = .ok health ∧
      health.desiredNodes ≤ health.readyNodes

/-- The state after the loop over the daemons. -/
def Reconciler.afterDaemons : Progress :=
  r.reconcileDaemons env config (readClusterPolicy env c) ⟨c, config.status.conditions, false⟩

theorem daemonsReconciled_afterDaemons :
    DaemonsReconciled env config (r.options env c config) (r.daemons config.spec)
      ⟨c, config.status.conditions, false⟩ (r.afterDaemons env c config) := by
  unfold Reconciler.afterDaemons Reconciler.reconcileDaemons
  exact daemonsReconciled_foldl (buildDaemons_apart _ _ _) _

/-- The phases that follow the loop. -/
theorem evaluate_eq :
    r.evaluate env c config = Reconciler.noteDriverUpgrade env config
      (r.checkDependencies env config (readClusterPolicy env c) (r.afterDaemons env c config)) :=
  rfl

theorem evaluated_evaluate : Evaluated r env c config (r.evaluate env c config) := by
  have hloop := daemonsReconciled_afterDaemons r env c config
  rw [evaluate_eq]
  generalize r.afterDaemons env c config = p at hloop
  have hkey : (r.options env c config).namespace_ = r.namespace_ :=
    r.buildOptions_namespace config.spec (readClusterPolicy env c)
  obtain ⟨honly, hready⟩ := noteDriverUpgrade_frame env config
    (r.checkDependencies env config (readClusterPolicy env c) p)
  rw [checkDependencies_cluster] at honly hready
  have hnodes : p.cluster.nodes = c.nodes := by
    rw [hloop.frame]
  have hlabels (nodeName : String) : p.cluster.labelsOf nodeName = c.labelsOf nodeName := by
    rw [Cluster.labelsOf, Cluster.labelsOf, hnodes]
  refine ⟨?_, ?_, ?_, ?_, ?_⟩
  · rw [honly.frame, hloop.frame]
  · intro nodeName
    rw [honly.labels nodeName, hlabels nodeName]
  · intro nodeName labels hnode hlabel
    rw [← hlabels nodeName] at hnode
    rw [hready nodeName labels hnode hlabel, Cluster.readyStatus, Cluster.readyStatus, hnodes]
  · intro daemon hdaemon
    have hstored := hloop.stored daemon hdaemon
    rw [hkey] at hstored
    rw [honly.frame]
    exact hstored
  · intro hrequeue
    have hbefore := checkDependencies_requeue r env config
      (noteDriverUpgrade_requeue env config hrequeue)
    exact (hloop.requeue hbefore).2

theorem find?_evaluate {β : Type} (f : Condition → β)
    (hf : ∀ c time, f { c with lastTransitionTime := time } = f c) :
    ((r.evaluate env c config).conditions.find? fun c => c.type = conditionReady).map f =
      some (f (r.verdict env c config (r.afterDaemons env c config).conditions)) := by
  have hcsvs : (r.afterDaemons env c config).cluster.clusterServiceVersions =
      c.clusterServiceVersions := by
    rw [(daemonsReconciled_afterDaemons r env c config).frame]
  rw [evaluate_eq, find?_noteDriverUpgrade env config f hf _ (by decide)]
  unfold Reconciler.checkDependencies
  rw [hcsvs, find?_setCondition f hf]
  exact if_pos (r.type_verdict env c config _)

/-- What it takes for a daemon to be reported ready, in terms of the calls of the
reconcile and the stored DaemonSet. -/
structure DaemonHealthy (opts : BuildOptions) (stored : Option DaemonSet)
    (daemon : ManagedDaemon) : Prop where
  getDaemonSet : env.fails (.getDaemonSet daemon.name) = none
  owner : stored.any (ownedByOther config) = false
  writeDaemonSet : env.fails (.writeDaemonSet daemon.name) = none ∨
    stored.map DaemonSet.spec = some (daemon.buildDaemonSet opts).spec
  refetchDaemonSet : env.fails (.refetchDaemonSet daemon.name) = none
  counters : (daemonSetStatus stored).desiredNumberScheduled = 0 ∨
    (daemonSetStatus stored).numberReady = (daemonSetStatus stored).desiredNumberScheduled

theorem daemonHealthy_of_status {opts : BuildOptions} {stored : Option DaemonSet}
    {daemon : ManagedDaemon}
    (h : (daemonCondition env config daemon
      (reconcileDaemon env config daemon opts stored).2).status = .conditionTrue) :
    DaemonHealthy env config opts stored daemon := by
  obtain ⟨herr, hhealth⟩ := (status_daemonHealthToCondition _ _ _ _ _).mp h
  cases houtcome : (reconcileDaemon env config daemon opts stored).2 with
  | error err =>
    rw [houtcome] at herr
    exact absurd herr (by simp [reported])
  | ok health =>
    obtain ⟨rfl, hcreate, hrefetch⟩ := reconcileDaemon_ok env config daemon opts stored houtcome
    obtain ⟨hget, howner, hwrite⟩ := createOrUpdate_succeeds _ _ _ _ _ hcreate
    rw [houtcome] at hhealth
    exact ⟨hget, howner, hwrite, hrefetch, hhealth⟩

/-- What it takes to publish Ready as true. -/
structure PublishesReady : Prop where
  daemons : ∀ daemon ∈ r.daemons config.spec, DaemonHealthy env config (r.options env c config)
    (c.daemonSets.lookup (daemon.key r.namespace_)) daemon
  others : ∀ condType status, (∀ daemon ∈ r.daemons config.spec, daemon.condType ≠ condType) →
    condType ≠ conditionReady → condType ≠ conditionDriverUpgradeInProgress →
    statusOf config.status.conditions condType = some status → status = .conditionTrue
  dependencies : r.gpuOperatorChecker.passes
    (env.list .listClusterServiceVersions c.clusterServiceVersions)
    (env.ctxDone .listClusterPolicies) (env.ctxDone .listClusterServiceVersions)
    (readClusterPolicy env c)

theorem publishesReady_of_statusOf
    (h : statusOf (r.evaluate env c config).conditions conditionReady = some .conditionTrue) :
    PublishesReady r env c config := by
  have hloop := daemonsReconciled_afterDaemons r env c config
  have hverdict : (r.verdict env c config (r.afterDaemons env c config).conditions).status =
      .conditionTrue := by
    have hfind := find?_evaluate r env c config Condition.status fun _ _ => rfl
    exact Option.some.inj (hfind.symm.trans h)
  obtain ⟨haggregate, hpasses⟩ := (status_check _ _ _ _ _ _ _ _).mp hverdict
  refine ⟨?_, ?_, hpasses⟩
  · intro daemon hdaemon
    have hcond := hloop.conditions daemon hdaemon
    have htype := daemon.condType_isComponent
    have htrue := component_of_aggregate haggregate htype.1 htype.2 hcond
    have hkey := r.buildOptions_namespace config.spec (readClusterPolicy env c)
    rw [← hkey]
    exact daemonHealthy_of_status env config htrue
  · intro condType status hother hready hupgrade hstatus
    rw [← hloop.otherConditions condType hother] at hstatus
    exact component_of_aggregate haggregate hready hupgrade hstatus

end Evaluation

section Whole

variable (r : Reconciler) (env : Env) (c : Cluster) (config : GpuFractioningConfig)

theorem onlyConditions_patchNodes (wasUnhealthy : Bool) (p : Progress) :
    p.cluster.OnlyConditions (r.patchNodes env wasUnhealthy p).cluster := by
  unfold Reconciler.patchNodes
  split_ifs
  · exact onlyConditions_patchNodeConditions env p.cluster r.namespace_
  · exact .refl _

theorem patchNodes_conditions (wasUnhealthy : Bool) (p : Progress) :
    (r.patchNodes env wasUnhealthy p).conditions = p.conditions := by
  unfold Reconciler.patchNodes
  split_ifs <;> rfl

theorem updateStatus_daemonSets (p : Progress) :
    (Reconciler.updateStatus env config p).1.daemonSets = p.cluster.daemonSets := by
  unfold Reconciler.updateStatus
  split <;> rfl

theorem reconcileLive_daemonSets :
    (r.reconcileLive env c config).1.daemonSets =
      (r.evaluate env c config).cluster.daemonSets := by
  unfold Reconciler.reconcileLive
  rw [updateStatus_daemonSets, (onlyConditions_patchNodes r env _ _).frame]

theorem reconcileLive_config :
    (r.reconcileLive env c config).1.config = c.config ∧ env.fails .updateStatus ≠ none ∨
      (r.reconcileLive env c config).1.config = some { config with
        status := ⟨config.generation, (r.evaluate env c config).conditions⟩ } ∧
      env.fails .updateStatus = none := by
  unfold Reconciler.reconcileLive Reconciler.updateStatus
  cases hcall : env.fails .updateStatus with
  | some message =>
    refine .inl ⟨?_, by simp⟩
    dsimp only
    rw [(onlyConditions_patchNodes r env _ _).frame, (evaluated_evaluate r env c config).frame]
  | none =>
    refine .inr ⟨?_, rfl⟩
    dsimp only
    rw [patchNodes_conditions]

section Deletion

variable {env}

theorem sweepNodes_daemonSets {listCall : ℕ → ApiCall}
    {visit : Cluster × List String → String × Node → Cluster × List String}
    (hvisit : ∀ acc entry, (visit acc entry).1.daemonSets = acc.1.daemonSets) (page : ℕ)
    (pages : List (List (String × Node))) (acc : Cluster × List String) :
    (sweepNodes env listCall visit page pages acc).1.daemonSets = acc.1.daemonSets := by
  induction pages generalizing page acc with
  | nil => rfl
  | cons nodes rest ih =>
    unfold sweepNodes
    split
    · rfl
    · rw [ih]
      refine List.foldlRecOn
        (motive := fun acc' : Cluster × List String => acc'.1.daemonSets = acc.1.daemonSets)
        _ _ rfl ?_
      intro acc' hacc' entry _
      rw [hvisit, hacc']

theorem removeConditionsPage_daemonSets (acc : Cluster × List String) (entry : String × Node) :
    (removeConditionsPage env acc entry).1.daemonSets = acc.1.daemonSets := by
  unfold removeConditionsPage
  split_ifs
  · rfl
  · dsimp only
    rw [(onlyConditions_removeNodeCondition env acc.1 entry.1 _).frame]

theorem removeLabelsPage_daemonSets (acc : Cluster × List String) (entry : String × Node) :
    (removeLabelsPage env acc entry).1.daemonSets = acc.1.daemonSets := by
  unfold removeLabelsPage
  dsimp only
  split
  · rfl
  · split
    · rfl
    · split
      · rfl
      · rw [Cluster.modifyNode_frame]

theorem reconcileDelete_daemonSets :
    (Reconciler.reconcileDelete env c config).1.daemonSets = c.daemonSets := by
  have hconditions : (removeNodeConditions env c config.spec.nodeSelector).1.daemonSets =
      c.daemonSets := sweepNodes_daemonSets removeConditionsPage_daemonSets _ _ _
  have hlabels (c' : Cluster) :
      (removeDriverMajorLabels env c' config.spec.nodeSelector).1.daemonSets = c'.daemonSets :=
    sweepNodes_daemonSets removeLabelsPage_daemonSets _ _ _
  unfold Reconciler.reconcileDelete
  split
  · rfl
  · dsimp only
    split
    · exact hconditions
    · split
      · exact (hlabels _).trans hconditions
      · split
        · exact (hlabels _).trans hconditions
        · exact (hlabels _).trans hconditions

end Deletion

variable {c config}

theorem reconcile_daemonSets_of_deleting (hconfig : c.config = some config)
    (hdeleting : config.deleting = true) :
    (r.reconcile env c).1.daemonSets = c.daemonSets := by
  unfold Reconciler.reconcile
  split
  · rfl
  · simp only [hconfig, hdeleting, if_true, reconcileDelete_daemonSets]

theorem addFinalizer_ok {config' : GpuFractioningConfig}
    (h : Reconciler.addFinalizer env config = .ok config') :
    config' = { config with finalizers := config'.finalizers } := by
  unfold Reconciler.addFinalizer at h
  split_ifs at h
  · rw [← Except.ok.inj h]
  · cases hcall : env.fails .addFinalizer with
    | some message => simp [hcall] at h
    | none =>
      rw [hcall] at h
      rw [← Except.ok.inj h]

/-- A reconcile of a resource that is not being deleted stops at once or goes through
all phases; the finalizer may have been added. -/
theorem reconcile_live (hconfig : c.config = some config) (hlive : config.deleting = false) :
    (∃ err, r.reconcile env c = (c, .error err)) ∨
      ∃ config', config' = { config with finalizers := config'.finalizers } ∧
        r.reconcile env c = r.reconcileLive env { c with config := some config' } config' := by
  unfold Reconciler.reconcile
  split
  · exact .inl ⟨_, rfl⟩
  · simp only [hconfig]
    rw [if_neg (by simp [hlive])]
    cases hfinalizer : Reconciler.addFinalizer env config with
    | error err => exact .inl ⟨_, rfl⟩
    | ok config' => exact .inr ⟨config', addFinalizer_ok env hfinalizer, rfl⟩

theorem reconcile_through (hconfig : c.config = some config) (hlive : config.deleting = false)
    (hget : env.fails .getConfig = none) (hadd : env.fails .addFinalizer = none) :
    ∃ config', config' = { config with finalizers := config'.finalizers } ∧
      r.reconcile env c = r.reconcileLive env { c with config := some config' } config' := by
  have hfinalizer : ∃ config', Reconciler.addFinalizer env config = .ok config' := by
    unfold Reconciler.addFinalizer
    split_ifs
    · exact ⟨config, rfl⟩
    · rw [hadd]
      exact ⟨_, rfl⟩
  obtain ⟨config', hok⟩ := hfinalizer
  refine ⟨config', addFinalizer_ok env hok, ?_⟩
  unfold Reconciler.reconcile
  simp only [hget, hconfig]
  rw [if_neg (by simp [hlive]), hok]

theorem config_reconcile (hconfig : c.config = some config) (hlive : config.deleting = false) :
    ∃ config', (r.reconcile env c).1.config = some config' ∧ config'.deleting = false ∧
      config'.name = config.name ∧ config'.spec = config.spec := by
  obtain ⟨err, h⟩ | ⟨config', hsame, h⟩ := reconcile_live r env hconfig hlive
  · rw [h]
    exact ⟨config, hconfig, hlive, rfl, rfl⟩
  · rw [h, hsame]
    obtain ⟨hkept, -⟩ | ⟨hwritten, -⟩ := reconcileLive_config r env
      { c with config := some { config with finalizers := config'.finalizers } }
      { config with finalizers := config'.finalizers }
    · exact ⟨_, hkept, hlive, rfl, rfl⟩
    · exact ⟨_, hwritten, hlive, rfl, rfl⟩

end Whole

end GpuFractioning.Operator
