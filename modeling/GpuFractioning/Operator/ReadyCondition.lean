import GpuFractioning.Operator.Settling

/-!
# What the Ready condition says

The Ready condition of the status is the aggregate of the daemons' conditions, which
are set among the persisted ones, unless the GPU Operator dependency objects.
-/

namespace GpuFractioning.Operator

section Loop

variable {env : Env} {config : GpuFractioningConfig} {opts : BuildOptions}

/-- The loop replaces the first condition of each daemon's type and no other. -/
theorem statusesOf_foldl {daemons : List ManagedDaemon} (hapart : daemons.Pairwise (Apart opts))
    (p : Progress) :
    (∀ daemon ∈ daemons, statusesOf
        (daemons.foldl (Progress.reconcileDaemon env config opts) p).conditions daemon.condType =
      (daemonCondition env config daemon (p.cluster.outcome env config opts daemon).2).status ::
        (statusesOf p.conditions daemon.condType).tail) ∧
    ∀ condType, (∀ daemon ∈ daemons, daemon.condType ≠ condType) →
      statusesOf (daemons.foldl (Progress.reconcileDaemon env config opts) p).conditions condType =
        statusesOf p.conditions condType := by
  induction daemons generalizing p with
  | nil => simp
  | cons daemon daemons ih =>
    rw [List.pairwise_cons] at hapart
    have hset (condType : String) :
        statusesOf (p.reconcileDaemon env config opts daemon).conditions condType =
          if daemon.condType = condType then
            (daemonCondition env config daemon
              (p.cluster.outcome env config opts daemon).2).status ::
              (statusesOf p.conditions condType).tail
          else statusesOf p.conditions condType := by
      have hcond := statusesOf_setCondition
        (daemonCondition env config daemon (p.cluster.outcome env config opts daemon).2)
        p.conditions condType
      rw [type_daemonCondition] at hcond
      exact hcond
    obtain ⟨hfirst, hother⟩ := ih hapart.2 (p.reconcileDaemon env config opts daemon)
    rw [List.foldl_cons]
    refine ⟨List.forall_mem_cons.mpr ⟨?_, ?_⟩, ?_⟩
    · rw [hother daemon.condType fun daemon' hdaemon' => (hapart.1 daemon' hdaemon').2.symm,
        hset, if_pos rfl]
    · intro daemon' hdaemon'
      rw [hfirst daemon' hdaemon', outcome_reconcileDaemon p (hapart.1 daemon' hdaemon'), hset,
        if_neg (hapart.1 daemon' hdaemon').2]
    · intro condType hcondType
      rw [List.forall_mem_cons] at hcondType
      rw [hother condType hcondType.2, hset, if_neg hcondType.1]

end Loop

section Verdict

variable (r : Reconciler) (env : Env) (c : Cluster) (config : GpuFractioningConfig)

/-- The daemon is reconciled, and its pods are all ready or there is no node for them. -/
def Reconciler.DaemonSucceeds (daemon : ManagedDaemon) : Prop :=
  ∃ health, (c.outcome env config (r.options env c config) daemon).2 = .ok health ∧
    (health.readyNodes = health.desiredNodes ∨ health.desiredNodes = 0)

/-- The GPU Operator dependency does not object. -/
structure Reconciler.DependenciesMet : Prop where
  policyRead : (readClusterPolicy env c).err = none
  versions : ∃ message, r.gpuOperatorChecker.versionFailure
    (env.list .listClusterServiceVersions c.clusterServiceVersions)
    (env.ctxDone .listClusterServiceVersions) (readClusterPolicy env c).policy = .ok ("", message)
  managementCDI : (readClusterPolicy env c).nriPluginEnabled = true →
    r.namespace_ ∈ (readClusterPolicy env c).managementCDIDeviceNamespaces

theorem dependenciesMet_config (config : Option GpuFractioningConfig) :
    r.DependenciesMet env { c with config := config } ↔ r.DependenciesMet env c :=
  ⟨fun h => ⟨h.policyRead, h.versions, h.managementCDI⟩,
    fun h => ⟨h.policyRead, h.versions, h.managementCDI⟩⟩

/-- Whatever other conditions of the daemon's type are persisted after the first are true. -/
def RepeatsTrue (daemon : ManagedDaemon) : Prop :=
  ∀ cond ∈ (config.status.conditions.filter fun c => c.type = daemon.condType).tail,
    cond.status = .conditionTrue

/-- The condition types a reconcile persists. -/
def KnownTypes : Prop :=
  ∀ cond ∈ config.status.conditions,
    cond.type ∈ [conditionReady, conditionDriverUpgradeInProgress, "FractiondReady", "MpsdReady"]

theorem KnownTypes.component {config : GpuFractioningConfig} (h : KnownTypes config)
    {cond : Condition} (hmem : cond ∈ config.status.conditions)
    (hcomponent : isComponent cond = true) :
    ∃ daemon ∈ r.daemons config.spec, daemon.condType = cond.type := by
  have hfractiond : capitalize FractiondDaemon.daemonName ++ "Ready" = "FractiondReady" := by decide
  have hmpsd : capitalize MpsdDaemon.daemonName ++ "Ready" = "MpsdReady" := by decide
  have htype := h cond hmem
  simp only [List.mem_cons, List.not_mem_nil, or_false] at htype
  rcases htype with htype | htype | htype | htype
  · simp [isComponent, htype] at hcomponent
  · simp [isComponent, htype] at hcomponent
  · exact ⟨_, List.mem_cons_self, hfractiond.trans htype.symm⟩
  · exact ⟨_, List.mem_cons_of_mem _ List.mem_cons_self, hmpsd.trans htype.symm⟩

theorem managementCDINamespaceFailureMessage_eq (checker : GpuOperatorDependencyChecker)
    (clusterPolicy : ClusterPolicy) :
    checker.managementCDINamespaceFailureMessage clusterPolicy = "" ↔
      (clusterPolicy.nriPluginEnabled = true →
        checker.namespace_ ∈ clusterPolicy.managementCDIDeviceNamespaces) := by
  unfold GpuOperatorDependencyChecker.managementCDINamespaceFailureMessage
  cases clusterPolicy.nriPluginEnabled with
  | false => simp
  | true =>
    by_cases hallowed : checker.namespace_ ∈ clusterPolicy.managementCDIDeviceNamespaces
    · simp [hallowed]
    · simp [hallowed]

variable {env c config}

theorem passes_iff (hctx : ∀ call, env.ctxDone call = false) :
    r.gpuOperatorChecker.passes (env.list .listClusterServiceVersions c.clusterServiceVersions)
        (env.ctxDone .listClusterPolicies) (env.ctxDone .listClusterServiceVersions)
        (readClusterPolicy env c) ↔
      r.DependenciesMet env c := by
  have hcdi :=
    managementCDINamespaceFailureMessage_eq r.gpuOperatorChecker (readClusterPolicy env c)
  obtain ⟨⟨reason, message⟩, hfailure⟩ : ∃ failure, r.gpuOperatorChecker.versionFailure
      (env.list .listClusterServiceVersions c.clusterServiceVersions)
      (env.ctxDone .listClusterServiceVersions) (readClusterPolicy env c).policy = .ok failure :=
    versionFailure_ok _ (fun hdone => absurd hdone (by simp [hctx])) _
  unfold GpuOperatorDependencyChecker.passes
  cases herr : (readClusterPolicy env c).err with
  | some err =>
    simp only [hctx, Bool.false_eq_true, false_iff]
    intro hmet
    rw [hmet.policyRead] at herr
    exact absurd herr (by simp)
  | none =>
    simp only [hfailure]
    constructor
    · rintro ⟨rfl, hpolicy⟩
      refine ⟨herr, ⟨message, hfailure⟩, ?_⟩
      rcases hpolicy with hnone | hmessage
      · intro henabled
        simp [ClusterPolicy.nriPluginEnabled, hnone] at henabled
      · exact hcdi.mp hmessage
    · intro hmet
      obtain ⟨message', hversions⟩ := hmet.versions
      rw [hfailure, Except.ok.injEq, Prod.mk.injEq] at hversions
      exact ⟨hversions.1, .inr (hcdi.mpr hmet.managementCDI)⟩

theorem status_daemonCondition (daemon : ManagedDaemon) :
    (daemonCondition env config daemon
        (c.outcome env config (r.options env c config) daemon).2).status = .conditionTrue ↔
      r.DaemonSucceeds env c config daemon := by
  unfold daemonCondition Reconciler.DaemonSucceeds
  rw [status_daemonHealthToCondition]
  cases (c.outcome env config (r.options env c config) daemon).2 with
  | error err => simp [reported]
  | ok health => simp [reported, or_comm]

theorem repeatsTrue_iff (daemon : ManagedDaemon) :
    RepeatsTrue config daemon ↔
      ∀ status ∈ (statusesOf config.status.conditions daemon.condType).tail,
        status = .conditionTrue := by
  unfold RepeatsTrue statusesOf
  rw [← List.map_tail, List.forall_mem_map]

theorem statusesOf_afterDaemons (r : Reconciler) (env : Env) (c : Cluster)
    (config : GpuFractioningConfig) :
    (∀ daemon ∈ r.daemons config.spec,
      statusesOf (r.afterDaemons env c config).conditions daemon.condType =
        (daemonCondition env config daemon
          (c.outcome env config (r.options env c config) daemon).2).status ::
            (statusesOf config.status.conditions daemon.condType).tail) ∧
    ∀ condType, (∀ daemon ∈ r.daemons config.spec, daemon.condType ≠ condType) →
      statusesOf (r.afterDaemons env c config).conditions condType =
        statusesOf config.status.conditions condType := by
  unfold Reconciler.afterDaemons Reconciler.reconcileDaemons
  exact statusesOf_foldl (buildDaemons_apart _ _ _) ⟨c, config.status.conditions, false⟩

theorem statusesOf_afterDaemons_true {daemon : ManagedDaemon}
    (hdaemon : daemon ∈ r.daemons config.spec) :
    (∀ status ∈ statusesOf (r.afterDaemons env c config).conditions daemon.condType,
        status = .conditionTrue) ↔
      r.DaemonSucceeds env c config daemon ∧ RepeatsTrue config daemon := by
  rw [(statusesOf_afterDaemons r env c config).1 daemon hdaemon, List.forall_mem_cons,
    status_daemonCondition, repeatsTrue_iff]

theorem aggregate_afterDaemons (htypes : KnownTypes config) (generation now : ℤ) :
    (aggregateReadyCondition (r.afterDaemons env c config).conditions generation now).status =
        .conditionTrue ↔
      ∀ daemon ∈ r.daemons config.spec,
        r.DaemonSucceeds env c config daemon ∧ RepeatsTrue config daemon := by
  obtain ⟨hdaemons, hothers⟩ := statusesOf_afterDaemons r env c config
  rw [status_aggregateReadyCondition]
  constructor
  · rintro ⟨-, hall⟩ daemon hdaemon
    rw [← statusesOf_afterDaemons_true r hdaemon]
    intro status hstatus
    obtain ⟨cond, hcond, htype, rfl⟩ := mem_statusesOf.mp hstatus
    have hcomponent := daemon.condType_isComponent
    refine hall cond hcond ?_
    simp [isComponent, htype, hcomponent.1, hcomponent.2]
  · intro hall
    constructor
    · intro hnil
      have hfirst := hdaemons _ List.mem_cons_self
      rw [hnil] at hfirst
      exact absurd hfirst (by simp [statusesOf])
    · intro cond hcond hcomponent
      have hmem : cond.status ∈ statusesOf (r.afterDaemons env c config).conditions cond.type :=
        mem_statusesOf.mpr ⟨cond, hcond, rfl, rfl⟩
      by_cases hdaemon : ∃ daemon ∈ r.daemons config.spec, daemon.condType = cond.type
      · obtain ⟨daemon, hdaemon, htype⟩ := hdaemon
        rw [← htype] at hmem
        exact (statusesOf_afterDaemons_true r hdaemon).mpr (hall daemon hdaemon) _ hmem
      · push Not at hdaemon
        rw [hothers cond.type hdaemon] at hmem
        obtain ⟨cond', hcond', htype, -⟩ := mem_statusesOf.mp hmem
        have hcomponent' : isComponent cond' = true := by
          rw [isComponent, htype]
          exact hcomponent
        obtain ⟨daemon, hmem', hsame⟩ := htypes.component r hcond' hcomponent'
        exact absurd (hsame.trans htype) (hdaemon daemon hmem')

theorem statusOf_evaluate_iff (c : Cluster) (config : GpuFractioningConfig)
    (hctx : ∀ call, env.ctxDone call = false) (htypes : KnownTypes config) :
    statusOf (r.evaluate env c config).conditions conditionReady = some .conditionTrue ↔
      (∀ daemon ∈ r.daemons config.spec, r.DaemonSucceeds env c config daemon) ∧
        r.DependenciesMet env c ∧ ∀ daemon ∈ r.daemons config.spec, RepeatsTrue config daemon := by
  have hfind : statusOf (r.evaluate env c config).conditions conditionReady =
      some (r.verdict env c config (r.afterDaemons env c config).conditions).status :=
    find?_evaluate r env c config Condition.status fun _ _ => rfl
  rw [hfind, Option.some.injEq, Reconciler.verdict, status_check, passes_iff r hctx,
    aggregate_afterDaemons r htypes]
  constructor
  · rintro ⟨hdaemons, hmet⟩
    exact ⟨fun daemon hdaemon => (hdaemons daemon hdaemon).1, hmet,
      fun daemon hdaemon => (hdaemons daemon hdaemon).2⟩
  · rintro ⟨hsucceeds, hmet, hrepeats⟩
    exact ⟨fun daemon hdaemon => ⟨hsucceeds daemon hdaemon, hrepeats daemon hdaemon⟩, hmet⟩

theorem reconcileLive_written {result : Result}
    (h : (r.reconcileLive env c config).2 = .ok result) :
    (r.reconcileLive env c config).1.config = some { config with
      status := ⟨config.generation, (r.evaluate env c config).conditions⟩ } := by
  obtain ⟨-, hcall⟩ | ⟨hwritten, -⟩ := reconcileLive_config r env c config
  · obtain ⟨message, hmessage⟩ := Option.ne_none_iff_exists'.mp hcall
    simp only [Reconciler.reconcileLive, Reconciler.updateStatus, hmessage] at h
    exact absurd h (by simp)
  · exact hwritten

/-- Ready is published as true exactly when both daemons are reconciled and complete, the
GPU Operator dependency is met, and no stale repetition of a daemon's condition is left. -/
theorem published_ready_iff (hconfig : c.config = some config) (hlive : config.deleting = false)
    (hctx : ∀ call, env.ctxDone call = false) (htypes : KnownTypes config) {result : Result}
    (hresult : (r.reconcile env c).2 = .ok result) :
    ∃ written, (r.reconcile env c).1.config = some written ∧
      (statusOf written.status.conditions conditionReady = some .conditionTrue ↔
        (∀ daemon ∈ r.daemons config.spec, r.DaemonSucceeds env c config daemon) ∧
          r.DependenciesMet env c ∧
          ∀ daemon ∈ r.daemons config.spec, RepeatsTrue config daemon) := by
  obtain ⟨err, herr⟩ | ⟨config', hsame, hreconcile⟩ := reconcile_live r env hconfig hlive
  · rw [herr] at hresult
    exact absurd hresult (by simp)
  · rw [hreconcile] at hresult ⊢
    refine ⟨_, reconcileLive_written r hresult, ?_⟩
    rw [hsame, ← dependenciesMet_config r env c
      (some { config with finalizers := config'.finalizers })]
    exact statusOf_evaluate_iff r
      { c with config := some { config with finalizers := config'.finalizers } }
      { config with finalizers := config'.finalizers } hctx htypes

/-- The ready cluster, with a stale repetition of fractiond's condition. -/
def repeatedConfig : GpuFractioningConfig :=
  { sampleConfig with
    status := ⟨1, [⟨"FractiondReady", .conditionTrue, 1, 0, reasonAllPodsReady, ""⟩,
      ⟨"FractiondReady", .conditionFalse, 1, 0, reasonRolloutInProgress, ""⟩]⟩ }

def repeatedCluster : Cluster := { readyCluster with config := some repeatedConfig }

theorem dependenciesMet_readyCluster :
    sampleReconciler.DependenciesMet .undisturbed readyCluster :=
  ⟨rfl, ⟨"", rfl⟩, fun h => absurd h (by decide)⟩

/-- A persisted repetition that is false hides that everything is ready. -/
theorem repeated_condition_hides_ready :
    repeatedCluster.config = some repeatedConfig ∧ repeatedConfig.deleting = false ∧
      (∀ call, Env.undisturbed.ctxDone call = false) ∧ KnownTypes repeatedConfig ∧
      (∀ daemon ∈ sampleReconciler.daemons repeatedConfig.spec,
        sampleReconciler.DaemonSucceeds .undisturbed repeatedCluster repeatedConfig daemon) ∧
      sampleReconciler.DependenciesMet .undisturbed repeatedCluster ∧
      (sampleReconciler.reconcile .undisturbed repeatedCluster).2 = .ok .done ∧
      ∃ written, (sampleReconciler.reconcile .undisturbed repeatedCluster).1.config =
          some written ∧
        statusOf written.status.conditions conditionReady = some .conditionFalse := by
  have hpublished : (sampleReconciler.reconcile .undisturbed repeatedCluster).1.config.map
      (fun written => statusOf written.status.conditions conditionReady) =
        some (some .conditionFalse) := by
    decide +kernel
  refine ⟨rfl, rfl, fun _ => rfl, ?_, ?_, ?_, by decide +kernel,
    Option.map_eq_some_iff.mp hpublished⟩
  · intro cond hcond
    rcases List.mem_pair.mp hcond with rfl | rfl <;> decide
  · intro daemon hdaemon
    rcases List.mem_pair.mp hdaemon with rfl | rfl
    · exact ⟨⟨1, 1⟩, rfl, .inl rfl⟩
    · exact ⟨⟨1, 1⟩, by decide +kernel, .inl rfl⟩
  · exact (dependenciesMet_config _ _ _ _).mpr dependenciesMet_readyCluster

/-- Without it Ready is published as true. -/
theorem published_ready_iff_ready :
    ∃ written, (sampleReconciler.reconcile .undisturbed readyCluster).1.config = some written ∧
      statusOf written.status.conditions conditionReady = some .conditionTrue := by
  have htypes : KnownTypes sampleConfig := by
    intro cond hcond
    exact absurd hcond List.not_mem_nil
  have hdone : (sampleReconciler.reconcile .undisturbed readyCluster).2 = .ok .done := by
    decide +kernel
  obtain ⟨written, hwritten, hiff⟩ :=
    published_ready_iff sampleReconciler rfl rfl (fun _ => rfl) htypes hdone
  refine ⟨written, hwritten, hiff.mpr ⟨?_, dependenciesMet_readyCluster, ?_⟩⟩
  · intro daemon hdaemon
    rcases List.mem_pair.mp hdaemon with rfl | rfl
    · exact ⟨⟨1, 1⟩, rfl, .inl rfl⟩
    · exact ⟨⟨1, 1⟩, by decide +kernel, .inl rfl⟩
  · intro daemon _ cond hcond
    exact absurd hcond List.not_mem_nil

end Verdict

end GpuFractioning.Operator
