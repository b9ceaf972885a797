import GpuFractioning.Operator.Phases

/-!
# When the daemons are rolled out

The specs a reconcile leaves in the managed DaemonSets. They follow the
ClusterPolicy of that very reconcile, whether or not the version gates object and
whether or not it could be read.
-/

namespace GpuFractioning.Operator

section Specs

/-- The spec of the daemon's DaemonSet, if there is one. -/
def Cluster.specOf (c : Cluster) (r : Reconciler) (daemon : ManagedDaemon) :
    Option DaemonSetSpec :=
  (c.daemonSets.lookup (daemon.key r.namespace_)).map DaemonSet.spec

/-- The spec a reconcile that read this ClusterPolicy wants. -/
def Reconciler.builtSpec (r : Reconciler) (spec : GpuFractioningConfigSpec)
    (clusterPolicy : ClusterPolicy) (daemon : ManagedDaemon) : DaemonSetSpec :=
  (daemon.buildDaemonSet (r.buildOptions spec clusterPolicy)).spec

variable (r : Reconciler) (env : Env) {c : Cluster} {config : GpuFractioningConfig}
  {daemon : ManagedDaemon}

/-- A reconcile that goes through all phases leaves what the daemon's own reconcile does;
the finalizers make no difference. -/
theorem lookup_reconcileLive {config' : GpuFractioningConfig}
    (hsame : config' = { config with finalizers := config'.finalizers })
    (hdaemon : daemon ∈ r.daemons config.spec) :
    (r.reconcileLive env { c with config := some config' } config').1.daemonSets.lookup
        (daemon.key r.namespace_) =
      (reconcileDaemon env config' daemon (r.buildOptions config.spec (readClusterPolicy env c))
        (c.daemonSets.lookup (daemon.key r.namespace_))).1 := by
  have hspec : config'.spec = config.spec := by rw [hsame]
  have hdaemon' : daemon ∈ r.daemons config'.spec := by rwa [hspec]
  have hoptions : r.options env { c with config := some config' } config' =
      r.buildOptions config.spec (readClusterPolicy env c) := by
    rw [Reconciler.options, hspec]
    rfl
  rw [reconcileLive_daemonSets, (evaluated_evaluate r env _ config').stored daemon hdaemon',
    Cluster.outcome, hoptions, r.buildOptions_namespace]

theorem specOf_reconcile (hconfig : c.config = some config)
    (hdaemon : daemon ∈ r.daemons config.spec) :
    (r.reconcile env c).1.specOf r daemon = c.specOf r daemon ∨
      (r.reconcile env c).1.specOf r daemon =
        some (env.defaults.apply
          (r.builtSpec config.spec (readClusterPolicy env c) daemon)) := by
  cases hlive : config.deleting with
  | true =>
    left
    rw [Cluster.specOf, reconcile_daemonSets_of_deleting r env hconfig hlive]
    rfl
  | false =>
    obtain ⟨err, h⟩ | ⟨config', hsame, h⟩ := reconcile_live r env hconfig hlive
    · rw [h]
      exact .inl rfl
    · rw [h, Cluster.specOf, lookup_reconcileLive r env hsame hdaemon]
      exact spec_reconcileDaemon env config' daemon _ _

/-- The calls on the way to the daemon's DaemonSet succeed. -/
structure Env.Writes (env : Env) (daemon : ManagedDaemon) : Prop where
  getConfig : env.fails .getConfig = none
  addFinalizer : env.fails .addFinalizer = none
  getDaemonSet : env.fails (.getDaemonSet daemon.name) = none
  writeDaemonSet : env.fails (.writeDaemonSet daemon.name) = none

/-- What the call is about to store for the daemon. -/
def Reconciler.desired (r : Reconciler) (env : Env) (c : Cluster) (config : GpuFractioningConfig)
    (daemon : ManagedDaemon) : DesiredDaemonSet :=
  daemon.buildDaemonSet (r.options env c config)

theorem lookup_reconcile_of_writes (hconfig : c.config = some config)
    (hlive : config.deleting = false) (hdaemon : daemon ∈ r.daemons config.spec)
    (hwrites : env.Writes daemon) :
    (r.reconcile env c).1.daemonSets.lookup (daemon.key r.namespace_) =
      (createOrUpdate env config daemon.name (r.desired env c config daemon)
        (c.daemonSets.lookup (daemon.key r.namespace_))).1 := by
  obtain ⟨config', hsame, h⟩ :=
    reconcile_through r env hconfig hlive hwrites.getConfig hwrites.addFinalizer
  have hmutate : mutate config' = mutate config := by
    rw [hsame]
    rfl
  have hcreate (desired : DesiredDaemonSet) (stored : Option DaemonSet) :
      createOrUpdate env config' daemon.name desired stored =
        createOrUpdate env config daemon.name desired stored := by
    unfold createOrUpdate
    rw [hmutate, hsame]
    rfl
  rw [h, lookup_reconcileLive r env hsame hdaemon, reconcileDaemon_fst, hcreate]
  rfl

theorem specOf_reconcile_of_other (hconfig : c.config = some config)
    (hlive : config.deleting = false) (hdaemon : daemon ∈ r.daemons config.spec)
    (hwrites : env.Writes daemon)
    (hother : (c.daemonSets.lookup (daemon.key r.namespace_)).any (ownedByOther config) = true) :
    (r.reconcile env c).1.specOf r daemon = c.specOf r daemon := by
  rw [Cluster.specOf, lookup_reconcile_of_writes r env hconfig hlive hdaemon hwrites,
    createOrUpdate_of_other env config _ _ _ hother]
  rfl

theorem specOf_reconcile_of_writes (hconfig : c.config = some config)
    (hlive : config.deleting = false) (hdaemon : daemon ∈ r.daemons config.spec)
    (hwrites : env.Writes daemon)
    (howned : (c.daemonSets.lookup (daemon.key r.namespace_)).any (ownedByOther config) = false) :
    (r.reconcile env c).1.specOf r daemon =
        some (env.defaults.apply (r.builtSpec config.spec (readClusterPolicy env c) daemon)) ∨
      ∃ ds, c.daemonSets.lookup (daemon.key r.namespace_) = some ds ∧
        mutate config (r.desired env c config daemon) ds = .ok ds ∧
        (r.reconcile env c).1.specOf r daemon = some ds.spec := by
  have hlookup := lookup_reconcile_of_writes r env hconfig hlive hdaemon hwrites
  obtain hset | ⟨ds, hstored, hsame, hkept⟩ := createOrUpdate_spec env config daemon.name
    (r.desired env c config daemon) _ hwrites.getDaemonSet hwrites.writeDaemonSet howned
  · left
    rw [Cluster.specOf, hlookup, hset]
    rfl
  · right
    refine ⟨ds, hstored, hsame, ?_⟩
    rw [Cluster.specOf, hlookup, hkept]
    rfl

theorem specOf_reconcile_of_absent (hconfig : c.config = some config)
    (hlive : config.deleting = false) (hdaemon : daemon ∈ r.daemons config.spec)
    (hwrites : env.Writes daemon)
    (habsent : c.daemonSets.lookup (daemon.key r.namespace_) = none) :
    (r.reconcile env c).1.specOf r daemon =
      some (env.defaults.apply (r.builtSpec config.spec (readClusterPolicy env c) daemon)) := by
  obtain hset | ⟨ds, hstored, -⟩ := specOf_reconcile_of_writes r env hconfig hlive hdaemon hwrites
    (by rw [habsent]; rfl)
  · exact hset
  · rw [habsent] at hstored
    cases hstored

/-- The spec of a DaemonSet stays as it is exactly when it belongs to another owner or the
update makes no other one of it. -/
theorem specOf_reconcile_eq_iff (hconfig : c.config = some config)
    (hlive : config.deleting = false) (hdaemon : daemon ∈ r.daemons config.spec)
    (hwrites : env.Writes daemon) :
    (r.reconcile env c).1.specOf r daemon = c.specOf r daemon ↔
      (∃ ds, c.daemonSets.lookup (daemon.key r.namespace_) = some ds ∧
        SpecKept env config (r.desired env c config daemon) ds) ∨
      (c.daemonSets.lookup (daemon.key r.namespace_)).any (ownedByOther config) = true := by
  cases howned : (c.daemonSets.lookup (daemon.key r.namespace_)).any (ownedByOther config) with
  | true =>
    simp only [or_true, iff_true]
    exact specOf_reconcile_of_other r env hconfig hlive hdaemon hwrites howned
  | false =>
    simp only [Bool.false_eq_true, or_false]
    rw [Cluster.specOf, Cluster.specOf, lookup_reconcile_of_writes r env hconfig hlive hdaemon
      hwrites]
    exact createOrUpdate_spec_eq_iff env config daemon.name (r.desired env c config daemon) _
      hwrites.getDaemonSet hwrites.writeDaemonSet howned

end Specs

section VersionGate

/-- The persisted Ready condition is false, for this reason. -/
def Cluster.NotReadyFor (c : Cluster) (reason : String) : Prop :=
  ∃ config, c.config = some config ∧
    (config.status.conditions.find? fun cond => cond.type = conditionReady).map
      (fun cond => (cond.status, cond.reason)) = some (.conditionFalse, reason)

/-- The gate's answer in this reconcile. -/
def Reconciler.versionFailure (r : Reconciler) (env : Env) (c : Cluster) :
    Except String (String × String) :=
  r.gpuOperatorChecker.versionFailure
    (env.list .listClusterServiceVersions c.clusterServiceVersions)
    (env.ctxDone .listClusterServiceVersions) (readClusterPolicy env c).policy

/-- Every call succeeds, except perhaps the list of ClusterServiceVersions. -/
def Env.OnlyVersionsFail (env : Env) : Prop :=
  ∀ call, call ≠ .listClusterServiceVersions → env.fails call = none

theorem Env.OnlyVersionsFail.writes {env : Env} (h : env.OnlyVersionsFail)
    (daemon : ManagedDaemon) : env.Writes daemon :=
  ⟨h _ (by simp), h _ (by simp), h _ (by simp), h _ (by simp)⟩

theorem readClusterPolicy_err {env : Env} (h : env.fails .listClusterPolicies = none)
    (c : Cluster) : (readClusterPolicy env c).err = none := by
  unfold readClusterPolicy Env.list
  rw [h]
  cases c.clusterPolicies with
  | none => rfl
  | some policies => cases policies <;> rfl

variable {r : Reconciler} {env : Env} {c : Cluster} {config : GpuFractioningConfig}
  {reason message : String}

theorem notReadyFor_reconcile (hconfig : c.config = some config) (hlive : config.deleting = false)
    (hcalls : env.OnlyVersionsFail) (hfailure : r.versionFailure env c = .ok (reason, message))
    (hreason : reason ≠ "") : (r.reconcile env c).1.NotReadyFor reason := by
  obtain ⟨config', -, h⟩ := reconcile_through r env hconfig hlive (hcalls _ (by simp))
    (hcalls _ (by simp))
  have hverdict : ∀ conditions, (r.verdict env { c with config := some config' } config'
      conditions) = gpuOperatorReadyCondition config'.generation reason message
        (env.now .listClusterServiceVersions) := by
    intro conditions
    unfold Reconciler.verdict
    exact congrArg Prod.fst (check_of_versionFailure _ _ _ _
      (readClusterPolicy_err (hcalls _ (by simp)) _) hfailure hreason)
  have hfind := find?_evaluate r env { c with config := some config' } config'
    (fun cond => (cond.status, cond.reason)) fun _ _ => rfl
  rw [hverdict] at hfind
  rw [h]
  unfold Reconciler.reconcileLive Reconciler.updateStatus
  rw [hcalls .updateStatus (by simp)]
  refine ⟨_, rfl, ?_⟩
  rw [patchNodes_conditions]
  exact hfind

/-- The gate holds back nothing: its verdict is published, but the DaemonSets keep their
specs exactly when there is nothing to roll out. -/
theorem rollout_held_back_iff (hconfig : c.config = some config) (hcalls : env.OnlyVersionsFail)
    (hfailure : r.versionFailure env c = .ok (reason, message)) (hreason : reason ≠ "") :
    (config.deleting = true → ∀ daemon ∈ r.daemons config.spec,
      (r.reconcile env c).1.specOf r daemon = c.specOf r daemon) ∧
    (config.deleting = false →
      (((∀ daemon ∈ r.daemons config.spec,
          (r.reconcile env c).1.specOf r daemon = c.specOf r daemon) ∧
        (r.reconcile env c).1.NotReadyFor reason) ↔
      ∀ daemon ∈ r.daemons config.spec,
        (∃ ds, c.daemonSets.lookup (daemon.key r.namespace_) = some ds ∧
          SpecKept env config (r.desired env c config daemon) ds) ∨
        (c.daemonSets.lookup (daemon.key r.namespace_)).any (ownedByOther config) = true)) := by
  refine ⟨?_, fun hlive => ?_⟩
  · intro hdeleting daemon hdaemon
    unfold Cluster.specOf
    rw [reconcile_daemonSets_of_deleting r env hconfig hdeleting]
  · have hpublished := notReadyFor_reconcile hconfig hlive hcalls hfailure hreason
    have hspec : ∀ daemon ∈ r.daemons config.spec, _ := fun daemon hdaemon =>
      specOf_reconcile_eq_iff r env hconfig hlive hdaemon (hcalls.writes daemon)
    constructor
    · rintro ⟨hheld, -⟩ daemon hdaemon
      exact (hspec daemon hdaemon).mp (hheld daemon hdaemon)
    · intro hnothing
      exact ⟨fun daemon hdaemon => (hspec daemon hdaemon).mpr (hnothing daemon hdaemon),
        hpublished⟩

def sampleReconciler : Reconciler := ⟨"gpu-fractioning", ∅, "daemons", false, false, false, false⟩

def sampleConfig : GpuFractioningConfig where
  name := "default"
  uid := "0"
  generation := 1
  deleting := false
  finalizers := []
  spec := ⟨∅, [], none, none, none, none⟩
  status := ⟨0, []⟩

/-- A cluster with this ClusterPolicy and nothing rolled out. -/
def freshCluster (policy : Json) : Cluster :=
  ⟨some sampleConfig, ∅, ∅, [], some [policy], some []⟩

def oldToolkitPolicy : Json :=
  .object [("spec", .object [("toolkit", .object [("version", .string "v1.0.0")])])]

theorem versionFailure_oldToolkit :
    sampleReconciler.versionFailure Env.undisturbed (freshCluster oldToolkitPolicy) =
      .ok (reasonGPUOperandVersionUnsupported,
        "NVIDIA container toolkit version v1.0.0 from ClusterPolicy spec.toolkit.version " ++
          "is below minimum supported version v1.20.1") := by
  rfl

def sampleMpsd : ManagedDaemon := .mpsd ⟨none, false, false⟩

theorem sampleMpsd_mem : sampleMpsd ∈ sampleReconciler.daemons sampleConfig.spec :=
  List.mem_cons_of_mem _ List.mem_cons_self

/-- The gate objects to the toolkit, and mpsd is rolled out nevertheless. -/
theorem unsupported_toolkit_is_rolled_out :
    ∃ message, sampleReconciler.versionFailure Env.undisturbed (freshCluster oldToolkitPolicy) =
        .ok (reasonGPUOperandVersionUnsupported, message) ∧
      ∃ daemon ∈ sampleReconciler.daemons sampleConfig.spec,
        (freshCluster oldToolkitPolicy).specOf sampleReconciler daemon = none ∧
        (sampleReconciler.reconcile Env.undisturbed (freshCluster oldToolkitPolicy)).1.specOf
          sampleReconciler daemon ≠ none := by
  refine ⟨_, versionFailure_oldToolkit, sampleMpsd, sampleMpsd_mem, rfl, ?_⟩
  have hconfig : (freshCluster oldToolkitPolicy).config = some sampleConfig := rfl
  rw [specOf_reconcile_of_absent sampleReconciler Env.undisturbed hconfig rfl sampleMpsd_mem
    ⟨rfl, rfl, rfl, rfl⟩ rfl]
  exact Option.some_ne_none _

/-- Both daemons, as they are stored with this ClusterPolicy. -/
def sampleDaemonSets (clusterPolicy : ClusterPolicy) (status : DaemonSetStatus) :
    FiniteMap (String × String) DaemonSet :=
  (sampleReconciler.daemons sampleConfig.spec).foldr
    (fun daemon daemonSets =>
      daemonSets.insert (daemon.key sampleReconciler.namespace_)
        { createdDaemonSet .kubernetes sampleConfig (daemon.buildDaemonSet
            (sampleReconciler.buildOptions sampleConfig.spec clusterPolicy)) with
          status := status })
    (∅ : FiniteMap (String × String) DaemonSet)

theorem lookup_sampleDaemonSets (clusterPolicy : ClusterPolicy) (status : DaemonSetStatus)
    {daemon : ManagedDaemon} (hdaemon : daemon ∈ sampleReconciler.daemons sampleConfig.spec) :
    (sampleDaemonSets clusterPolicy status).lookup (daemon.key sampleReconciler.namespace_) =
      some { createdDaemonSet .kubernetes sampleConfig (daemon.buildDaemonSet
        (sampleReconciler.buildOptions sampleConfig.spec clusterPolicy)) with
          status := status } := by
  unfold sampleDaemonSets
  rcases List.mem_pair.mp hdaemon with rfl | rfl
  · rw [Reconciler.daemons, buildDaemons, List.foldr_cons, FiniteMap.lookup_insert, if_pos rfl]
  · rw [Reconciler.daemons, buildDaemons, List.foldr_cons, FiniteMap.lookup_insert,
      if_neg (by decide), List.foldr_cons, FiniteMap.lookup_insert, if_pos rfl]

def settledCluster (policy : Json) : Cluster :=
  { freshCluster policy with daemonSets := sampleDaemonSets ⟨some policy, none⟩ ⟨0, 0, 0⟩ }

theorem specOf_settledCluster (policy : Json) {daemon : ManagedDaemon}
    (hdaemon : daemon ∈ sampleReconciler.daemons sampleConfig.spec) :
    (settledCluster policy).specOf sampleReconciler daemon =
      some (SpecDefaults.kubernetes.apply
        (sampleReconciler.builtSpec sampleConfig.spec ⟨some policy, none⟩ daemon)) := by
  have hlookup := lookup_sampleDaemonSets ⟨some policy, none⟩ ⟨0, 0, 0⟩ hdaemon
  exact congrArg (Option.map DaemonSet.spec) hlookup

/-- Once both daemons are rolled out, the verdict is all that is left to publish. -/
theorem rollout_held_back_iff_settled :
    (∀ daemon ∈ sampleReconciler.daemons sampleConfig.spec,
      (sampleReconciler.reconcile Env.undisturbed (settledCluster oldToolkitPolicy)).1.specOf
          sampleReconciler daemon =
        (settledCluster oldToolkitPolicy).specOf sampleReconciler daemon) ∧
      (sampleReconciler.reconcile Env.undisturbed (settledCluster oldToolkitPolicy)).1.NotReadyFor
        reasonGPUOperandVersionUnsupported := by
  have hconfig : (settledCluster oldToolkitPolicy).config = some sampleConfig := rfl
  have hcalls : Env.undisturbed.OnlyVersionsFail := fun _ _ => rfl
  have hfailure := versionFailure_oldToolkit
  exact ((rollout_held_back_iff hconfig hcalls hfailure (by decide)).2 rfl).mpr
    fun daemon hdaemon => .inl ⟨_, lookup_sampleDaemonSets _ _ hdaemon, .inr rfl⟩

end VersionGate

section FailedRead

theorem SpecDefaults.args (defaults : SpecDefaults) (spec : DaemonSetSpec) :
    (defaults.apply spec).template.spec.containers.map Container.args =
      spec.template.spec.containers.map Container.args := by
  have hkept := defaults.containers spec
  generalize (defaults.apply spec).template.spec.containers = stored,
    spec.template.spec.containers = ctrs at hkept ⊢
  induction hkept with
  | nil => rfl
  | cons hctr _ ih => rw [List.map_cons, List.map_cons, hctr.args, ih]

/-- The daemons ask for the GPU in another way when the NRI plugin is enabled, and no defaults
hide it. -/
theorem ManagedDaemon.buildDaemonSet_ne (daemon : ManagedDaemon) {opts opts' : BuildOptions}
    (hopts : opts.nriPluginEnabled = false) (hopts' : opts'.nriPluginEnabled = true)
    (defaults defaults' : SpecDefaults) :
    defaults.apply (daemon.buildDaemonSet opts).spec ≠
      defaults'.apply (daemon.buildDaemonSet opts').spec := by
  intro hsame
  cases daemon with
  | fractiond daemon =>
    have hargs : ∀ o, ((daemon.buildDaemonSet o).spec.template.spec.containers.map
        Container.args).head? = some (daemon.buildArgs o) := by
      intro o
      unfold FractiondDaemon.Daemon.buildDaemonSet
      cases daemon.metricsEnabled <;> rfl
    have hflags : daemon.buildArgs opts = daemon.buildArgs opts' := by
      have hboth := congrArg (fun spec : DaemonSetSpec =>
        (spec.template.spec.containers.map Container.args).head?) hsame
      simp only [defaults.args, defaults'.args] at hboth
      exact Option.some.inj (((hargs opts).symm.trans hboth).trans (hargs opts'))
    have hflag := congrArg (fun args : List String => args[1]?) hflags
    simp only [FractiondDaemon.Daemon.buildArgs, hopts, hopts', List.cons_append,
      List.getElem?_cons_succ, List.getElem?_cons_zero] at hflag
    exact absurd hflag (by decide)
  | mpsd daemon =>
    have hannotations := congrArg (fun spec : DaemonSetSpec => spec.template.annotations) hsame
    simp only [defaults.annotations, defaults'.annotations] at hannotations
    change setManagementCDIDevice ∅ MpsdDaemon.daemonName opts.nriPluginEnabled =
      setManagementCDIDevice ∅ MpsdDaemon.daemonName opts'.nriPluginEnabled at hannotations
    rw [hopts, hopts'] at hannotations
    exact absurd hannotations (by decide)

/-- What is stored has its defaults, so a spec for the other path is an update. -/
theorem not_specKept_of_ne {env : Env} {config : GpuFractioningConfig}
    {desired : DesiredDaemonSet} {ds : DaemonSet} {defaults : SpecDefaults} {spec : DaemonSetSpec}
    (hds : ds.spec = defaults.apply spec)
    (hne : ∀ d d' : SpecDefaults, d.apply desired.spec ≠ d'.apply spec) :
    ¬ SpecKept env config desired ds := by
  rintro (hsame | hspec)
  · have happlied : defaults.apply ds.spec = ds.spec := by rw [hds, defaults.apply_apply]
    rw [spec_of_mutate _ _ hsame] at hds happlied
    exact hne defaults defaults (happlied.trans hds)
  · exact hne env.defaults defaults (hspec.trans hds)

variable (r : Reconciler) (spec : GpuFractioningConfigSpec)

theorem buildOptions_of_disabled {clusterPolicy : ClusterPolicy}
    (h : clusterPolicy.nriPluginEnabled = false) :
    r.buildOptions spec clusterPolicy = r.buildOptions spec ⟨none, none⟩ := by
  unfold Reconciler.buildOptions
  rw [h]
  rfl

theorem buildOptions_nriPluginEnabled (clusterPolicy : ClusterPolicy) :
    (r.buildOptions spec clusterPolicy).nriPluginEnabled = clusterPolicy.nriPluginEnabled := by
  unfold Reconciler.buildOptions
  cases clusterPolicy.nriPluginEnabled <;> rfl

theorem nriPluginEnabled_of_failedRead {env : Env} {message : String}
    (hfails : env.fails .listClusterPolicies = some message) {c : Cluster} :
    (readClusterPolicy env c).nriPluginEnabled = false := by
  unfold readClusterPolicy Env.list
  rw [hfails]
  rfl

theorem builtSpec_of_failedRead {env : Env} {message : String}
    (hfails : env.fails .listClusterPolicies = some message) (c : Cluster)
    (daemon : ManagedDaemon) :
    r.builtSpec spec (readClusterPolicy env c) daemon = r.builtSpec spec ⟨none, none⟩ daemon := by
  unfold Reconciler.builtSpec
  rw [buildOptions_of_disabled _ _ (nriPluginEnabled_of_failedRead hfails)]

variable {r} {env₁ env₂ : Env} {c₁ c₂ : Cluster} {config : GpuFractioningConfig}
  {message : String}

/-- A failed read after a reconcile that rolled the daemons out: nothing changes unless
the ClusterPolicy had the NRI plugin enabled. If it had, every DaemonSet that is
written falls back to the RuntimeClass path, which is another spec. -/
theorem failed_read_falls_back (hdefaults : env₂.defaults = env₁.defaults)
    (hwrote : ∀ daemon ∈ r.daemons config.spec, (r.reconcile env₁ c₁).1.specOf r daemon =
      some (env₁.defaults.apply (r.builtSpec config.spec (readClusterPolicy env₁ c₁) daemon)))
    (hspecs : ∀ daemon ∈ r.daemons config.spec,
      c₂.specOf r daemon = (r.reconcile env₁ c₁).1.specOf r daemon)
    (hconfig : c₂.config = some config)
    (hfails : env₂.fails .listClusterPolicies = some message) :
    ∀ daemon ∈ r.daemons config.spec,
      ((readClusterPolicy env₁ c₁).nriPluginEnabled = false →
        (r.reconcile env₂ c₂).1.specOf r daemon = (r.reconcile env₁ c₁).1.specOf r daemon) ∧
      ((readClusterPolicy env₁ c₁).nriPluginEnabled = true →
        some (env₂.defaults.apply (r.builtSpec config.spec ⟨none, none⟩ daemon)) ≠
          (r.reconcile env₁ c₁).1.specOf r daemon ∧
        ((r.reconcile env₂ c₂).1.specOf r daemon = (r.reconcile env₁ c₁).1.specOf r daemon ∨
          (r.reconcile env₂ c₂).1.specOf r daemon =
            some (env₂.defaults.apply (r.builtSpec config.spec ⟨none, none⟩ daemon))) ∧
        (config.deleting = false → env₂.Writes daemon →
          (c₂.daemonSets.lookup (daemon.key r.namespace_)).any (ownedByOther config) = false →
          (r.reconcile env₂ c₂).1.specOf r daemon =
            some (env₂.defaults.apply (r.builtSpec config.spec ⟨none, none⟩ daemon)))) := by
  intro daemon hdaemon
  have hsecond := specOf_reconcile r env₂ hconfig hdaemon
  rw [builtSpec_of_failedRead r _ hfails, hspecs daemon hdaemon] at hsecond
  refine ⟨fun hdisabled => ?_, fun henabled => ⟨?_, hsecond, ?_⟩⟩
  · rcases hsecond with hsame | hbuilt
    · exact hsame
    · rw [hbuilt, hwrote daemon hdaemon, hdefaults, Reconciler.builtSpec, Reconciler.builtSpec,
        buildOptions_of_disabled r _ hdisabled]
  · rw [hwrote daemon hdaemon, Ne, Option.some_inj]
    exact daemon.buildDaemonSet_ne (buildOptions_nriPluginEnabled r _ _)
      ((buildOptions_nriPluginEnabled r _ _).trans henabled) _ _
  · intro hlive hwrites howner
    obtain hset | ⟨ds, hstored, hsame, -⟩ :=
      specOf_reconcile_of_writes r env₂ hconfig hlive hdaemon hwrites howner
    · rw [hset, builtSpec_of_failedRead r _ hfails]
    · have hbefore := (hspecs daemon hdaemon).trans (hwrote daemon hdaemon)
      rw [Cluster.specOf, hstored] at hbefore
      have hkept : SpecKept env₂ config (r.desired env₂ c₂ config daemon) ds := .inl hsame
      refine absurd hkept (not_specKept_of_ne (Option.some.inj hbefore) ?_)
      intro d d'
      refine daemon.buildDaemonSet_ne ?_ ((buildOptions_nriPluginEnabled r _ _).trans henabled) d d'
      exact (buildOptions_nriPluginEnabled r _ _).trans (nriPluginEnabled_of_failedRead hfails)

def nriPolicy : Json :=
  .object [("spec", .object [("cdi", .object [("nriPluginEnabled", .bool true)])])]

/-- The read of the ClusterPolicy fails, all other calls succeed. -/
def unreadablePolicy : Env :=
  { Env.undisturbed with
    fails := fun call => if call = .listClusterPolicies then some "timeout" else none }

theorem specOf_first_reconcile {daemon : ManagedDaemon}
    (hdaemon : daemon ∈ sampleReconciler.daemons sampleConfig.spec) :
    (sampleReconciler.reconcile Env.undisturbed (freshCluster nriPolicy)).1.specOf sampleReconciler
        daemon =
      some (SpecDefaults.kubernetes.apply
        (sampleReconciler.builtSpec sampleConfig.spec ⟨some nriPolicy, none⟩ daemon)) := by
  have hconfig : (freshCluster nriPolicy).config = some sampleConfig := rfl
  exact specOf_reconcile_of_absent sampleReconciler Env.undisturbed hconfig rfl hdaemon
    ⟨rfl, rfl, rfl, rfl⟩ rfl

/-- The second of two reconciles cannot read the ClusterPolicy, and mpsd is switched. -/
theorem failed_read_switches_mpsd :
    (readClusterPolicy unreadablePolicy
        (sampleReconciler.reconcile Env.undisturbed (freshCluster nriPolicy)).1).err ≠ none ∧
      (sampleReconciler.reconcile unreadablePolicy
          (sampleReconciler.reconcile Env.undisturbed (freshCluster nriPolicy)).1).1.specOf
            sampleReconciler sampleMpsd ≠
        (sampleReconciler.reconcile Env.undisturbed (freshCluster nriPolicy)).1.specOf
          sampleReconciler sampleMpsd := by
  refine ⟨Option.some_ne_none _, ?_⟩
  have hfirst : (freshCluster nriPolicy).config = some sampleConfig := rfl
  obtain ⟨config, hconfig, hlive, hname, hspec⟩ :=
    config_reconcile sampleReconciler Env.undisturbed hfirst rfl
  have hmem : sampleMpsd ∈ sampleReconciler.daemons config.spec := by
    rw [hspec]
    exact sampleMpsd_mem
  have howned : ((sampleReconciler.reconcile Env.undisturbed
      (freshCluster nriPolicy)).1.daemonSets.lookup
        (sampleMpsd.key sampleReconciler.namespace_)).any (ownedByOther config) = false := by
    have hname' : ownedByOther config = ownedByOther sampleConfig := by
      funext ds
      rw [ownedByOther, ownedByOther, hname]
    rw [hname']
    rfl
  rw [Ne, specOf_reconcile_eq_iff sampleReconciler unreadablePolicy hconfig hlive hmem
    ⟨rfl, rfl, rfl, rfl⟩, howned, not_or]
  refine ⟨?_, Bool.false_ne_true⟩
  rintro ⟨ds, hstored, hkept⟩
  have hspec' := specOf_first_reconcile sampleMpsd_mem
  rw [Cluster.specOf, hstored] at hspec'
  refine not_specKept_of_ne (Option.some.inj hspec') ?_ hkept
  exact sampleMpsd.buildDaemonSet_ne (buildOptions_nriPluginEnabled _ _ _) rfl

/-- The same, of a cluster that looks as the first reconcile left it. -/
theorem failed_read_falls_back_nri :
    (sampleReconciler.reconcile unreadablePolicy (settledCluster nriPolicy)).1.specOf
        sampleReconciler sampleMpsd =
      some (SpecDefaults.kubernetes.apply
        (sampleReconciler.builtSpec sampleConfig.spec ⟨none, none⟩ sampleMpsd)) := by
  have hspecs : ∀ daemon ∈ sampleReconciler.daemons sampleConfig.spec,
      (settledCluster nriPolicy).specOf sampleReconciler daemon =
        (sampleReconciler.reconcile Env.undisturbed (freshCluster nriPolicy)).1.specOf
          sampleReconciler daemon := by
    intro daemon hdaemon
    rw [specOf_settledCluster nriPolicy hdaemon, specOf_first_reconcile hdaemon]
  have hconfig : (settledCluster nriPolicy).config = some sampleConfig := rfl
  have hfails : unreadablePolicy.fails .listClusterPolicies = some "timeout" := rfl
  have hdefaults : unreadablePolicy.defaults = Env.undisturbed.defaults := rfl
  have hboth := failed_read_falls_back hdefaults
    (fun daemon hdaemon => specOf_first_reconcile hdaemon) hspecs hconfig hfails sampleMpsd
    sampleMpsd_mem
  have henabled : (readClusterPolicy Env.undisturbed (freshCluster nriPolicy)).nriPluginEnabled =
      true := rfl
  exact (hboth.2 henabled).2.2 rfl ⟨rfl, rfl, rfl, rfl⟩ (by decide)

end FailedRead

end GpuFractioning.Operator
