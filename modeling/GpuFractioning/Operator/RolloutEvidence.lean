import GpuFractioning.Operator.Rollout

/-!
# Status updates during a reconcile

The DaemonSet controller updates the status of a DaemonSet on its own time. An update
before the get of a DaemonSet might as well come before the reconcile, and one after
the re-fetch after it; one between get and write makes the write fail. What is left are
the updates between write and re-fetch, from which the daemon's health is read.
-/

namespace GpuFractioning.Operator

section Reports

/-- A status update of the DaemonSet controller, for a generation that has been written. -/
def DaemonSet.report (ds : DaemonSet) (status : DaemonSetStatus) : DaemonSet :=
  if 1 ≤ status.observedGeneration ∧ status.observedGeneration ≤ ds.generation then
    { ds with status := status }
  else ds

/-- The last of a sequence of updates, of which those for a generation not yet written
are none. -/
def lastReport (generation : ℤ) (reports : List DaemonSetStatus) : Option DaemonSetStatus :=
  (reports.filter fun report =>
    1 ≤ report.observedGeneration ∧ report.observedGeneration ≤ generation).getLast?

theorem foldl_report (reports : List DaemonSetStatus) (ds : DaemonSet) :
    reports.foldl DaemonSet.report ds =
      { ds with status := (lastReport ds.generation reports).getD ds.status } := by
  induction reports generalizing ds with
  | nil => rfl
  | cons report reports ih =>
    rw [List.foldl_cons, ih]
    unfold DaemonSet.report lastReport
    split_ifs with hvalid
    · simp [hvalid, List.getLast?_cons]
    · simp [hvalid]

theorem lastReport_le {generation : ℤ} {reports : List DaemonSetStatus} {report : DaemonSetStatus}
    (h : lastReport generation reports = some report) :
    report.observedGeneration ≤ generation := by
  have hmem := List.mem_of_getLast? h
  rw [List.mem_filter, decide_eq_true_iff] at hmem
  exact hmem.2.2

end Reports

section Amid

/-- `ReconcileDaemon`, with the status updates that arrive between write and re-fetch. -/
def reconcileDaemonAmid (env : Env) (reports : List DaemonSetStatus)
    (config : GpuFractioningConfig) (daemon : ManagedDaemon) (opts : BuildOptions)
    (stored : Option DaemonSet) : Option DaemonSet × Except String DaemonHealth :=
  let desired := daemon.buildDaemonSet opts
  let dsKey := desired.namespace_ ++ "/" ++ desired.name
  let unread (message : String) : Except String DaemonHealth :=
    .error ("fetching DaemonSet status for " ++ dsKey ++ ": " ++ message)
  match createOrUpdate env config daemon.name desired stored with
  | (stored, some err) =>
    (stored.map (reports.foldl DaemonSet.report),
      .error ("create-or-update DaemonSet " ++ dsKey ++ ": " ++ err))
  | (stored, none) =>
    let stored := stored.map (reports.foldl DaemonSet.report)
    match env.fails (.refetchDaemonSet daemon.name) with
    | some message => (stored, unread message)
    | none =>
      match stored with
      | none => (stored, unread ApiError.notFound.message)
      | some ds => (stored, .ok (daemonSetHealth ds))

/-- The status updates of a reconcile, by the name of the daemon. -/
abbrev Arrivals := String → List DaemonSetStatus

def Progress.reconcileDaemonAmid (env : Env) (arrivals : Arrivals) (config : GpuFractioningConfig)
    (opts : BuildOptions) (p : Progress) (daemon : ManagedDaemon) : Progress :=
  let key := daemon.key opts.namespace_
  let (stored, outcome) := Operator.reconcileDaemonAmid env (arrivals daemon.name) config daemon
    opts (p.cluster.daemonSets.lookup key)
  let (health, reconcileErr) := reported outcome
  { cluster := p.cluster.putDaemonSet key stored
    conditions :=
      setCondition
        (daemonHealthToCondition daemon.name health config.generation reconcileErr
          (env.now (.refetchDaemonSet daemon.name)))
        p.conditions
    needsRequeue :=
      p.needsRequeue || reconcileErr.isSome || health.readyNodes < health.desiredNodes }

/-- The reconcile of a live resource, status updates included. -/
def Reconciler.reconcileLiveAmid (r : Reconciler) (env : Env) (arrivals : Arrivals) (c : Cluster)
    (config : GpuFractioningConfig) : Cluster × Except String Result :=
  let wasUnhealthy := !isConditionTrue config.status.conditions conditionReady
  let clusterPolicy := readClusterPolicy env c
  let p := (r.daemons config.spec).foldl
    (Progress.reconcileDaemonAmid env arrivals config (r.buildOptions config.spec clusterPolicy))
    ⟨c, config.status.conditions, false⟩
  let p := Reconciler.noteDriverUpgrade env config (r.checkDependencies env config clusterPolicy p)
  Reconciler.updateStatus env config (r.patchNodes env wasUnhealthy p)

/-- `Reconcile`, status updates included. -/
def Reconciler.reconcileAmid (r : Reconciler) (env : Env) (arrivals : Arrivals) (c : Cluster) :
    Cluster × Except String Result :=
  match env.fails .getConfig with
  | some message => (c, .error ("unable to fetch GpuFractioningConfig: " ++ message))
  | none =>
    match c.config with
    | none => (c, .ok .done)
    | some config =>
      if config.deleting then Reconciler.reconcileDelete env c config
      else
        match Reconciler.addFinalizer env config with
        | .error err => (c, .error err)
        | .ok config => r.reconcileLiveAmid env arrivals { c with config := some config } config

theorem reconcileDaemonAmid_nil (env : Env) (config : GpuFractioningConfig)
    (daemon : ManagedDaemon) (opts : BuildOptions) (stored : Option DaemonSet) :
    reconcileDaemonAmid env [] config daemon opts stored =
      reconcileDaemon env config daemon opts stored := by
  unfold reconcileDaemonAmid reconcileDaemon
  dsimp only
  cases createOrUpdate env config daemon.name (daemon.buildDaemonSet opts) stored with
  | mk written err =>
    cases err with
    | some err => cases written <;> rfl
    | none => cases env.fails (.refetchDaemonSet daemon.name) <;> cases written <;> rfl

theorem reconcileLiveAmid_of_no_arrivals (r : Reconciler) (env : Env) (c : Cluster)
    (config : GpuFractioningConfig) :
    r.reconcileLiveAmid env (fun _ => []) c config = r.reconcileLive env c config := by
  have hturn (opts : BuildOptions) :
      Progress.reconcileDaemonAmid env (fun _ => []) config opts =
        Progress.reconcileDaemon env config opts := by
    funext p daemon
    unfold Progress.reconcileDaemonAmid Progress.reconcileDaemon
    simp only [reconcileDaemonAmid_nil]
  unfold Reconciler.reconcileLiveAmid Reconciler.reconcileLive Reconciler.evaluate
    Reconciler.reconcileDaemons
  simp only [hturn]

theorem reconcileAmid_of_no_arrivals (r : Reconciler) (env : Env) (c : Cluster) :
    r.reconcileAmid env (fun _ => []) c = r.reconcile env c := by
  unfold Reconciler.reconcileAmid Reconciler.reconcile
  cases env.fails .getConfig with
  | some message => rfl
  | none =>
    cases c.config with
    | none => rfl
    | some config =>
      dsimp only
      by_cases hdeleting : config.deleting = true
      · rw [if_pos hdeleting, if_pos hdeleting]
      · rw [if_neg hdeleting, if_neg hdeleting]
        cases Reconciler.addFinalizer env config with
        | error err => rfl
        | ok config' => exact reconcileLiveAmid_of_no_arrivals r env _ config'

end Amid

section Turn

variable (env : Env) (config : GpuFractioningConfig) (desired : DesiredDaemonSet)
  (stored : Option DaemonSet)

/-- The generation once the desired spec is written. -/
def generationAfter : ℤ :=
  match stored with
  | none => 1
  | some ds => if SpecKept env config desired ds then ds.generation else ds.generation + 1

/-- The calls up to the re-fetch succeed: nothing fails, a write only if one is needed. -/
structure DaemonWritten (daemonName : String) : Prop where
  getDaemonSet : env.fails (.getDaemonSet daemonName) = none
  owner : stored.any (ownedByOther config) = false
  writeDaemonSet : env.fails (.writeDaemonSet daemonName) = none ∨
    ∃ ds, stored = some ds ∧ mutate config desired ds = .ok ds

variable {env config desired stored} {daemonName : String}

theorem createOrUpdate_of_written (h : DaemonWritten env config desired stored daemonName) :
    ∃ ds, createOrUpdate env config daemonName desired stored = (some ds, none) ∧
      ds.generation = generationAfter env config desired stored ∧
      ds.status = daemonSetStatus stored := by
  unfold createOrUpdate
  simp only [h.getDaemonSet]
  cases stored with
  | none =>
    rcases h.writeDaemonSet with hwrite | ⟨ds, hds, -⟩
    · simp only [hwrite]
      exact ⟨_, rfl, rfl, rfl⟩
    · exact absurd hds (by simp)
  | some existing =>
    have howner : ownedByOther config existing = false := h.owner
    simp only [mutate, howner, Bool.false_eq_true, if_false]
    by_cases hsame : { existing with
        labels := desired.labels
        spec := desired.spec
        controller := some ⟨config.name, config.uid⟩ } = existing
    · rw [if_pos hsame]
      refine ⟨existing, rfl, ?_, rfl⟩
      have hkept : SpecKept env config desired existing := by
        left
        rw [mutate, if_neg (by simp [howner]), hsame]
      simp [generationAfter, hkept]
    · rw [if_neg hsame]
      have hwrite : env.fails (.writeDaemonSet daemonName) = none := by
        rcases h.writeDaemonSet with hwrite | ⟨ds, hds, hmutate⟩
        · exact hwrite
        · rw [Option.some.injEq] at hds
          rw [← hds, mutate, if_neg (by simp [howner])] at hmutate
          exact absurd (Except.ok.inj hmutate) hsame
      simp only [hwrite]
      refine ⟨_, rfl, ?_, rfl⟩
      have hkept : SpecKept env config desired existing ↔
          env.defaults.apply desired.spec = existing.spec := by
        unfold SpecKept
        rw [mutate, if_neg (by simp [howner]), Except.ok.injEq, or_iff_right hsame]
      simp only [updatedDaemonSet, generationAfter, hkept]

theorem written_of_createOrUpdate
    (h : (createOrUpdate env config daemonName desired stored).2 = none) :
    DaemonWritten env config desired stored daemonName := by
  obtain ⟨hget, howner, -⟩ := createOrUpdate_succeeds _ _ _ _ _ h
  refine ⟨hget, howner, ?_⟩
  by_contra hwrite
  rw [not_or] at hwrite
  obtain ⟨message, hmessage⟩ := Option.ne_none_iff_exists'.mp hwrite.1
  unfold createOrUpdate at h
  simp only [hget, hmessage] at h
  cases stored with
  | none => exact absurd h (by simp)
  | some existing =>
    have howner' : ownedByOther config existing = false := howner
    simp only [mutate, howner', Bool.false_eq_true, if_false] at h
    split_ifs at h with hsame
    refine hwrite.2 ⟨existing, rfl, ?_⟩
    rw [mutate, if_neg (by simp [howner']), hsame]

variable {daemon : ManagedDaemon} {opts : BuildOptions} {reports : List DaemonSetStatus}

/-- The status the re-fetch of a written DaemonSet returns. -/
def statusAtRefetch (env : Env) (config : GpuFractioningConfig)
    (desired : DesiredDaemonSet) (stored : Option DaemonSet)
    (reports : List DaemonSetStatus) : DaemonSetStatus :=
  (lastReport (generationAfter env config desired stored) reports).getD (daemonSetStatus stored)

/-- All pods are ready, or there are none to wait for. -/
def DaemonSetStatus.Complete (status : DaemonSetStatus) : Prop :=
  status.desiredNumberScheduled = 0 ∨ status.numberReady = status.desiredNumberScheduled

/-- The re-fetch reads the status in place, on the generation just written. -/
theorem reconcileDaemonAmid_of_written (reports : List DaemonSetStatus)
    (h : DaemonWritten env config (daemon.buildDaemonSet opts) stored daemon.name)
    (hrefetch : env.fails (.refetchDaemonSet daemon.name) = none) :
    ∃ ds, reconcileDaemonAmid env reports config daemon opts stored =
        (some ds, .ok (daemonSetHealth ds)) ∧
      ds.generation = generationAfter env config (daemon.buildDaemonSet opts) stored ∧
      ds.status = statusAtRefetch env config (daemon.buildDaemonSet opts) stored reports := by
  obtain ⟨ds, hds, hgeneration, hstatus⟩ := createOrUpdate_of_written h
  refine ⟨reports.foldl DaemonSet.report ds, ?_, ?_, ?_⟩
  · unfold reconcileDaemonAmid
    simp only [hds, hrefetch, Option.map_some]
  · rw [foldl_report]
    exact hgeneration
  · rw [foldl_report, statusAtRefetch, ← hgeneration, ← hstatus]

theorem written_of_reconcileDaemonAmid {health : DaemonHealth}
    (h : (reconcileDaemonAmid env reports config daemon opts stored).2 = .ok health) :
    DaemonWritten env config (daemon.buildDaemonSet opts) stored daemon.name ∧
      env.fails (.refetchDaemonSet daemon.name) = none := by
  unfold reconcileDaemonAmid at h
  dsimp only at h
  obtain ⟨err, hcreate⟩ | ⟨ds, hcreate, -⟩ :=
    createOrUpdate_cases env config daemon.name (daemon.buildDaemonSet opts) stored
  · rw [hcreate] at h
    exact absurd h (by simp)
  · refine ⟨written_of_createOrUpdate (by rw [hcreate]), ?_⟩
    rw [hcreate] at h
    cases hrefetch : env.fails (.refetchDaemonSet daemon.name) with
    | none => rfl
    | some message =>
      simp only [hrefetch] at h
      exact absurd h (by simp)

/-- The condition of the daemon is true exactly when the calls succeed and the status at
the re-fetch is complete, whatever generation it is about. -/
theorem status_daemonConditionAmid :
    (daemonCondition env config daemon
        (reconcileDaemonAmid env reports config daemon opts stored).2).status = .conditionTrue ↔
      DaemonWritten env config (daemon.buildDaemonSet opts) stored daemon.name ∧
        env.fails (.refetchDaemonSet daemon.name) = none ∧
        (statusAtRefetch env config (daemon.buildDaemonSet opts) stored reports).Complete := by
  unfold daemonCondition
  rw [status_daemonHealthToCondition]
  constructor
  · rintro ⟨herr, hhealth⟩
    cases houtcome : (reconcileDaemonAmid env reports config daemon opts stored).2 with
    | error err =>
      rw [houtcome] at herr
      exact absurd herr (by simp [reported])
    | ok health =>
      obtain ⟨hwritten, hrefetch⟩ := written_of_reconcileDaemonAmid houtcome
      obtain ⟨ds, hds, -, hstatus⟩ := reconcileDaemonAmid_of_written reports hwritten hrefetch
      refine ⟨hwritten, hrefetch, ?_⟩
      rw [hds] at hhealth
      rw [← hstatus]
      exact hhealth
  · rintro ⟨hwritten, hrefetch, hcomplete⟩
    obtain ⟨ds, hds, -, hstatus⟩ := reconcileDaemonAmid_of_written reports hwritten hrefetch
    rw [← hstatus] at hcomplete
    rw [hds]
    exact ⟨rfl, hcomplete⟩

end Turn

section Loop

variable {env : Env} {arrivals : Arrivals} {config : GpuFractioningConfig} {opts : BuildOptions}

/-- The reconcile of a daemon on what the cluster stores for it. -/
def Cluster.outcomeAmid (c : Cluster) (env : Env) (arrivals : Arrivals)
    (config : GpuFractioningConfig) (opts : BuildOptions) (daemon : ManagedDaemon) :
    Option DaemonSet × Except String DaemonHealth :=
  reconcileDaemonAmid env (arrivals daemon.name) config daemon opts
    (c.daemonSets.lookup (daemon.key opts.namespace_))

theorem reconcileDaemonAmid_fst (reports : List DaemonSetStatus) (daemon : ManagedDaemon)
    (stored : Option DaemonSet) :
    (reconcileDaemonAmid env reports config daemon opts stored).1 =
      (createOrUpdate env config daemon.name (daemon.buildDaemonSet opts) stored).1.map
        (reports.foldl DaemonSet.report) := by
  unfold reconcileDaemonAmid
  dsimp only
  split
  · next hcreate => rw [hcreate]
  · next hcreate =>
    rw [hcreate]
    split
    · rfl
    · split <;> rfl

theorem reconcileDaemonAmid_eq_none {reports : List DaemonSetStatus} {daemon : ManagedDaemon}
    {stored : Option DaemonSet}
    (h : (reconcileDaemonAmid env reports config daemon opts stored).1 = none) : stored = none := by
  rw [reconcileDaemonAmid_fst, Option.map_eq_none_iff] at h
  obtain ⟨err, hcreate⟩ | ⟨ds, hcreate, -⟩ :=
    createOrUpdate_cases env config daemon.name (daemon.buildDaemonSet opts) stored
  · rw [hcreate] at h
    exact h
  · rw [hcreate] at h
    exact absurd h (by simp)

theorem turnAmid (env : Env) (arrivals : Arrivals) (config : GpuFractioningConfig)
    (opts : BuildOptions) (p : Progress) (daemon : ManagedDaemon) :
    (∀ key, (p.reconcileDaemonAmid env arrivals config opts daemon).cluster.daemonSets.lookup key =
      if key = daemon.key opts.namespace_ then
        (p.cluster.outcomeAmid env arrivals config opts daemon).1
      else p.cluster.daemonSets.lookup key) ∧
    ∀ condType,
      statusOf (p.reconcileDaemonAmid env arrivals config opts daemon).conditions condType =
        if daemon.condType = condType then
          some (daemonCondition env config daemon
            (p.cluster.outcomeAmid env arrivals config opts daemon).2).status
        else statusOf p.conditions condType := by
  refine ⟨?_, ?_⟩
  · exact lookup_putDaemonSet (p.cluster.outcomeAmid env arrivals config opts daemon).1 p.cluster
      (daemon.key opts.namespace_) reconcileDaemonAmid_eq_none
  · intro condType
    have hcond := statusOf_setCondition (daemonCondition env config daemon
      (p.cluster.outcomeAmid env arrivals config opts daemon).2) p.conditions condType
    rw [type_daemonCondition] at hcond
    exact hcond

/-- The loop treats every daemon as if it were the only one. -/
theorem loopAmid (env : Env) (arrivals : Arrivals) (config : GpuFractioningConfig)
    {opts : BuildOptions} {daemons : List ManagedDaemon} (hapart : daemons.Pairwise (Apart opts))
    (p : Progress) :
    let p' := daemons.foldl (Progress.reconcileDaemonAmid env arrivals config opts) p
    (∀ daemon ∈ daemons,
      p'.cluster.daemonSets.lookup (daemon.key opts.namespace_) =
          (p.cluster.outcomeAmid env arrivals config opts daemon).1 ∧
        statusOf p'.conditions daemon.condType = some (daemonCondition env config daemon
          (p.cluster.outcomeAmid env arrivals config opts daemon).2).status) ∧
    (∀ key, (∀ daemon ∈ daemons, daemon.key opts.namespace_ ≠ key) →
      p'.cluster.daemonSets.lookup key = p.cluster.daemonSets.lookup key) ∧
    ∀ condType, (∀ daemon ∈ daemons, daemon.condType ≠ condType) →
      statusOf p'.conditions condType = statusOf p.conditions condType := by
  induction daemons generalizing p with
  | nil => simp
  | cons daemon daemons ih =>
    rw [List.pairwise_cons] at hapart
    obtain ⟨hstored, hcond⟩ := turnAmid env arrivals config opts p daemon
    obtain ⟨hdaemons, hkeys, hconds⟩ := ih hapart.2
      (p.reconcileDaemonAmid env arrivals config opts daemon)
    refine ⟨List.forall_mem_cons.mpr ⟨⟨?_, ?_⟩, ?_⟩, ?_, ?_⟩
    · rw [List.foldl_cons, hkeys _ fun d hd => (hapart.1 d hd).1.symm, hstored, if_pos rfl]
    · rw [List.foldl_cons, hconds _ fun d hd => (hapart.1 d hd).2.symm, hcond, if_pos rfl]
    · intro daemon' hdaemon'
      have houtcome : (p.reconcileDaemonAmid env arrivals config opts daemon).cluster.outcomeAmid
          env arrivals config opts daemon' =
            p.cluster.outcomeAmid env arrivals config opts daemon' := by
        unfold Cluster.outcomeAmid
        rw [hstored, if_neg (hapart.1 daemon' hdaemon').1.symm]
      rw [← houtcome]
      exact hdaemons daemon' hdaemon'
    · intro key hkey
      rw [List.forall_mem_cons] at hkey
      rw [List.foldl_cons, hkeys key hkey.2, hstored, if_neg hkey.1.symm]
    · intro condType hcondType
      rw [List.forall_mem_cons] at hcondType
      rw [List.foldl_cons, hconds condType hcondType.2, hcond, if_neg hcondType.1]

end Loop

section Call

variable (r : Reconciler) (env : Env) (arrivals : Arrivals) (c : Cluster)
  (config : GpuFractioningConfig)

theorem statusOf_afterLoop (clusterPolicy : ClusterPolicy) (p : Progress)
    (daemon : ManagedDaemon) :
    statusOf (Reconciler.noteDriverUpgrade env config
        (r.checkDependencies env config clusterPolicy p)).conditions daemon.condType =
      statusOf p.conditions daemon.condType := by
  obtain ⟨hready, hupgrade⟩ := daemon.condType_isComponent
  refine (find?_noteDriverUpgrade env config Condition.status (fun _ _ => rfl) _
    hupgrade.symm).trans ?_
  refine (statusOf_setCondition _ p.conditions daemon.condType).trans (if_neg ?_)
  rw [type_check _ _ _ _ _ _ _ _ (type_aggregateReadyCondition _ _ _)]
  exact hready.symm

theorem daemonSets_afterLoop (clusterPolicy : ClusterPolicy) (wasUnhealthy : Bool) (p : Progress) :
    (Reconciler.updateStatus env config (r.patchNodes env wasUnhealthy
      (Reconciler.noteDriverUpgrade env config
        (r.checkDependencies env config clusterPolicy p)))).1.daemonSets =
      p.cluster.daemonSets := by
  rw [updateStatus_daemonSets, (onlyConditions_patchNodes r env _ _).frame,
    (noteDriverUpgrade_frame env config _).1.frame, checkDependencies_cluster]

/-- The state after the loop of a reconcile amid status updates. -/
def Reconciler.afterDaemonsAmid : Progress :=
  (r.daemons config.spec).foldl
    (Progress.reconcileDaemonAmid env arrivals config (r.options env c config))
    ⟨c, config.status.conditions, false⟩

theorem reconcileLiveAmid_daemonSets :
    (r.reconcileLiveAmid env arrivals c config).1.daemonSets =
      (r.afterDaemonsAmid env arrivals c config).cluster.daemonSets :=
  daemonSets_afterLoop r env config _ _ _

theorem afterDaemonsAmid_spec {daemon : ManagedDaemon} (hdaemon : daemon ∈ r.daemons config.spec) :
    (r.afterDaemonsAmid env arrivals c config).cluster.daemonSets.lookup
        (daemon.key r.namespace_) =
      (c.outcomeAmid env arrivals config (r.options env c config) daemon).1 ∧
    statusOf (r.afterDaemonsAmid env arrivals c config).conditions daemon.condType =
      some (daemonCondition env config daemon
        (c.outcomeAmid env arrivals config (r.options env c config) daemon).2).status := by
  have hkey := r.buildOptions_namespace config.spec (readClusterPolicy env c)
  have hapart : (r.daemons config.spec).Pairwise (Apart (r.options env c config)) :=
    buildDaemons_apart _ _ _
  have hloop := (loopAmid env arrivals config hapart ⟨c, config.status.conditions, false⟩).1
    daemon hdaemon
  rw [← hkey]
  exact hloop

theorem statusOf_reconcileLiveAmid (hupdate : env.fails .updateStatus = none)
    (daemon : ManagedDaemon) :
    ∃ written, (r.reconcileLiveAmid env arrivals c config).1.config = some written ∧
      statusOf written.status.conditions daemon.condType =
        statusOf (r.afterDaemonsAmid env arrivals c config).conditions daemon.condType := by
  refine ⟨{ config with status := ⟨config.generation, (Reconciler.noteDriverUpgrade env config
    (r.checkDependencies env config (readClusterPolicy env c)
      (r.afterDaemonsAmid env arrivals c config))).conditions⟩ }, ?_, ?_⟩
  · unfold Reconciler.reconcileLiveAmid Reconciler.updateStatus
    simp only [hupdate, patchNodes_conditions]
    rfl
  · exact statusOf_afterLoop r env config _ _ daemon

/-- The calls that decide whether a status is written. -/
structure StatusWritten : Prop where
  getConfig : env.fails .getConfig = none
  addFinalizer : nodeConditionCleanupFinalizer ∈ config.finalizers ∨
    env.fails .addFinalizer = none
  updateStatus : env.fails .updateStatus = none

variable {c config}

theorem reconcileAmid_cases (hconfig : c.config = some config) (hlive : config.deleting = false) :
    (¬ StatusWritten env config ∧ ∃ err, (r.reconcileAmid env arrivals c).2 = .error err) ∨
      (StatusWritten env config ∧ ∃ config',
        config' = { config with finalizers := config'.finalizers } ∧
        r.reconcileAmid env arrivals c =
          r.reconcileLiveAmid env arrivals { c with config := some config' } config') := by
  unfold Reconciler.reconcileAmid
  cases hget : env.fails .getConfig with
  | some message =>
    exact .inl ⟨fun h => absurd h.getConfig (by simp [hget]), _, rfl⟩
  | none =>
    simp only [hconfig]
    rw [if_neg (by simp [hlive])]
    cases hfinalizer : Reconciler.addFinalizer env config with
    | error err =>
      refine .inl ⟨fun h => ?_, err, rfl⟩
      unfold Reconciler.addFinalizer at hfinalizer
      split_ifs at hfinalizer with hmem
      rw [h.addFinalizer.resolve_left hmem] at hfinalizer
      exact absurd hfinalizer (by simp)
    | ok config' =>
      have hadd : nodeConditionCleanupFinalizer ∈ config.finalizers ∨
          env.fails .addFinalizer = none := by
        unfold Reconciler.addFinalizer at hfinalizer
        split_ifs at hfinalizer with hmem
        · exact .inl hmem
        · cases hcall : env.fails .addFinalizer with
          | none => exact .inr rfl
          | some message => simp [hcall] at hfinalizer
      cases hupdate : env.fails .updateStatus with
      | none =>
        exact .inr ⟨⟨hget, hadd, hupdate⟩, config', addFinalizer_ok env hfinalizer, rfl⟩
      | some message =>
        refine .inl ⟨fun h => absurd h.updateStatus (by simp [hupdate]), ?_⟩
        dsimp only
        unfold Reconciler.reconcileLiveAmid Reconciler.updateStatus
        simp only [hupdate]
        exact ⟨_, rfl⟩

/-- The call publishes the daemon as ready; nothing after the re-fetch touches `ds`, so it
is what the health was read from. -/
structure Reconciler.Published (r : Reconciler) (env : Env) (arrivals : Arrivals) (c : Cluster)
    (daemon : ManagedDaemon) (ds : DaemonSet) : Prop where
  result : ∃ result, (r.reconcileAmid env arrivals c).2 = .ok result
  condition : ∃ written, (r.reconcileAmid env arrivals c).1.config = some written ∧
    statusOf written.status.conditions daemon.condType = some .conditionTrue
  fetched : (r.reconcileAmid env arrivals c).1.daemonSets.lookup (daemon.key r.namespace_) =
    some ds

/-- When the daemon is published as ready, in terms of the cluster before the call, the calls
that fail and the status updates. -/
structure Reconciler.Publishes (r : Reconciler) (env : Env) (arrivals : Arrivals) (c : Cluster)
    (config : GpuFractioningConfig) (daemon : ManagedDaemon) : Prop where
  statusWritten : StatusWritten env config
  written : DaemonWritten env config (r.desired env c config daemon)
    (c.daemonSets.lookup (daemon.key r.namespace_)) daemon.name
  refetch : env.fails (.refetchDaemonSet daemon.name) = none
  complete : (statusAtRefetch env config (r.desired env c config daemon)
    (c.daemonSets.lookup (daemon.key r.namespace_)) (arrivals daemon.name)).Complete

omit arrivals in
theorem daemonWritten_finalizers (finalizers : List String) {desired : DesiredDaemonSet}
    {stored : Option DaemonSet} {daemonName : String} :
    DaemonWritten env { config with finalizers := finalizers } desired stored daemonName ↔
      DaemonWritten env config desired stored daemonName :=
  ⟨fun h => ⟨h.getDaemonSet, h.owner, h.writeDaemonSet⟩,
    fun h => ⟨h.getDaemonSet, h.owner, h.writeDaemonSet⟩⟩

theorem reconcileLiveAmid_spec (c : Cluster) (config : GpuFractioningConfig)
    (hupdate : env.fails .updateStatus = none) {daemon : ManagedDaemon}
    (hdaemon : daemon ∈ r.daemons config.spec) :
    ((∃ written, (r.reconcileLiveAmid env arrivals c config).1.config = some written ∧
        statusOf written.status.conditions daemon.condType = some .conditionTrue) ↔
      DaemonWritten env config (r.desired env c config daemon)
          (c.daemonSets.lookup (daemon.key r.namespace_)) daemon.name ∧
        env.fails (.refetchDaemonSet daemon.name) = none ∧
        (statusAtRefetch env config (r.desired env c config daemon)
          (c.daemonSets.lookup (daemon.key r.namespace_)) (arrivals daemon.name)).Complete) ∧
    (r.reconcileLiveAmid env arrivals c config).1.daemonSets.lookup (daemon.key r.namespace_) =
      (reconcileDaemonAmid env (arrivals daemon.name) config daemon (r.options env c config)
        (c.daemonSets.lookup (daemon.key r.namespace_))).1 := by
  have hkey := r.buildOptions_namespace config.spec (readClusterPolicy env c)
  obtain ⟨hstored, hstatus⟩ := afterDaemonsAmid_spec r env arrivals c config hdaemon
  obtain ⟨written, hwritten, hsame⟩ :=
    statusOf_reconcileLiveAmid r env arrivals c config hupdate daemon
  have houtcome : c.outcomeAmid env arrivals config (r.options env c config) daemon =
      reconcileDaemonAmid env (arrivals daemon.name) config daemon (r.options env c config)
        (c.daemonSets.lookup (daemon.key r.namespace_)) := by
    rw [← hkey]
    rfl
  refine ⟨?_, ?_⟩
  · unfold Reconciler.desired
    rw [← status_daemonConditionAmid, ← houtcome]
    constructor
    · rintro ⟨written', hwritten', htrue⟩
      rw [← Option.some.inj (hwritten.symm.trans hwritten'), hsame, hstatus] at htrue
      exact Option.some.inj htrue
    · intro htrue
      exact ⟨written, hwritten, by rw [hsame, hstatus, htrue]⟩
  · rw [reconcileLiveAmid_daemonSets, hstored, houtcome]

/-- A daemon that is published as ready was read at the status and the generation that the
cluster before the call and the status updates determine. -/
theorem publishes_of_published (hconfig : c.config = some config) (hlive : config.deleting = false)
    {daemon : ManagedDaemon} (hdaemon : daemon ∈ r.daemons config.spec) {ds : DaemonSet}
    (h : r.Published env arrivals c daemon ds) :
    r.Publishes env arrivals c config daemon ∧
      ds.generation = generationAfter env config (r.desired env c config daemon)
        (c.daemonSets.lookup (daemon.key r.namespace_)) ∧
      ds.status = statusAtRefetch env config (r.desired env c config daemon)
        (c.daemonSets.lookup (daemon.key r.namespace_)) (arrivals daemon.name) := by
  obtain ⟨⟨result, hresult⟩, hcondition, hfetched⟩ := h
  obtain ⟨-, err, herr⟩ | ⟨hstatus, config', hsame, hreconcile⟩ :=
    reconcileAmid_cases r env arrivals hconfig hlive
  · rw [herr] at hresult
    exact absurd hresult (by simp)
  · rw [hreconcile, hsame] at hcondition hfetched
    obtain ⟨hiff, hlookup⟩ := reconcileLiveAmid_spec r env arrivals
      { c with config := some { config with finalizers := config'.finalizers } }
      { config with finalizers := config'.finalizers } hstatus.updateStatus hdaemon
    obtain ⟨hwritten, hrefetch, hcomplete⟩ := hiff.mp hcondition
    obtain ⟨ds', hds', hgeneration, hstatus'⟩ :=
      reconcileDaemonAmid_of_written (arrivals daemon.name) hwritten hrefetch
    have hds : ds = ds' := by
      rw [hlookup] at hfetched
      exact Option.some.inj (hfetched.symm.trans (congrArg Prod.fst hds'))
    rw [hds]
    exact ⟨⟨hstatus, (daemonWritten_finalizers env _).mp hwritten, hrefetch, hcomplete⟩,
      hgeneration, hstatus'⟩

theorem published_of_publishes (hconfig : c.config = some config) (hlive : config.deleting = false)
    {daemon : ManagedDaemon} (hdaemon : daemon ∈ r.daemons config.spec)
    (h : r.Publishes env arrivals c config daemon) :
    ∃ ds, r.Published env arrivals c daemon ds := by
  obtain ⟨hnot, -⟩ | ⟨hstatus, config', hsame, hreconcile⟩ :=
    reconcileAmid_cases r env arrivals hconfig hlive
  · exact absurd h.statusWritten hnot
  · obtain ⟨hiff, hlookup⟩ := reconcileLiveAmid_spec r env arrivals
      { c with config := some { config with finalizers := config'.finalizers } }
      { config with finalizers := config'.finalizers } hstatus.updateStatus hdaemon
    have hwritten := (daemonWritten_finalizers env config'.finalizers).mpr h.written
    obtain ⟨ds, hds, -⟩ :=
      reconcileDaemonAmid_of_written (arrivals daemon.name) hwritten h.refetch
    refine ⟨ds, ?_, ?_, ?_⟩
    · rw [hreconcile]
      unfold Reconciler.reconcileLiveAmid Reconciler.updateStatus
      simp only [hstatus.updateStatus]
      exact ⟨_, rfl⟩
    · rw [hreconcile, hsame]
      exact hiff.mpr ⟨hwritten, h.refetch, h.complete⟩
    · rw [hreconcile, hsame]
      exact hlookup.trans (congrArg Prod.fst hds)

end Call

section Runs

variable (r : Reconciler)

/-- What happens to the cluster: a status update of the DaemonSet controller, or a reconcile
with the updates that arrive during it. -/
inductive Action where
  | report (key : String × String) (status : DaemonSetStatus)
  | reconcile (env : Env) (arrivals : Arrivals)

def Reconciler.act (c : Cluster) : Action → Cluster
  | .report key status =>
    c.putDaemonSet key ((c.daemonSets.lookup key).map fun ds => ds.report status)
  | .reconcile env arrivals => (r.reconcileAmid env arrivals c).1

def Reconciler.run (c : Cluster) (actions : List Action) : Cluster := actions.foldl r.act c

/-- Every daemon the call publishes as ready was read on its current spec. -/
def Reconciler.PublishesOnEvidence (env : Env) (arrivals : Arrivals) (c : Cluster) : Prop :=
  ∀ config, c.config = some config → config.deleting = false →
    ∀ daemon ∈ r.daemons config.spec, ∀ ds, r.Published env arrivals c daemon ds →
      ds.status.observedGeneration = ds.generation

/-- The DaemonSet controller has caught up with the write: its last update before the re-fetch
is about the generation in place; if there is none since the write, nothing new was written
and the controller had caught up before. -/
def CaughtUp (env : Env) (config : GpuFractioningConfig) (desired : DesiredDaemonSet)
    (stored : Option DaemonSet) (reports : List DaemonSetStatus) : Prop :=
  match lastReport (generationAfter env config desired stored) reports with
  | some report => report.observedGeneration = generationAfter env config desired stored
  | none => ∃ ds, stored = some ds ∧ SpecKept env config desired ds ∧
      ds.status.observedGeneration = ds.generation

/-- Where the call is about to publish a daemon as ready, the DaemonSet controller has
caught up. -/
def Reconciler.ControllerKeepsUp (env : Env) (arrivals : Arrivals) (c : Cluster) : Prop :=
  ∀ config, c.config = some config → config.deleting = false →
    ∀ daemon ∈ r.daemons config.spec, r.Publishes env arrivals c config daemon →
      CaughtUp env config (r.desired env c config daemon)
        (c.daemonSets.lookup (daemon.key r.namespace_)) (arrivals daemon.name)

/-- No status is about a generation still to be written. -/
def Cluster.StatusesPast (c : Cluster) : Prop :=
  ∀ key ds, c.daemonSets.lookup key = some ds → ds.status.observedGeneration ≤ ds.generation

theorem caughtUp_iff {env : Env} {config : GpuFractioningConfig} {desired : DesiredDaemonSet}
    {stored : Option DaemonSet} {reports : List DaemonSetStatus}
    (hpast : ∀ ds, stored = some ds → ds.status.observedGeneration ≤ ds.generation) :
    CaughtUp env config desired stored reports ↔
      (statusAtRefetch env config desired stored reports).observedGeneration =
        generationAfter env config desired stored := by
  unfold CaughtUp statusAtRefetch
  cases lastReport (generationAfter env config desired stored) reports with
  | some report => rfl
  | none =>
    cases stored with
    | none => simp [generationAfter, daemonSetStatus]
    | some ds =>
      have hle := hpast ds rfl
      by_cases hspec : SpecKept env config desired ds
      · simp [generationAfter, daemonSetStatus, hspec]
      · simp only [Option.some.injEq, exists_eq_left', hspec, false_and, generationAfter, if_false,
          Option.getD_none, daemonSetStatus, false_iff]
        omega

theorem publishesOnEvidence_iff (env : Env) (arrivals : Arrivals) {c : Cluster}
    (hpast : c.StatusesPast) :
    r.PublishesOnEvidence env arrivals c ↔ r.ControllerKeepsUp env arrivals c := by
  constructor
  · intro h config hconfig hlive daemon hdaemon hpublishes
    obtain ⟨ds, hds⟩ := published_of_publishes r env arrivals hconfig hlive hdaemon hpublishes
    obtain ⟨-, hgeneration, hstatus⟩ :=
      publishes_of_published r env arrivals hconfig hlive hdaemon hds
    rw [caughtUp_iff (hpast _), ← hgeneration, ← hstatus]
    exact h config hconfig hlive daemon hdaemon ds hds
  · intro h config hconfig hlive daemon hdaemon ds hds
    obtain ⟨hpublishes, hgeneration, hstatus⟩ :=
      publishes_of_published r env arrivals hconfig hlive hdaemon hds
    rw [hgeneration, hstatus, ← caughtUp_iff (hpast _)]
    exact h config hconfig hlive daemon hdaemon hpublishes

theorem le_generationAfter {env : Env} {config : GpuFractioningConfig}
    {desired : DesiredDaemonSet} {stored : Option DaemonSet}
    (hpast : ∀ ds, stored = some ds → ds.status.observedGeneration ≤ ds.generation) :
    (daemonSetStatus stored).observedGeneration ≤ generationAfter env config desired stored := by
  cases stored with
  | none => simp [generationAfter, daemonSetStatus]
  | some ds =>
    have hle := hpast ds rfl
    simp only [generationAfter, daemonSetStatus]
    split_ifs <;> omega

theorem foldl_report_past (reports : List DaemonSetStatus) {ds : DaemonSet}
    (h : ds.status.observedGeneration ≤ ds.generation) :
    (reports.foldl DaemonSet.report ds).status.observedGeneration ≤
      (reports.foldl DaemonSet.report ds).generation := by
  rw [foldl_report]
  cases hlast : lastReport ds.generation reports with
  | none => exact h
  | some report => exact lastReport_le hlast

theorem reconcileDaemonAmid_past {env : Env} {reports : List DaemonSetStatus}
    {config : GpuFractioningConfig} {daemon : ManagedDaemon} {opts : BuildOptions}
    {stored : Option DaemonSet} {ds : DaemonSet}
    (hpast : ∀ ds, stored = some ds → ds.status.observedGeneration ≤ ds.generation)
    (h : (reconcileDaemonAmid env reports config daemon opts stored).1 = some ds) :
    ds.status.observedGeneration ≤ ds.generation := by
  rw [reconcileDaemonAmid_fst] at h
  obtain ⟨err, hcreate⟩ | ⟨ds', hcreate, -⟩ :=
    createOrUpdate_cases env config daemon.name (daemon.buildDaemonSet opts) stored
  · rw [hcreate] at h
    obtain ⟨existing, hexisting, rfl⟩ := Option.map_eq_some_iff.mp h
    exact foldl_report_past reports (hpast existing hexisting)
  · obtain ⟨written, hwritten, hgeneration, hstatus⟩ :=
      createOrUpdate_of_written (written_of_createOrUpdate (by rw [hcreate]))
    rw [hwritten, Option.map_some, Option.some.injEq] at h
    rw [← h]
    refine foldl_report_past reports ?_
    rw [hgeneration, hstatus]
    exact le_generationAfter hpast

theorem Cluster.StatusesPast.loop {c : Cluster} (h : c.StatusesPast) (env : Env)
    (arrivals : Arrivals) (config : GpuFractioningConfig) (opts : BuildOptions)
    (daemons : List ManagedDaemon) (conditions : List Condition) (needsRequeue : Bool) :
    (daemons.foldl (Progress.reconcileDaemonAmid env arrivals config opts)
      ⟨c, conditions, needsRequeue⟩).cluster.StatusesPast := by
  refine List.foldlRecOn (motive := fun p : Progress => p.cluster.StatusesPast) daemons _ h ?_
  intro p hp daemon _ key ds hds
  rw [(turnAmid env arrivals config opts p daemon).1] at hds
  split_ifs at hds
  · exact reconcileDaemonAmid_past (hp _) hds
  · exact hp key ds hds

theorem Cluster.StatusesPast.reconcileAmid {c : Cluster} (h : c.StatusesPast) (env : Env)
    (arrivals : Arrivals) : (r.reconcileAmid env arrivals c).1.StatusesPast := by
  unfold Reconciler.reconcileAmid
  split
  · exact h
  · split
    · exact h
    · next config _ =>
      split_ifs
      · unfold Cluster.StatusesPast
        rw [reconcileDelete_daemonSets]
        exact h
      · split
        · exact h
        · next config' _ =>
          have hstart : Cluster.StatusesPast { c with config := some config' } := h
          unfold Cluster.StatusesPast
          rw [reconcileLiveAmid_daemonSets]
          exact hstart.loop env arrivals config' _ _ _ _

theorem Cluster.StatusesPast.act {c : Cluster} (h : c.StatusesPast) (action : Action) :
    (r.act c action).StatusesPast := by
  cases action with
  | reconcile env arrivals => exact h.reconcileAmid r env arrivals
  | report key status =>
    intro key' ds hds
    rw [Reconciler.act, lookup_putDaemonSet _ _ _ Option.map_eq_none_iff.mp] at hds
    split_ifs at hds
    · obtain ⟨existing, hexisting, rfl⟩ := Option.map_eq_some_iff.mp hds
      exact foldl_report_past [status] (h key existing hexisting)
    · exact h key' ds hds

theorem Cluster.StatusesPast.run {c : Cluster} (h : c.StatusesPast) (actions : List Action) :
    (r.run c actions).StatusesPast := by
  induction actions generalizing c with
  | nil => exact h
  | cons action actions ih => exact ih (h.act r action)

/-- In a run of reconciles and status updates, every daemon published as ready was read on its
current spec exactly when the DaemonSet controller keeps up with every reconcile. -/
theorem ready_on_current_spec_iff (c : Cluster) (hpast : c.StatusesPast)
    (actions : List Action) :
    (∀ before env arrivals after, actions = before ++ .reconcile env arrivals :: after →
        r.PublishesOnEvidence env arrivals (r.run c before)) ↔
      ∀ before env arrivals after, actions = before ++ .reconcile env arrivals :: after →
        r.ControllerKeepsUp env arrivals (r.run c before) := by
  constructor
  · intro h before env arrivals after hactions
    exact (publishesOnEvidence_iff r env arrivals (hpast.run r before)).mp
      (h before env arrivals after hactions)
  · intro h before env arrivals after hactions
    exact (publishesOnEvidence_iff r env arrivals (hpast.run r before)).mpr
      (h before env arrivals after hactions)

theorem eq_of_singleton_reconcile {before after : List Action} {env env' : Env}
    {arrivals arrivals' : Arrivals}
    (h : [Action.reconcile env arrivals] = before ++ .reconcile env' arrivals' :: after) :
    before = [] ∧ env' = env ∧ arrivals' = arrivals := by
  cases before with
  | nil =>
    obtain ⟨hsame, -⟩ := List.cons.inj h
    obtain ⟨rfl, rfl⟩ := Action.reconcile.inj hsame
    exact ⟨rfl, rfl, rfl⟩
  | cons first before =>
    obtain ⟨-, hempty⟩ := List.cons.inj h
    exact absurd hempty (by simp)

/-- The first reconcile creates the DaemonSets and publishes the daemons as ready before the
DaemonSet controller has looked at them. -/
theorem fresh_daemonset_is_published_ready :
    ∃ daemon ∈ sampleReconciler.daemons sampleConfig.spec, ∃ ds,
      (freshCluster (.object [])).StatusesPast ∧
      sampleReconciler.Published .undisturbed (fun _ => []) (freshCluster (.object [])) daemon ds ∧
      ds.status.observedGeneration = 0 ∧ ds.generation = 1 := by
  refine ⟨sampleMpsd, sampleMpsd_mem, _, ?_, ⟨⟨_, rfl⟩, ⟨_, rfl, rfl⟩, rfl⟩, rfl, rfl⟩
  intro key ds hds
  exact absurd hds (by simp [freshCluster])

/-- Both daemons are rolled out, and the DaemonSet controller has seen them. -/
def observedCluster : Cluster :=
  { freshCluster (.object []) with
    daemonSets := sampleDaemonSets ⟨some (.object []), none⟩ ⟨1, 1, 1⟩ }

theorem lookup_observedCluster {daemon : ManagedDaemon}
    (hdaemon : daemon ∈ sampleReconciler.daemons sampleConfig.spec) :
    observedCluster.daemonSets.lookup (daemon.key sampleReconciler.namespace_) =
      some { createdDaemonSet .kubernetes sampleConfig (daemon.buildDaemonSet
        (sampleReconciler.buildOptions sampleConfig.spec ⟨some (.object []), none⟩)) with
          status := ⟨1, 1, 1⟩ } :=
  lookup_sampleDaemonSets _ _ hdaemon

theorem statusesPast_observedCluster : observedCluster.StatusesPast := by
  intro key ds hds
  have hmem := FiniteMap.mem_pairs.mpr hds
  simp only [observedCluster, sampleDaemonSets] at hmem
  rcases List.mem_pair.mp hmem with hpair | hpair
  · cases hpair
    rfl
  · cases hpair
    rfl

/-- A status update for the first generation that arrives before the re-fetch is evidence, and
so is the status of a rollout that the next reconcile has nothing to add to. -/
theorem ready_on_current_spec_iff_observed :
    sampleReconciler.PublishesOnEvidence .undisturbed (fun _ => [⟨1, 1, 1⟩])
        (sampleReconciler.run (freshCluster (.object [])) []) ∧
      sampleReconciler.PublishesOnEvidence .undisturbed (fun _ => [])
        (sampleReconciler.run observedCluster []) := by
  constructor
  · have hpast : (freshCluster (.object [])).StatusesPast := by
      intro key ds hds
      exact absurd hds (by simp [freshCluster])
    refine (ready_on_current_spec_iff sampleReconciler (freshCluster (.object [])) hpast
      [.reconcile .undisturbed fun _ => [⟨1, 1, 1⟩]]).mpr ?_ [] _ _ [] rfl
    intro before env arrivals after hactions
    obtain ⟨rfl, rfl, rfl⟩ := eq_of_singleton_reconcile hactions
    intro config _ _ daemon _ _
    have hcaughtUp (desired : DesiredDaemonSet) :
        CaughtUp .undisturbed config desired none [⟨1, 1, 1⟩] := rfl
    exact hcaughtUp _
  · refine (ready_on_current_spec_iff sampleReconciler observedCluster
      statusesPast_observedCluster [.reconcile .undisturbed fun _ => []]).mpr ?_ [] _ _ [] rfl
    intro before env arrivals after hactions
    obtain ⟨rfl, rfl, rfl⟩ := eq_of_singleton_reconcile hactions
    rintro config ⟨⟩ _ daemon hdaemon _
    exact ⟨_, lookup_observedCluster hdaemon, .inr rfl, rfl⟩

end Runs

end GpuFractioning.Operator
