import GpuFractioning.Operator.FractiondDaemon
import GpuFractioning.Operator.MpsdDaemon
import GpuFractioning.Operator.NodeConditions

/-!
# The reconcile of the custom resource

`operator/internal/common/daemonmgr/reconciler.go` and
`operator/internal/controller/gpufractioningconfig_controller.go`. One reconcile
is a function of its surroundings and the cluster; its local state between the
phases is a `Progress`.

A DaemonSet is stored with the defaults of the API server, and an update is a new
generation only if the spec with its defaults is another one. A DaemonSet is read as it
is stored: a re-fetch from a cache that lags behind reads as if the last status update
came later, and a get that lags behind as if the write failed with a conflict.
-/

namespace GpuFractioning.Operator

/-- The daemons of `buildDaemons`. -/
inductive ManagedDaemon where
  | fractiond (daemon : FractiondDaemon.Daemon)
  | mpsd (daemon : MpsdDaemon.Daemon)

namespace ManagedDaemon

def name : ManagedDaemon → String
  | fractiond _ => FractiondDaemon.daemonName
  | mpsd _ => MpsdDaemon.daemonName

def buildDaemonSet : ManagedDaemon → BuildOptions → DesiredDaemonSet
  | fractiond daemon, opts => daemon.buildDaemonSet opts
  | mpsd daemon, opts => daemon.buildDaemonSet opts

/-- The type of the daemon's condition. -/
def condType (daemon : ManagedDaemon) : String := capitalize daemon.name ++ "Ready"

def key (daemon : ManagedDaemon) (namespace_ : String) : String × String :=
  (namespace_, daemonSetName daemon.name)

theorem buildDaemonSet_key (daemon : ManagedDaemon) (opts : BuildOptions) :
    ((daemon.buildDaemonSet opts).namespace_, (daemon.buildDaemonSet opts).name) =
      daemon.key opts.namespace_ := by
  cases daemon <;> rfl

end ManagedDaemon

def buildDaemons (spec : GpuFractioningConfigSpec) (mpsdAuditLog supportSMSharing : Bool) :
    List ManagedDaemon :=
  [.fractiond ⟨spec.fractioningAgent, spec.metricsAgent, supportSMSharing⟩,
    .mpsd ⟨spec.mpsDaemon, mpsdAuditLog, supportSMSharing⟩]

section Daemon

/-- The DaemonSet is controlled by something other than the custom resource. -/
def ownedByOther (config : GpuFractioningConfig) (ds : DaemonSet) : Bool :=
  match ds.controller with
  | some ref => ref.owner ≠ config.name
  | none => false

/-- The mutation of `ReconcileDaemon`: labels, spec and the owner reference. -/
def mutate (config : GpuFractioningConfig) (desired : DesiredDaemonSet) (ds : DaemonSet) :
    Except String DaemonSet :=
  if ownedByOther config ds then
    .error ("Object " ++ desired.namespace_ ++ "/" ++ desired.name ++
      " is already owned by another controller")
  else
    .ok { ds with
      labels := desired.labels
      spec := desired.spec
      controller := some ⟨config.name, config.uid⟩ }

/-- What the API server stores for a new DaemonSet. -/
def createdDaemonSet (defaults : SpecDefaults) (config : GpuFractioningConfig)
    (desired : DesiredDaemonSet) : DaemonSet :=
  { labels := desired.labels
    controller := some ⟨config.name, config.uid⟩
    generation := 1
    spec := defaults.apply desired.spec
    status := ⟨0, 0, 0⟩ }

/-- What the API server stores for an update to `ds`. -/
def updatedDaemonSet (defaults : SpecDefaults) (existing ds : DaemonSet) : DaemonSet :=
  { ds with
    spec := defaults.apply ds.spec
    generation :=
      if defaults.apply ds.spec = existing.spec then existing.generation
      else existing.generation + 1 }

/-- `controllerutil.CreateOrUpdate`: what is stored afterwards, and the error. An update is
sent unless the mutation changes nothing; it does not write the status. -/
def createOrUpdate (env : Env) (config : GpuFractioningConfig) (daemonName : String)
    (desired : DesiredDaemonSet) (stored : Option DaemonSet) :
    Option DaemonSet × Option String :=
  let write (ds : DaemonSet) : Option DaemonSet × Option String :=
    match env.fails (.writeDaemonSet daemonName) with
    | some message => (stored, some message)
    | none => (some ds, none)
  match env.fails (.getDaemonSet daemonName) with
  | some message => (stored, some message)
  | none =>
    match stored with
    | none => write (createdDaemonSet env.defaults config desired)
    | some existing =>
      match mutate config desired existing with
      | .error err => (stored, some err)
      | .ok ds =>
        if ds = existing then (stored, none)
        else write (updatedDaemonSet env.defaults existing ds)

def daemonSetHealth (ds : DaemonSet) : DaemonHealth :=
  ⟨ds.status.desiredNumberScheduled, ds.status.numberReady⟩

/-- `ReconcileDaemon`, on the DaemonSet stored under the daemon's key. -/
def reconcileDaemon (env : Env) (config : GpuFractioningConfig) (daemon : ManagedDaemon)
    (opts : BuildOptions) (stored : Option DaemonSet) :
    Option DaemonSet × Except String DaemonHealth :=
  let desired := daemon.buildDaemonSet opts
  let dsKey := desired.namespace_ ++ "/" ++ desired.name
  let unread (message : String) : Except String DaemonHealth :=
    .error ("fetching DaemonSet status for " ++ dsKey ++ ": " ++ message)
  match createOrUpdate env config daemon.name desired stored with
  | (stored, some err) => (stored, .error ("create-or-update DaemonSet " ++ dsKey ++ ": " ++ err))
  | (stored, none) =>
    match env.fails (.refetchDaemonSet daemon.name) with
    | some message => (stored, unread message)
    | none =>
      match stored with
      | none => (stored, unread ApiError.notFound.message)
      | some ds => (stored, .ok (daemonSetHealth ds))

end Daemon

/-- What a reconcile returns when it does not fail; the interval is in nanoseconds. -/
inductive Result where
  | done
  | requeueAfter (interval : ℤ)
  deriving DecidableEq, Repr

def requeueInterval : ℤ := 30 * 10 ^ 9

def nodeConditionCleanupFinalizer : String :=
  "gpu-fractioning.nvidia.com/cleanup-node-conditions"

/-- The settings of `GpuFractioningConfigReconciler`. -/
structure Reconciler where
  namespace_ : String
  defaultImages : FiniteMap String ImageSpec
  daemonServiceAccountName : String
  mpsdAuditLog : Bool
  supportSMSharing : Bool
  fipsOnly : Bool
  skipGpuStackVersionChecks : Bool

/-- The local state of a reconcile: `conditions` are those of the status to be written. -/
structure Progress where
  cluster : Cluster
  conditions : List Condition
  needsRequeue : Bool

/-- Stores what a reconcile of the DaemonSet left. -/
def Cluster.putDaemonSet (c : Cluster) (key : String × String) : Option DaemonSet → Cluster
  | some ds => { c with daemonSets := c.daemonSets.insert key ds }
  | none => c

/-- The health to report, and the error; a daemon that could not be reconciled has none. -/
def reported : Except String DaemonHealth → DaemonHealth × Option String
  | .ok health => (health, none)
  | .error err => (⟨0, 0⟩, some err)

/-- One turn of the loop over the daemons. -/
def Progress.reconcileDaemon (env : Env) (config : GpuFractioningConfig) (opts : BuildOptions)
    (p : Progress) (daemon : ManagedDaemon) : Progress :=
  let key := daemon.key opts.namespace_
  let (stored, outcome) :=
    Operator.reconcileDaemon env config daemon opts (p.cluster.daemonSets.lookup key)
  let (health, reconcileErr) := reported outcome
  { cluster := p.cluster.putDaemonSet key stored
    conditions :=
      setCondition
        (daemonHealthToCondition daemon.name health config.generation reconcileErr
          (env.now (.refetchDaemonSet daemon.name)))
        p.conditions
    needsRequeue :=
      p.needsRequeue || reconcileErr.isSome || health.readyNodes < health.desiredNodes }

namespace Reconciler

def gpuOperatorChecker (r : Reconciler) : GpuOperatorDependencyChecker :=
  ⟨r.skipGpuStackVersionChecks, r.namespace_⟩

def daemons (r : Reconciler) (spec : GpuFractioningConfigSpec) : List ManagedDaemon :=
  buildDaemons spec r.mpsdAuditLog r.supportSMSharing

/-- The GPU Operator deletes the `nvidia` RuntimeClass when it runs its NRI plugin, so
NRI mode wins over an explicit runtime class. -/
def buildOptions (r : Reconciler) (spec : GpuFractioningConfigSpec)
    (clusterPolicy : ClusterPolicy) : BuildOptions :=
  let opts : BuildOptions :=
    { namespace_ := r.namespace_
      nodeSelector := spec.nodeSelector
      tolerations := spec.tolerations
      serviceAccountName := r.daemonServiceAccountName
      runtimeClassName := resolveRuntimeClassName spec.runtimeClassName
      defaultImages := r.defaultImages
      fipsOnly := r.fipsOnly
      nriPluginEnabled := false }
  if clusterPolicy.nriPluginEnabled then
    { opts with runtimeClassName := none, nriPluginEnabled := true }
  else opts

/-- The loop over the daemons. -/
def reconcileDaemons (r : Reconciler) (env : Env) (config : GpuFractioningConfig)
    (clusterPolicy : ClusterPolicy) (p : Progress) : Progress :=
  (r.daemons config.spec).foldl
    (Progress.reconcileDaemon env config (r.buildOptions config.spec clusterPolicy)) p

/-- The aggregate condition and the dependency's verdict on it. -/
def checkDependencies (r : Reconciler) (env : Env) (config : GpuFractioningConfig)
    (clusterPolicy : ClusterPolicy) (p : Progress) : Progress :=
  let now := env.now .listClusterServiceVersions
  let verdict :=
    r.gpuOperatorChecker.check
      (env.list .listClusterServiceVersions p.cluster.clusterServiceVersions)
      (env.ctxDone .listClusterPolicies) (env.ctxDone .listClusterServiceVersions) clusterPolicy
      config.generation (aggregateReadyCondition p.conditions config.generation now) now
  { p with
    conditions := setCondition verdict.1 p.conditions
    needsRequeue := p.needsRequeue || verdict.2.isSome }

/-- The driver upgrade as a condition; it is left as it was when the evaluation fails. -/
def noteDriverUpgrade (env : Env) (config : GpuFractioningConfig) (p : Progress) : Progress :=
  match evaluateDriverUpgrade env p.cluster config.spec.nodeSelector with
  | (c, .error _) => { p with cluster := c, needsRequeue := true }
  | (c, .ok upgrading) =>
    { p with
      cluster := c
      conditions :=
        setCondition
          (driverUpgradeCondition upgrading config.generation (env.now .listUpgradingNodes))
          p.conditions }

/-- Nodes are patched when something is unhealthy, or was when the status was last
written. -/
def patchNodes (r : Reconciler) (env : Env) (wasUnhealthy : Bool) (p : Progress) : Progress :=
  if p.needsRequeue || wasUnhealthy then
    let pass := patchNodeConditions env p.cluster r.namespace_
    { p with
      cluster := pass.cluster
      needsRequeue :=
        if pass.errs ≠ [] then true else p.needsRequeue || decide (pass.unhealthyNodes ≠ ∅) }
  else p

/-- The status and the result. -/
def updateStatus (env : Env) (config : GpuFractioningConfig) (p : Progress) :
    Cluster × Except String Result :=
  match env.fails .updateStatus with
  | some message => (p.cluster, .error ("unable to update status: " ++ message))
  | none =>
    ({ p.cluster with
        config := some { config with status := ⟨config.generation, p.conditions⟩ } },
      .ok (if p.needsRequeue then .requeueAfter requeueInterval else .done))

/-- Everything up to the node conditions. -/
def evaluate (r : Reconciler) (env : Env) (c : Cluster) (config : GpuFractioningConfig) :
    Progress :=
  let clusterPolicy := readClusterPolicy env c
  let p := r.reconcileDaemons env config clusterPolicy ⟨c, config.status.conditions, false⟩
  noteDriverUpgrade env config (r.checkDependencies env config clusterPolicy p)

/-- A custom resource that is not being deleted and has the finalizer. -/
def reconcileLive (r : Reconciler) (env : Env) (c : Cluster) (config : GpuFractioningConfig) :
    Cluster × Except String Result :=
  let wasUnhealthy := !isConditionTrue config.status.conditions conditionReady
  updateStatus env config (r.patchNodes env wasUnhealthy (r.evaluate env c config))

/-- The object goes with its last finalizer. -/
def releaseFinalizer (config : GpuFractioningConfig) : Option GpuFractioningConfig :=
  let rest := config.finalizers.filter (· ≠ nodeConditionCleanupFinalizer)
  if rest = [] then none else some { config with finalizers := rest }

def reconcileDelete (env : Env) (c : Cluster) (config : GpuFractioningConfig) :
    Cluster × Except String Result :=
  if nodeConditionCleanupFinalizer ∉ config.finalizers then (c, .ok .done)
  else
    let (c, errs) := removeNodeConditions env c config.spec.nodeSelector
    if errs ≠ [] then (c, .error ("cleaning up node conditions: " ++ "\n".intercalate errs))
    else
      let (c, errs) := removeDriverMajorLabels env c config.spec.nodeSelector
      if errs ≠ [] then (c, .error ("cleaning up driver labels: " ++ "\n".intercalate errs))
      else
        match env.fails .removeFinalizer with
        | some message => (c, .error ("removing finalizer: " ++ message))
        | none => ({ c with config := releaseFinalizer config }, .ok .done)

/-- The finalizer is there before anything is created or patched. -/
def addFinalizer (env : Env) (config : GpuFractioningConfig) : Except String GpuFractioningConfig :=
  if nodeConditionCleanupFinalizer ∈ config.finalizers then .ok config
  else
    match env.fails .addFinalizer with
    | some message => .error ("adding finalizer: " ++ message)
    | none => .ok { config with finalizers := config.finalizers ++ [nodeConditionCleanupFinalizer] }

/-- `Reconcile`. -/
def reconcile (r : Reconciler) (env : Env) (c : Cluster) : Cluster × Except String Result :=
  match env.fails .getConfig with
  | some message => (c, .error ("unable to fetch GpuFractioningConfig: " ++ message))
  | none =>
    match c.config with
    | none => (c, .ok .done)
    | some config =>
      if config.deleting then reconcileDelete env c config
      else
        match addFinalizer env config with
        | .error err => (c, .error err)
        | .ok config => r.reconcileLive env { c with config := some config } config

end Reconciler

section DaemonSets

/-- The status of a DaemonSet; one that does not exist counts nothing. -/
def daemonSetStatus : Option DaemonSet → DaemonSetStatus
  | some ds => ds.status
  | none => ⟨0, 0, 0⟩

variable (env : Env) (config : GpuFractioningConfig) (daemonName : String)
  (desired : DesiredDaemonSet) (stored : Option DaemonSet)

/-- The update is not sent, or it makes no other spec of the stored one. -/
def SpecKept (ds : DaemonSet) : Prop :=
  mutate config desired ds = .ok ds ∨ env.defaults.apply desired.spec = ds.spec

instance (ds : DaemonSet) : Decidable (SpecKept env config desired ds) :=
  inferInstanceAs (Decidable (_ ∨ _))

/-- Either an error and nothing is written, or nothing is to be written, or the DaemonSet has
the desired spec with its defaults. The status stays. -/
theorem createOrUpdate_cases :
    (∃ err, createOrUpdate env config daemonName desired stored = (stored, some err)) ∨
      ∃ ds, createOrUpdate env config daemonName desired stored = (some ds, none) ∧
        (stored = some ds ∧ mutate config desired ds = .ok ds ∨
          ds.spec = env.defaults.apply desired.spec) ∧
        ds.status = daemonSetStatus stored := by
  unfold createOrUpdate
  cases env.fails (.getDaemonSet daemonName) with
  | some message => exact .inl ⟨message, rfl⟩
  | none =>
    cases stored with
    | none =>
      cases env.fails (.writeDaemonSet daemonName) with
      | some message => exact .inl ⟨message, rfl⟩
      | none => exact .inr ⟨_, rfl, .inr rfl, rfl⟩
    | some existing =>
      unfold mutate
      by_cases hother : ownedByOther config existing = true
      · simp [hother]
      · simp only [hother, Bool.false_eq_true, if_false]
        split
        · next hsame =>
          exact .inr ⟨existing, rfl, .inl ⟨rfl, by rw [if_neg hother, hsame]⟩, rfl⟩
        · cases env.fails (.writeDaemonSet daemonName) with
          | some message => exact .inl ⟨message, rfl⟩
          | none => exact .inr ⟨_, rfl, .inr rfl, rfl⟩

theorem createOrUpdate_of_other (h : stored.any (ownedByOther config) = true) :
    (createOrUpdate env config daemonName desired stored).1 = stored := by
  unfold createOrUpdate
  cases env.fails (.getDaemonSet daemonName) with
  | some message => rfl
  | none =>
    cases stored with
    | none => simp at h
    | some existing =>
      have hother : ownedByOther config existing = true := by simpa using h
      simp [mutate, hother]

theorem createOrUpdate_err (hget : env.fails (.getDaemonSet daemonName) = none)
    (hwrite : env.fails (.writeDaemonSet daemonName) = none)
    (howned : stored.any (ownedByOther config) = false) :
    (createOrUpdate env config daemonName desired stored).2 = none := by
  unfold createOrUpdate
  simp only [hget, hwrite]
  cases stored with
  | none => rfl
  | some existing =>
    have hother : ownedByOther config existing = false := by simpa using howned
    simp only [mutate, hother, Bool.false_eq_true, if_false]
    split
    · rfl
    · rfl

theorem spec_of_mutate {ds : DaemonSet} (h : mutate config desired ds = .ok ds) :
    ds.spec = desired.spec := by
  unfold mutate at h
  split_ifs at h
  rw [← Except.ok.inj h]

theorem createOrUpdate_spec (hget : env.fails (.getDaemonSet daemonName) = none)
    (hwrite : env.fails (.writeDaemonSet daemonName) = none)
    (howned : stored.any (ownedByOther config) = false) :
    (createOrUpdate env config daemonName desired stored).1.map DaemonSet.spec =
        some (env.defaults.apply desired.spec) ∨
      ∃ ds, stored = some ds ∧ mutate config desired ds = .ok ds ∧
        (createOrUpdate env config daemonName desired stored).1 = some ds := by
  have herr := createOrUpdate_err env config daemonName desired stored hget hwrite howned
  obtain ⟨err, h⟩ | ⟨ds, h, ⟨hstored, hsame⟩ | hspec, -⟩ :=
    createOrUpdate_cases env config daemonName desired stored
  · rw [h] at herr
    cases herr
  · exact .inr ⟨ds, hstored, hsame, by rw [h]⟩
  · rw [h, ← hspec]
    exact .inl rfl

theorem createOrUpdate_spec_eq_iff (hget : env.fails (.getDaemonSet daemonName) = none)
    (hwrite : env.fails (.writeDaemonSet daemonName) = none)
    (howned : stored.any (ownedByOther config) = false) :
    (createOrUpdate env config daemonName desired stored).1.map DaemonSet.spec =
        stored.map DaemonSet.spec ↔
      ∃ ds, stored = some ds ∧ SpecKept env config desired ds := by
  unfold createOrUpdate SpecKept
  simp only [hget, hwrite]
  cases stored with
  | none => simp
  | some existing =>
    have hother : ownedByOther config existing = false := by simpa using howned
    simp only [mutate, hother, Bool.false_eq_true, if_false, Option.some_inj, Except.ok.injEq,
      exists_eq_left']
    split
    · next hsame => simp only [hsame, true_or]
    · next hdiffers => simp only [hdiffers, false_or, Option.map_some, updatedDaemonSet,
        Option.some_inj]

theorem createOrUpdate_succeeds
    (h : (createOrUpdate env config daemonName desired stored).2 = none) :
    env.fails (.getDaemonSet daemonName) = none ∧ stored.any (ownedByOther config) = false ∧
      (env.fails (.writeDaemonSet daemonName) = none ∨
        stored.map DaemonSet.spec = some desired.spec) := by
  unfold createOrUpdate at h
  cases hget : env.fails (.getDaemonSet daemonName) with
  | some message => simp [hget] at h
  | none =>
    simp only [hget] at h
    cases hwrite : env.fails (.writeDaemonSet daemonName) with
    | none =>
      refine ⟨rfl, ?_, .inl rfl⟩
      cases stored with
      | none => rfl
      | some existing =>
        by_contra hother
        rw [Bool.not_eq_false, Option.any_some] at hother
        simp [mutate, hother] at h
    | some message =>
      cases stored with
      | none => simp [hwrite] at h
      | some existing =>
        unfold mutate at h
        by_cases hother : ownedByOther config existing = true
        · simp [hother] at h
        · simp only [hother, hwrite, Bool.false_eq_true, if_false] at h
          split_ifs at h with hsame
          refine ⟨rfl, by simpa using hother, .inr ?_⟩
          rw [← hsame]
          rfl

end DaemonSets

section Turn

variable (env : Env) (config : GpuFractioningConfig) (daemon : ManagedDaemon)
  (opts : BuildOptions) (stored : Option DaemonSet)

theorem reconcileDaemon_fst :
    (reconcileDaemon env config daemon opts stored).1 =
      (createOrUpdate env config daemon.name (daemon.buildDaemonSet opts) stored).1 := by
  unfold reconcileDaemon
  dsimp only
  obtain ⟨err, h⟩ | ⟨ds, h, -⟩ :=
    createOrUpdate_cases env config daemon.name (daemon.buildDaemonSet opts) stored
  · rw [h]
  · rw [h]
    dsimp only
    split <;> rfl

theorem daemonSetStatus_reconcileDaemon :
    daemonSetStatus (reconcileDaemon env config daemon opts stored).1 =
      daemonSetStatus stored := by
  rw [reconcileDaemon_fst]
  obtain ⟨err, h⟩ | ⟨ds, h, -, hstatus⟩ :=
    createOrUpdate_cases env config daemon.name (daemon.buildDaemonSet opts) stored
  · rw [h]
  · rw [h]
    exact hstatus

theorem spec_reconcileDaemon :
    (reconcileDaemon env config daemon opts stored).1.map DaemonSet.spec =
        stored.map DaemonSet.spec ∨
      (reconcileDaemon env config daemon opts stored).1.map DaemonSet.spec =
        some (env.defaults.apply (daemon.buildDaemonSet opts).spec) := by
  rw [reconcileDaemon_fst]
  obtain ⟨err, h⟩ | ⟨ds, h, ⟨hstored, -⟩ | hspec, -⟩ :=
    createOrUpdate_cases env config daemon.name (daemon.buildDaemonSet opts) stored
  · rw [h]
    exact .inl rfl
  · rw [h, hstored]
    exact .inl rfl
  · rw [h, ← hspec]
    exact .inr rfl

theorem reconcileDaemon_eq_none (h : (reconcileDaemon env config daemon opts stored).1 = none) :
    stored = none := by
  obtain hspec | hspec := spec_reconcileDaemon env config daemon opts stored
  · rw [h] at hspec
    exact Option.map_eq_none_iff.mp hspec.symm
  · rw [h] at hspec
    simp at hspec

theorem reconcileDaemon_ok {health : DaemonHealth}
    (h : (reconcileDaemon env config daemon opts stored).2 = .ok health) :
    health = ⟨(daemonSetStatus stored).desiredNumberScheduled,
        (daemonSetStatus stored).numberReady⟩ ∧
      (createOrUpdate env config daemon.name (daemon.buildDaemonSet opts) stored).2 = none ∧
      env.fails (.refetchDaemonSet daemon.name) = none := by
  unfold reconcileDaemon at h
  dsimp only at h
  obtain ⟨err, hcreate⟩ | ⟨ds, hcreate, -, hstatus⟩ :=
    createOrUpdate_cases env config daemon.name (daemon.buildDaemonSet opts) stored
  · rw [hcreate] at h
    simp at h
  · rw [hcreate] at h
    dsimp only at h
    rw [← hstatus, hcreate]
    cases hrefetch : env.fails (.refetchDaemonSet daemon.name) with
    | some message => simp [hrefetch] at h
    | none =>
      simp only [hrefetch, Except.ok.injEq] at h
      exact ⟨h.symm, rfl, rfl⟩

theorem lookup_putDaemonSet (c : Cluster) (key : String × String)
    (hnone : stored = none → c.daemonSets.lookup key = none) (key' : String × String) :
    (c.putDaemonSet key stored).daemonSets.lookup key' =
      if key' = key then stored else c.daemonSets.lookup key' := by
  cases stored with
  | some ds =>
    rw [Cluster.putDaemonSet, FiniteMap.lookup_insert]
  | none =>
    split_ifs with h
    · rw [Cluster.putDaemonSet, h, hnone rfl]
    · rfl

theorem putDaemonSet_frame (c : Cluster) (key : String × String) :
    c.putDaemonSet key stored =
      { c with daemonSets := (c.putDaemonSet key stored).daemonSets } := by
  cases stored <;> rfl

end Turn

end GpuFractioning.Operator
