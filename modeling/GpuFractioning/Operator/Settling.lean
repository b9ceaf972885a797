import GpuFractioning.Operator.Rollout

/-!
# When the controller settles

Runs of reconciles in a cluster whose pods, node labels and DaemonSet counters
stay as they are. A call settles when it returns no error and does not ask to be
called again.
-/

namespace GpuFractioning.Operator

section Counters

/-- The scheduled pods of a daemon. -/
def Cluster.daemonPods (c : Cluster) (r : Reconciler) (daemon : ManagedDaemon) : List Pod :=
  (c.managedPods r.namespace_).filter fun pod =>
    pod.nodeName ≠ "" ∧ pod.labels.lookup labelComponent = some daemon.name

def Cluster.countersOf (c : Cluster) (r : Reconciler) (daemon : ManagedDaemon) : DaemonSetStatus :=
  daemonSetStatus (c.daemonSets.lookup (daemon.key r.namespace_))

/-- The counters do not promise more than the pods hold: every scheduled pod is wanted,
and no more pods count as ready than are. -/
structure Consistent (r : Reconciler) (c : Cluster) : Prop where
  component : ∀ pod ∈ c.managedPods r.namespace_, pod.nodeName ≠ "" →
    ∃ daemon : ManagedDaemon, pod.labels.lookup labelComponent = some daemon.name
  scheduled : ∀ daemon : ManagedDaemon,
    ((c.daemonPods r daemon).length : ℤ) ≤ (c.countersOf r daemon).desiredNumberScheduled
  ready : ∀ daemon : ManagedDaemon,
    (c.countersOf r daemon).numberReady ≤ ((c.daemonPods r daemon).countP isPodReady : ℤ)

/-- All scheduled pods are ready. -/
def Cluster.PodsReady (c : Cluster) (r : Reconciler) : Prop :=
  ∀ pod ∈ c.managedPods r.namespace_, pod.nodeName ≠ "" → isPodReady pod = true

variable {r : Reconciler}

theorem exists_daemon_of_name (spec : GpuFractioningConfigSpec) (daemon : ManagedDaemon) :
    ∃ daemon' ∈ r.daemons spec, daemon'.name = daemon.name := by
  cases daemon with
  | fractiond _ => exact ⟨_, List.mem_cons_self, rfl⟩
  | mpsd _ => exact ⟨_, List.mem_cons_of_mem _ List.mem_cons_self, rfl⟩

theorem countersOf_congr (c : Cluster) {daemon daemon' : ManagedDaemon}
    (h : daemon'.name = daemon.name) : c.countersOf r daemon' = c.countersOf r daemon := by
  rw [Cluster.countersOf, Cluster.countersOf, ManagedDaemon.key, ManagedDaemon.key, h]

/-- Counters that are full leave no room for a pod that is not ready. -/
theorem podsReady_of_counters {c : Cluster} (h : Consistent r c) (spec : GpuFractioningConfigSpec)
    (hfull : ∀ daemon ∈ r.daemons spec, (c.countersOf r daemon).desiredNumberScheduled = 0 ∨
      (c.countersOf r daemon).desiredNumberScheduled ≤ (c.countersOf r daemon).numberReady) :
    c.PodsReady r := by
  intro pod hpod hnode
  obtain ⟨daemon, hcomponent⟩ := h.component pod hpod hnode
  obtain ⟨daemon', hdaemon', hname⟩ := exists_daemon_of_name (r := r) spec daemon
  have hmem : pod ∈ c.daemonPods r daemon := by
    simp only [Cluster.daemonPods, List.mem_filter, decide_eq_true_eq]
    exact ⟨hpod, hnode, hcomponent⟩
  have hcount := List.countP_le_length (p := isPodReady) (l := c.daemonPods r daemon)
  have hscheduled := h.scheduled daemon
  have hready := h.ready daemon
  have hpos := List.length_pos_of_mem hmem
  have hall : (c.daemonPods r daemon).countP isPodReady = (c.daemonPods r daemon).length := by
    rcases hfull daemon' hdaemon' with hzero | hle
    · rw [countersOf_congr c hname] at hzero
      omega
    · rw [countersOf_congr c hname] at hle
      omega
  exact List.countP_eq_length.mp hall pod hmem

end Counters

section Unmoved

/-- What a reconcile does not touch. -/
structure Unmoved (r : Reconciler) (c c' : Cluster) : Prop where
  pods : c'.pods = c.pods
  labels : ∀ nodeName, c'.labelsOf nodeName = c.labelsOf nodeName
  counters : ∀ daemon : ManagedDaemon, c'.countersOf r daemon = c.countersOf r daemon

variable {r : Reconciler} {c c' : Cluster}

theorem Unmoved.managedPods (h : Unmoved r c c') (namespace_ : String) :
    c'.managedPods namespace_ = c.managedPods namespace_ := by
  rw [Cluster.managedPods, Cluster.managedPods, h.pods]

theorem Unmoved.consistent (h : Unmoved r c c') (hc : Consistent r c) : Consistent r c' := by
  have hpods (daemon : ManagedDaemon) : c'.daemonPods r daemon = c.daemonPods r daemon := by
    rw [Cluster.daemonPods, Cluster.daemonPods, h.managedPods]
  refine ⟨?_, ?_, ?_⟩
  · rw [h.managedPods]
    exact hc.component
  · intro daemon
    rw [hpods, h.counters]
    exact hc.scheduled daemon
  · intro daemon
    rw [hpods, h.counters]
    exact hc.ready daemon

theorem Unmoved.podsReady (h : Unmoved r c c') (hc : c.PodsReady r) : c'.PodsReady r := by
  unfold Cluster.PodsReady
  rw [h.managedPods]
  exact hc

end Unmoved

section Phases

variable (r : Reconciler) (env : Env) (c : Cluster) (config : GpuFractioningConfig)

theorem unmoved_evaluate : Unmoved r c (r.evaluate env c config).cluster := by
  have h := evaluated_evaluate r env c config
  refine ⟨?_, h.labels, ?_⟩
  · rw [h.frame]
  · intro daemon
    obtain ⟨daemon', hdaemon', hname⟩ := exists_daemon_of_name (r := r) config.spec daemon
    rw [← countersOf_congr _ hname, ← countersOf_congr c hname, Cluster.countersOf,
      h.stored daemon' hdaemon', Cluster.outcome, daemonSetStatus_reconcileDaemon,
      Reconciler.options, r.buildOptions_namespace]
    rfl

theorem Cluster.OnlyConditions.unmoved {c c' : Cluster} (h : c.OnlyConditions c') :
    Unmoved r c c' := by
  refine ⟨?_, h.labels, ?_⟩
  · rw [h.frame]
  · intro daemon
    rw [Cluster.countersOf, h.frame]
    rfl

theorem Unmoved.trans {c₁ c₂ c₃ : Cluster} (h : Unmoved r c₁ c₂) (h' : Unmoved r c₂ c₃) :
    Unmoved r c₁ c₃ :=
  ⟨h'.pods.trans h.pods, fun n => (h'.labels n).trans (h.labels n),
    fun d => (h'.counters d).trans (h.counters d)⟩

theorem reconcileLive_cluster :
    ∃ stored, (r.reconcileLive env c config).1 =
      { (r.patchNodes env (!isConditionTrue config.status.conditions conditionReady)
          (r.evaluate env c config)).cluster with config := stored } := by
  unfold Reconciler.reconcileLive Reconciler.updateStatus
  cases env.fails .updateStatus with
  | some message => exact ⟨_, rfl⟩
  | none => exact ⟨_, rfl⟩

theorem unmoved_reconcileLive : Unmoved r c (r.reconcileLive env c config).1 := by
  obtain ⟨stored, h⟩ := reconcileLive_cluster r env c config
  have hpatched := (unmoved_evaluate r env c config).trans r
    ((onlyConditions_patchNodes r env
      (!isConditionTrue config.status.conditions conditionReady) _).unmoved r)
  rw [h]
  exact ⟨hpatched.pods, hpatched.labels, hpatched.counters⟩

variable {r} {p : Progress} {wasUnhealthy : Bool}

theorem patchNodes_requeue (h : (r.patchNodes env wasUnhealthy p).needsRequeue = false) :
    p.needsRequeue = false := by
  unfold Reconciler.patchNodes at h
  split_ifs at h with hrun
  · dsimp only at h
    split_ifs at h
    exact (Bool.or_eq_false_iff.mp h).1
  · exact h

theorem patchNodes_errs (h : (r.patchNodes env true p).needsRequeue = false) :
    (patchNodeConditions env p.cluster r.namespace_).errs = [] := by
  unfold Reconciler.patchNodes at h
  rw [Bool.or_true, if_pos rfl] at h
  dsimp only at h
  by_contra herrs
  rw [if_pos herrs] at h
  exact absurd h (by simp)

theorem patchNodes_kept (hready : p.cluster.PodsReady r) {nodeName : String}
    (h : p.cluster.readyStatus nodeName = some .conditionTrue) :
    (r.patchNodes env wasUnhealthy p).cluster.readyStatus nodeName = some .conditionTrue := by
  unfold Reconciler.patchNodes
  split_ifs
  · exact (readyPass_patchNodeConditions env p.cluster r.namespace_ hready).kept nodeName h
  · exact h

/-- When all pods are ready, a pass makes the nodes true that it reaches, and all of
them if it reports no error. -/
theorem patchNodes_pass (hready : p.cluster.PodsReady r) :
    ReadyPass (p.cluster.managedPods r.namespace_)
      (fun nodeName => NodeReached env nodeName 0 (podPagesOf env p.cluster r.namespace_))
      ⟨p.cluster, ∅, []⟩ (patchNodeConditions env p.cluster r.namespace_) ∧
    (r.patchNodes env true p).cluster =
      (patchNodeConditions env p.cluster r.namespace_).cluster := by
  refine ⟨readyPass_patchNodeConditions env p.cluster r.namespace_ hready, ?_⟩
  unfold Reconciler.patchNodes
  rw [Bool.or_true, if_pos rfl]

end Phases

section Live

/-- A node the controller answers for: it hosts a scheduled pod of a daemon, and no
driver upgrade was ever recorded on it. -/
structure Cluster.Tracks (c : Cluster) (r : Reconciler) (nodeName : String) : Prop where
  scheduled : nodeName ≠ ""
  hosts : ∃ pod ∈ c.managedPods r.namespace_, pod.nodeName = nodeName
  unlabelled : ∃ labels, c.labelsOf nodeName = some labels ∧
    labels.lookup driverUpgradeStateLabel = none

variable {r : Reconciler} {env : Env} {c c' : Cluster} {config : GpuFractioningConfig}
  {nodeName : String}

theorem Unmoved.tracks_iff (h : Unmoved r c c') :
    c'.Tracks r nodeName ↔ c.Tracks r nodeName := by
  constructor
  · rintro ⟨hnode, hhosts, hlabel⟩
    rw [h.managedPods] at hhosts
    rw [h.labels] at hlabel
    exact ⟨hnode, hhosts, hlabel⟩
  · rintro ⟨hnode, hhosts, hlabel⟩
    refine ⟨hnode, ?_, ?_⟩
    · rw [h.managedPods]
      exact hhosts
    · rw [h.labels]
      exact hlabel

theorem readyStatus_evaluate (h : c.Tracks r nodeName) :
    (r.evaluate env c config).cluster.readyStatus nodeName = c.readyStatus nodeName := by
  obtain ⟨labels, hlabels, hlabel⟩ := h.unlabelled
  exact (evaluated_evaluate r env c config).readyStatus nodeName labels hlabels hlabel

theorem readyStatus_reconcileLive :
    (r.reconcileLive env c config).1.readyStatus nodeName =
      (r.patchNodes env (!isConditionTrue config.status.conditions conditionReady)
        (r.evaluate env c config)).cluster.readyStatus nodeName := by
  obtain ⟨stored, h⟩ := reconcileLive_cluster r env c config
  rw [h]
  rfl

theorem readyStatus_kept (hready : c.PodsReady r) (htracks : c.Tracks r nodeName)
    (h : c.readyStatus nodeName = some .conditionTrue) :
    (r.reconcileLive env c config).1.readyStatus nodeName = some .conditionTrue := by
  rw [readyStatus_reconcileLive]
  refine patchNodes_kept env ((unmoved_evaluate r env c config).podsReady hready) ?_
  rw [readyStatus_evaluate htracks, h]

theorem readyStatus_reached (hready : c.PodsReady r) (htracks : c.Tracks r nodeName)
    (hunhealthy : isConditionTrue config.status.conditions conditionReady = false)
    (h : NodeReached env nodeName 0 (podPagesOf env c r.namespace_)) :
    (r.reconcileLive env c config).1.readyStatus nodeName = some .conditionTrue := by
  have hunmoved := unmoved_evaluate r env c config
  obtain ⟨hpass, hcluster⟩ := patchNodes_pass env (hunmoved.podsReady hready)
  obtain ⟨labels, hlabels, -⟩ := htracks.unlabelled
  rw [readyStatus_reconcileLive, hunhealthy, Bool.not_false, hcluster]
  refine hpass.patched nodeName ?_ htracks.scheduled ?_
  · rw [podPagesOf, hunmoved.managedPods]
    exact h
  · rw [hunmoved.labels, hlabels]
    rfl

theorem readyStatus_undisturbed (hready : c.PodsReady r) (htracks : c.Tracks r nodeName)
    (hunhealthy : isConditionTrue config.status.conditions conditionReady = false)
    (h : (r.patchNodes env true (r.evaluate env c config)).needsRequeue = false) :
    (r.reconcileLive env c config).1.readyStatus nodeName = some .conditionTrue := by
  have hunmoved := unmoved_evaluate r env c config
  obtain ⟨hpass, hcluster⟩ := patchNodes_pass env (hunmoved.podsReady hready)
  obtain ⟨pod, hpod, rfl⟩ := htracks.hosts
  rw [readyStatus_reconcileLive, hunhealthy, Bool.not_false, hcluster]
  refine hpass.reached (patchNodes_errs env h) pod ?_ htracks.scheduled
  rw [hunmoved.managedPods]
  exact hpod

/-- A call settles only if no phase asked for another. -/
theorem reconcileLive_done (h : (r.reconcileLive env c config).2 = .ok .done) :
    (r.patchNodes env (!isConditionTrue config.status.conditions conditionReady)
      (r.evaluate env c config)).needsRequeue = false := by
  unfold Reconciler.reconcileLive Reconciler.updateStatus at h
  cases hcall : env.fails .updateStatus with
  | some message => simp [hcall] at h
  | none =>
    simp only [hcall, Except.ok.injEq] at h
    by_contra hrequeue
    rw [Bool.not_eq_false] at hrequeue
    rw [if_pos hrequeue] at h
    exact absurd h (by simp)

theorem podsReady_of_done (hconsistent : Consistent r c)
    (h : (r.reconcileLive env c config).2 = .ok .done) : c.PodsReady r := by
  have hrequeue := patchNodes_requeue env (reconcileLive_done h)
  refine podsReady_of_counters hconsistent config.spec fun daemon hdaemon => ?_
  obtain ⟨health, hok, hle⟩ := (evaluated_evaluate r env c config).requeue hrequeue daemon hdaemon
  obtain ⟨rfl, -⟩ := reconcileDaemon_ok _ _ _ _ _ hok
  rw [Reconciler.options, r.buildOptions_namespace] at hle
  exact .inr hle

theorem podsReady_of_published (hconsistent : Consistent r c)
    (h : PublishesReady r env c config) : c.PodsReady r := by
  refine podsReady_of_counters hconsistent config.spec fun daemon hdaemon => ?_
  rcases (h.daemons daemon hdaemon).counters with hzero | hfull
  · exact .inl hzero
  · exact .inr hfull.ge

end Live

section Runs

/-- The conditions of the nodes the controller answers for say whether their pods are
ready. -/
def Cluster.NodesCorrect (c : Cluster) (r : Reconciler) : Prop :=
  ∀ nodeName, c.Tracks r nodeName →
    c.readyStatus nodeName =
      some (if ∀ pod ∈ c.managedPods r.namespace_, pod.nodeName = nodeName → isPodReady pod = true
        then .conditionTrue else .conditionFalse)

/-- The call does not publish Ready for the first time while a node's patch is missing:
Ready was published before, or the status is not written or does not become ready, or
every node is true already or is reached by a patch that succeeds. -/
def Reconciler.LeavesNoneBehind (r : Reconciler) (env : Env) (c : Cluster) : Prop :=
  ∀ config, c.config = some config →
    isConditionTrue config.status.conditions conditionReady = true ∨
      env.fails .updateStatus ≠ none ∨ ¬ PublishesReady r env c config ∨
      ∀ nodeName, c.Tracks r nodeName →
        c.readyStatus nodeName = some .conditionTrue ∨
          NodeReached env nodeName 0 (podPagesOf env c r.namespace_)

/-- The clusters that reconciles lead to which leave no node behind. -/
inductive Reached (r : Reconciler) (start : Cluster) : Cluster → Prop where
  | start : Reached r start start
  | step (env : Env) {c : Cluster} :
      Reached r start c → r.LeavesNoneBehind env c → Reached r start (r.reconcile env c).1

/-- Once Ready is persisted, all pods are ready and their nodes say so. -/
structure RunInv (r : Reconciler) (c : Cluster) (config : GpuFractioningConfig) : Prop where
  stored : c.config = some config
  live : config.deleting = false
  consistent : Consistent r c
  published : isConditionTrue config.status.conditions conditionReady = true →
    c.PodsReady r ∧ ∀ nodeName, c.Tracks r nodeName → c.readyStatus nodeName = some .conditionTrue

variable {r : Reconciler} {env : Env} {c : Cluster} {config : GpuFractioningConfig}

theorem RunInv.withFinalizer (h : RunInv r c config) {config' : GpuFractioningConfig}
    (hsame : config' = { config with finalizers := config'.finalizers }) :
    RunInv r { c with config := some config' } config' := by
  refine ⟨rfl, ?_, ?_, ?_⟩
  · rw [hsame]
    exact h.live
  · exact ⟨h.consistent.component, h.consistent.scheduled, h.consistent.ready⟩
  · rw [hsame]
    intro hpublished
    obtain ⟨hready, htrue⟩ := h.published hpublished
    exact ⟨hready, fun nodeName htracks =>
      htrue nodeName ⟨htracks.scheduled, htracks.hosts, htracks.unlabelled⟩⟩

theorem RunInv.reconcileLive (h : RunInv r c config) (hnone : r.LeavesNoneBehind env c) :
    ∃ config', RunInv r (r.reconcileLive env c config).1 config' := by
  have hunmoved := unmoved_reconcileLive r env c config
  have hconsistent := hunmoved.consistent h.consistent
  obtain ⟨hkept, -⟩ | ⟨hwritten, hcall⟩ := reconcileLive_config r env c config
  · refine ⟨config, hkept.trans h.stored, h.live, hconsistent, fun hpublished => ?_⟩
    obtain ⟨hready, htrue⟩ := h.published hpublished
    refine ⟨hunmoved.podsReady hready, fun nodeName htracks => ?_⟩
    rw [hunmoved.tracks_iff] at htracks
    exact readyStatus_kept hready htracks (htrue nodeName htracks)
  · refine ⟨_, hwritten, h.live, hconsistent, fun hpublished => ?_⟩
    have hinputs := publishesReady_of_statusOf r env c config
      ((isConditionTrue_iff _ _).mp hpublished)
    have hready := podsReady_of_published h.consistent hinputs
    refine ⟨hunmoved.podsReady hready, fun nodeName htracks => ?_⟩
    rw [hunmoved.tracks_iff] at htracks
    cases hbefore : isConditionTrue config.status.conditions conditionReady with
    | true => exact readyStatus_kept hready htracks ((h.published hbefore).2 nodeName htracks)
    | false =>
      -- Ready is published for the first time, so the nodes were patched in this very call
      rcases hnone config h.stored with hpersisted | hfails | hinputs' | hnodes
      · rw [hbefore] at hpersisted
        exact absurd hpersisted (by simp)
      · exact absurd hcall hfails
      · exact absurd hinputs hinputs'
      · rcases hnodes nodeName htracks with htrue | hreached
        · exact readyStatus_kept hready htracks htrue
        · exact readyStatus_reached hready htracks hbefore hreached

theorem Reconciler.LeavesNoneBehind.withFinalizer (h : r.LeavesNoneBehind env c)
    (hconfig : c.config = some config) {config' : GpuFractioningConfig}
    (hsame : config' = { config with finalizers := config'.finalizers }) :
    r.LeavesNoneBehind env { c with config := some config' } := by
  rintro _ ⟨⟩
  rcases h config hconfig with hpersisted | hfails | hinputs | hnodes
  · rw [hsame]
    exact .inl hpersisted
  · exact .inr (.inl hfails)
  · refine .inr (.inr (.inl fun hinputs' => hinputs ?_))
    rw [hsame] at hinputs'
    refine ⟨fun daemon hdaemon => ?_, hinputs'.others, hinputs'.dependencies⟩
    have hhealthy := hinputs'.daemons daemon hdaemon
    exact ⟨hhealthy.getDaemonSet, hhealthy.owner, hhealthy.writeDaemonSet,
      hhealthy.refetchDaemonSet, hhealthy.counters⟩
  · refine .inr (.inr (.inr fun nodeName htracks => ?_))
    exact hnodes nodeName ⟨htracks.scheduled, htracks.hosts, htracks.unlabelled⟩

theorem RunInv.reconcile (h : RunInv r c config) (hnone : r.LeavesNoneBehind env c) :
    ∃ config', RunInv r (r.reconcile env c).1 config' := by
  obtain ⟨err, hreconcile⟩ | ⟨config', hsame, hreconcile⟩ := reconcile_live r env h.stored h.live
  · rw [hreconcile]
    exact ⟨config, h⟩
  · rw [hreconcile]
    exact (h.withFinalizer hsame).reconcileLive (hnone.withFinalizer h.stored hsame)

theorem Reached.inv {start : Cluster} (hrun : Reached r start c) (h : RunInv r start config) :
    ∃ config', RunInv r c config' := by
  induction hrun with
  | start => exact ⟨config, h⟩
  | step env _ hnone ih =>
    obtain ⟨config', hinv⟩ := ih
    exact hinv.reconcile hnone

/-- A call that settles finds or makes every node true. -/
theorem RunInv.settled (h : RunInv r c config)
    (hdone : (r.reconcileLive env c config).2 = .ok .done) :
    c.PodsReady r ∧ ∀ nodeName, c.Tracks r nodeName →
      (r.reconcileLive env c config).1.readyStatus nodeName = some .conditionTrue := by
  have hready := podsReady_of_done h.consistent hdone
  refine ⟨hready, fun nodeName htracks => ?_⟩
  cases hbefore : isConditionTrue config.status.conditions conditionReady with
  | true => exact readyStatus_kept hready htracks ((h.published hbefore).2 nodeName htracks)
  | false =>
    have hrequeue := reconcileLive_done hdone
    rw [hbefore, Bool.not_false] at hrequeue
    exact readyStatus_undisturbed hready htracks hbefore hrequeue

/-- In every run whose calls leave no node behind, a call that settles does so with the
right conditions on the nodes. -/
theorem settles_with_correct_nodes {start : Cluster} (hconfig : start.config = some config)
    (hlive : config.deleting = false)
    (hstart : statusOf config.status.conditions conditionReady = none)
    (hconsistent : Consistent r start) (hrun : Reached r start c)
    (hsettled : (r.reconcile env c).2 = .ok .done) : (r.reconcile env c).1.NodesCorrect r := by
  have hinv : RunInv r start config := by
    refine ⟨hconfig, hlive, hconsistent, fun hpublished => ?_⟩
    rw [isConditionTrue_iff, hstart] at hpublished
    exact absurd hpublished (by simp)
  obtain ⟨config₁, hc⟩ := hrun.inv hinv
  obtain ⟨err, hreconcile⟩ | ⟨config₂, hsame, hreconcile⟩ := reconcile_live r env hc.stored hc.live
  · rw [hreconcile] at hsettled
    exact absurd hsettled (by simp)
  · rw [hreconcile] at hsettled ⊢
    obtain ⟨hready, htrue⟩ := (hc.withFinalizer hsame).settled hsettled
    have hunmoved := unmoved_reconcileLive r env { c with config := some config₂ } config₂
    intro nodeName htracks
    have hall : ∀ pod ∈ (r.reconcileLive env { c with config := some config₂ }
        config₂).1.managedPods r.namespace_, pod.nodeName = nodeName → isPodReady pod = true := by
      intro pod hpod hnode
      rw [hunmoved.managedPods] at hpod
      exact hready pod hpod (by rw [hnode]; exact htracks.scheduled)
    rw [if_pos hall]
    exact htrue nodeName (hunmoved.tracks_iff.mp htracks)

def readyPod (component : String) : Pod where
  namespace_ := "gpu-fractioning"
  labels := (AList.insert labelManagedBy managedByValue (∅ : LabelMap)).insert labelComponent
    component
  nodeName := "n1"
  phase := .running
  conditions := [⟨"Ready", .conditionTrue⟩]
  initContainerStatuses := []
  containerStatuses := []

/-- One node with a ready pod of each daemon, and counters that say so. -/
def readyCluster : Cluster where
  config := some sampleConfig
  daemonSets := sampleDaemonSets ⟨none, none⟩ ⟨1, 1, 1⟩
  nodes := (∅ : FiniteMap String Node).insert "n1" ⟨∅, []⟩
  pods := [readyPod FractiondDaemon.daemonName, readyPod MpsdDaemon.daemonName]
  clusterPolicies := none
  clusterServiceVersions := none

theorem consistent_readyCluster : Consistent sampleReconciler readyCluster := by
  refine ⟨?_, ?_, ?_⟩
  · intro pod hpod _
    rcases List.mem_pair.mp (List.mem_of_mem_filter hpod) with rfl | rfl
    · exact ⟨.fractiond ⟨none, none, false⟩, rfl⟩
    · exact ⟨.mpsd ⟨none, false, false⟩, rfl⟩
  · intro daemon
    cases daemon <;> exact le_refl (1 : ℤ)
  · intro daemon
    cases daemon <;> exact le_refl (1 : ℤ)

/-- The calls of a pattern fail. -/
def Env.failing (pattern : ApiCall → Bool) : Env :=
  { Env.undisturbed with fails := fun call => if pattern call then some "timeout" else none }

def isNodePatch : ApiCall → Bool
  | .patchNode _ _ => true
  | _ => false

def isNodePatchOrStatus : ApiCall → Bool
  | .patchNode _ _ => true
  | .updateStatus => true
  | _ => false

/-- The patch of the node fails in the first call, which publishes Ready all the same;
the second call skips the nodes and settles. -/
theorem failed_patch_is_not_retried :
    sampleConfig.deleting = false ∧
      statusOf sampleConfig.status.conditions conditionReady = none ∧
      Consistent sampleReconciler readyCluster ∧
      (sampleReconciler.reconcile Env.undisturbed
        (sampleReconciler.reconcile (Env.failing isNodePatch) readyCluster).1).2 = .ok .done ∧
      ¬ (sampleReconciler.reconcile Env.undisturbed
        (sampleReconciler.reconcile (Env.failing isNodePatch) readyCluster).1).1.NodesCorrect
          sampleReconciler := by
  refine ⟨rfl, rfl, consistent_readyCluster, by decide +kernel, fun hcorrect => ?_⟩
  have htracks : (sampleReconciler.reconcile Env.undisturbed
      (sampleReconciler.reconcile (Env.failing isNodePatch) readyCluster).1).1.Tracks
        sampleReconciler "n1" := by
    exact ⟨by decide, ⟨readyPod FractiondDaemon.daemonName, by decide +kernel, rfl⟩, ∅,
      by decide +kernel, rfl⟩
  have hmissing : (sampleReconciler.reconcile Env.undisturbed
      (sampleReconciler.reconcile (Env.failing isNodePatch) readyCluster).1).1.readyStatus "n1" =
        none := by
    decide +kernel
  have hstatus := hcorrect "n1" htracks
  rw [hmissing] at hstatus
  exact absurd hstatus (by simp)

/-- When the status is not written either, the second call does not settle before it has
patched the node. -/
theorem settles_with_correct_nodes_after_retry :
    (sampleReconciler.reconcile Env.undisturbed
      (sampleReconciler.reconcile (Env.failing isNodePatchOrStatus) readyCluster).1).1.NodesCorrect
        sampleReconciler := by
  have hconfig : readyCluster.config = some sampleConfig := rfl
  have hnone : sampleReconciler.LeavesNoneBehind (Env.failing isNodePatchOrStatus) readyCluster :=
    fun config _ => .inr (.inl (Option.some_ne_none _))
  exact settles_with_correct_nodes hconfig rfl rfl consistent_readyCluster
    (.step (Env.failing isNodePatchOrStatus) .start hnone) (by decide +kernel)

end Runs

end GpuFractioning.Operator
