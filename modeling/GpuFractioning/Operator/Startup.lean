import GpuFractioning.Lib.Fallible
import GpuFractioning.Operator.MpsdFlags
import GpuFractioning.Operator.Rollout

/-!
# The installation's values in the cluster

`operator/cmd/main.go` reads the values of the installation once, from its environment,
and `ReadImageFromEnv` the images of the components. Everything after that happens in
reconciles, of which any may fail between two DaemonSets, while users edit the custom
resource and the ClusterPolicy. The stored DaemonSets may then stem from different
versions of the custom resource, but not from different values.
-/

namespace GpuFractioning.Operator

section Main

/-- `ReadImageFromEnv`. -/
def readImageFromEnv (getenv : Getenv) (envName : String) : ImageSpec :=
  { repository := envString getenv (envName ++ "_REPOSITORY") ""
    tag := envString getenv (envName ++ "_TAG") ""
    imagePullPolicy := envString getenv (envName ++ "_PULL_POLICY") "" }

/-- The components, with the names of the variables that hold their images. -/
def componentImages : List (String × String) :=
  [("fractiond", "FRACTIOND_IMAGE"), ("metricsd", "METRICSD_IMAGE"), ("mpsd", "MPSD_IMAGE")]

def defaultImages (getenv : Getenv) : FiniteMap String ImageSpec :=
  FiniteMap.insertAll Prod.fst (fun component => readImageFromEnv getenv component.2)
    componentImages ∅

def podNamespace (getenv : Getenv) : String :=
  if getenv "POD_NAMESPACE" = "" then "default" else getenv "POD_NAMESPACE"

/-- What `main` registers the controller with; `none` stands for its exit, where the image
of a component is not configured. -/
def mainReconciler (getenv : Getenv) : Option Reconciler :=
  if (defaultImages getenv).pairs.any fun entry => entry.2.fullImage = "" then none
  else some
    { namespace_ := podNamespace getenv
      defaultImages := defaultImages getenv
      daemonServiceAccountName := envString getenv "DAEMON_SERVICE_ACCOUNT_NAME" ""
      mpsdAuditLog := envBool getenv "MPSD_AUDIT_LOG" true
      supportSMSharing := envBool getenv "SUPPORT_SM_SHARING" true
      fipsOnly := envString getenv "FIPS_MODE" "off" = "only"
      skipGpuStackVersionChecks := envBool getenv "SKIP_GPU_STACK_VERSION_CHECKS" false }

variable {getenv : Getenv}

theorem lookup_defaultImages {component envName : String}
    (h : (component, envName) ∈ componentImages) :
    (defaultImages getenv).lookup component = some (readImageFromEnv getenv envName) := by
  simp only [componentImages, List.mem_cons, Prod.mk.injEq, List.not_mem_nil, or_false] at h
  simp only [defaultImages, FiniteMap.insertAll, componentImages, List.foldl_cons, List.foldl_nil,
    FiniteMap.lookup_insert]
  obtain ⟨rfl, rfl⟩ | ⟨rfl, rfl⟩ | ⟨rfl, rfl⟩ := h <;> rfl

theorem envString_empty (key : String) : envString getenv key "" = getenv key := by
  unfold envString
  split_ifs with hset
  · rfl
  · exact (not_not.mp hset).symm

theorem fipsOnly_iff :
    envString getenv "FIPS_MODE" "off" = "only" ↔ getenv "FIPS_MODE" = "only" := by
  unfold envString
  split_ifs with hset
  · rfl
  · rw [not_not.mp hset]
    decide

/-- The settings of an operator that has started. -/
structure Reconciler.ReadFrom (r : Reconciler) (getenv : Getenv) : Prop where
  image : ∀ component envName, (component, envName) ∈ componentImages →
    r.defaultImages.lookup component = some (readImageFromEnv getenv envName) ∧
      (readImageFromEnv getenv envName).fullImage ≠ ""
  account : r.daemonServiceAccountName = getenv "DAEMON_SERVICE_ACCOUNT_NAME"
  auditLog : r.mpsdAuditLog = envBool getenv "MPSD_AUDIT_LOG" true
  sharing : r.supportSMSharing = envBool getenv "SUPPORT_SM_SHARING" true
  fips : r.fipsOnly = true ↔ getenv "FIPS_MODE" = "only"

theorem readFrom_of_mainReconciler {r : Reconciler} (h : mainReconciler getenv = some r) :
    r.ReadFrom getenv := by
  unfold mainReconciler at h
  split_ifs at h with hmissing
  cases h
  exact
    { image := by
        intro component envName hcomponent
        have hlookup : (defaultImages getenv).lookup component = _ :=
          lookup_defaultImages hcomponent
        refine ⟨hlookup, fun hempty => hmissing ?_⟩
        rw [List.any_eq_true]
        exact ⟨_, FiniteMap.mem_pairs.mpr hlookup, by simpa using hempty⟩
      account := envString_empty _
      auditLog := rfl
      sharing := rfl
      fips := by rw [decide_eq_true_iff, fipsOnly_iff] }

end Main

section Runs

/-- The values that the types of the fields hold. -/
structure GpuFractioningConfigSpec.InRange (spec : GpuFractioningConfigSpec) : Prop where
  fractioningAgent : ∀ agent ∈ spec.fractioningAgent, agent.InRange
  mpsDaemon : ∀ daemon ∈ spec.mpsDaemon, daemon.InRange

/-- A cluster whose managed DaemonSets are of this operator, or not there: at its
installation, and after the first reconcile that could write all of them. -/
inductive Begins (r : Reconciler) : Cluster → Prop where
  | installed {c : Cluster} (h : ∀ daemon, c.specOf r daemon = none) : Begins r c
  | upgraded (env : Env) {c : Cluster} {config : GpuFractioningConfig}
      (hconfig : c.config = some config) (hrange : config.spec.InRange)
      (hlive : config.deleting = false)
      (hwrites : ∀ daemon ∈ r.daemons config.spec, env.Writes daemon)
      (howned : ∀ daemon ∈ r.daemons config.spec,
        (c.daemonSets.lookup (daemon.key r.namespace_)).any (ownedByOther config) = false) :
      Begins r (r.reconcile env c).1

/-- What happens to the cluster while the operator runs. -/
inductive Runs (r : Reconciler) (start : Cluster) : Cluster → Prop where
  | start : Runs r start start
  | reconcile (env : Env) {c : Cluster} (h : Runs r start c)
      (hrange : ∀ config, c.config = some config → config.spec.InRange) :
      Runs r start (r.reconcile env c).1
  /-- Others edit and delete the resources. The spec of a managed DaemonSet is left to the
  operator, but the DaemonSet may be deleted. -/
  | elsewhere {c c' : Cluster} (h : Runs r start c)
      (hspecs : ∀ daemon spec, c'.specOf r daemon = some spec → c.specOf r daemon = some spec) :
      Runs r start c'

theorem Cluster.specOf_edit (r : Reconciler) (c : Cluster) (config : Option GpuFractioningConfig)
    (daemon : ManagedDaemon) : { c with config := config }.specOf r daemon = c.specOf r daemon :=
  rfl

theorem Runs.edit {r : Reconciler} {start c : Cluster} (h : Runs r start c)
    (config : Option GpuFractioningConfig) : Runs r start { c with config := config } :=
  h.elsewhere fun _ _ hspec => hspec

/-- A spec as it was built, or with the defaults of some API server. -/
def StoredFrom (built spec : DaemonSetSpec) : Prop :=
  spec = built ∨ ∃ defaults : SpecDefaults, spec = defaults.apply built

/-- Every managed DaemonSet was built by this operator, each from a custom resource and a
ClusterPolicy of its own. -/
def Rendered (r : Reconciler) (c : Cluster) : Prop :=
  ∀ daemon spec, c.specOf r daemon = some spec →
    ∃ resource policy, resource.InRange ∧
      ∃ built ∈ r.daemons resource, StoredFrom (r.builtSpec resource policy built) spec

variable {r : Reconciler} {env : Env} {c : Cluster}

theorem exists_mem_daemons (resource : GpuFractioningConfigSpec) (daemon : ManagedDaemon) :
    ∃ built ∈ r.daemons resource, ∀ c : Cluster, c.specOf r daemon = c.specOf r built := by
  cases daemon with
  | fractiond _ => exact ⟨_, List.mem_cons_self, fun _ => rfl⟩
  | mpsd _ => exact ⟨_, List.mem_cons_of_mem _ List.mem_cons_self, fun _ => rfl⟩

theorem reconcile_of_no_config (hconfig : c.config = none) : (r.reconcile env c).1 = c := by
  unfold Reconciler.reconcile
  split
  · rfl
  · simp only [hconfig]

theorem Rendered.reconcile (h : Rendered r c)
    (hrange : ∀ config, c.config = some config → config.spec.InRange) :
    Rendered r (r.reconcile env c).1 := by
  intro daemon spec hspec
  cases hconfig : c.config with
  | none =>
    rw [reconcile_of_no_config hconfig] at hspec
    exact h daemon spec hspec
  | some config =>
    obtain ⟨built, hbuilt, hsame⟩ := exists_mem_daemons (r := r) config.spec daemon
    rw [hsame] at hspec
    obtain hkept | hset := specOf_reconcile r env hconfig hbuilt
    · exact h built spec (hkept.symm.trans hspec)
    · rw [hset] at hspec
      exact ⟨_, _, hrange config hconfig, built, hbuilt, .inr ⟨_, (Option.some.inj hspec).symm⟩⟩

theorem Begins.rendered (h : Begins r c) : Rendered r c := by
  intro daemon spec hspec
  cases h with
  | installed hnone =>
    rw [hnone daemon] at hspec
    cases hspec
  | @upgraded env before config hconfig hrange hlive hwrites howned =>
    obtain ⟨built, hbuilt, hsame⟩ := exists_mem_daemons (r := r) config.spec daemon
    rw [hsame] at hspec
    refine ⟨config.spec, readClusterPolicy env before, hrange, built, hbuilt, ?_⟩
    obtain hset | ⟨ds, -, hmutate, hkept⟩ := specOf_reconcile_of_writes r env hconfig hlive hbuilt
      (hwrites built hbuilt) (howned built hbuilt)
    · exact .inr ⟨_, Option.some.inj (hspec.symm.trans hset)⟩
    · exact .inl ((Option.some.inj (hspec.symm.trans hkept)).trans (spec_of_mutate _ _ hmutate))

theorem Runs.rendered {start : Cluster} (hbegins : Begins r start) (hrun : Runs r start c) :
    Rendered r c := by
  induction hrun with
  | start => exact hbegins.rendered
  | reconcile env _ hrange ih => exact ih.reconcile hrange
  | elsewhere _ hspecs ih => exact fun daemon spec hspec => ih daemon spec (hspecs _ _ hspec)

end Runs

section Containers

/-- What a container of the daemons has of the installation's values. -/
structure Container.Follows (ctr : Container) (getenv : Getenv) : Prop where
  image : ∃ envName, (ctr.name, envName) ∈ componentImages ∧
    ctr.image = (readImageFromEnv getenv envName).fullImage ∧
    ctr.imagePullPolicy = (readImageFromEnv getenv envName).pullPolicy ∧ ctr.image ≠ ""
  fips : ⟨"GODEBUG", .value fipsOnlyGODEBUG⟩ ∈ ctr.env ↔ getenv "FIPS_MODE" = "only"
  /-- Whatever else its environment holds. -/
  fractiond : ctr.name = FractiondDaemon.daemonName → ∀ processEnv, ∃ f,
    Fractiond.parseFlags processEnv ctr.args = .ok f ∧
      f.supportSMSharing = envBool getenv "SUPPORT_SM_SHARING" true
  mpsd : ctr.name = MpsdDaemon.daemonName → ∀ processEnv,
    ctr.Provides Mpsd.environmentKeys processEnv → ∃ f,
      Mpsd.parseFlags processEnv ctr.args = .ok f ∧
        f.supportSMSharing = envBool getenv "SUPPORT_SM_SHARING" true ∧
        f.memacctAuditLog = envBool getenv "MPSD_AUDIT_LOG" true

structure DaemonSetSpec.Follows (spec : DaemonSetSpec) (getenv : Getenv) : Prop where
  account : spec.template.spec.serviceAccountName = getenv "DAEMON_SERVICE_ACCOUNT_NAME"
  containers : ∀ ctr ∈ spec.template.spec.containers, ctr.Follows getenv

variable {r : Reconciler} {getenv : Getenv} {resource : GpuFractioningConfigSpec}
  {policy : ClusterPolicy}

/-- The NRI mode of the ClusterPolicy changes nothing that the installation sets. -/
theorem buildOptions_installation :
    (r.buildOptions resource policy).defaultImages = r.defaultImages ∧
      (r.buildOptions resource policy).fipsOnly = r.fipsOnly ∧
      (r.buildOptions resource policy).serviceAccountName = r.daemonServiceAccountName := by
  unfold Reconciler.buildOptions
  split
  · exact ⟨rfl, rfl, rfl⟩
  · exact ⟨rfl, rfl, rfl⟩

theorem Reconciler.ReadFrom.container_image (h : r.ReadFrom getenv) {ctr : Container}
    {component envName : String} (hcomponent : (component, envName) ∈ componentImages)
    (hname : ctr.name = component)
    (himage : ctr.image = ((r.buildOptions resource policy).image component).fullImage)
    (hpull : ctr.imagePullPolicy = ((r.buildOptions resource policy).image component).pullPolicy) :
    ∃ envName, (ctr.name, envName) ∈ componentImages ∧
      ctr.image = (readImageFromEnv getenv envName).fullImage ∧
      ctr.imagePullPolicy = (readImageFromEnv getenv envName).pullPolicy ∧ ctr.image ≠ "" := by
  obtain ⟨hlookup, hset⟩ := h.image component envName hcomponent
  have hspec : (r.buildOptions resource policy).image component =
      readImageFromEnv getenv envName := by
    rw [BuildOptions.image, buildOptions_installation.1, hlookup, Option.getD_some]
  rw [hspec] at himage hpull
  rw [hname, himage, hpull]
  exact ⟨envName, hcomponent, rfl, rfl, hset⟩

theorem Reconciler.ReadFrom.fips_mem (h : r.ReadFrom getenv) {others : List EnvVar}
    (hothers : ∀ v ∈ others, v.name ≠ "GODEBUG") :
    ⟨"GODEBUG", .value fipsOnlyGODEBUG⟩ ∈
        others ++ fipsOnlyEnv (r.buildOptions resource policy).fipsOnly ↔
      getenv "FIPS_MODE" = "only" := by
  rw [buildOptions_installation.2.1, ← h.fips, List.mem_append]
  unfold fipsOnlyEnv
  constructor
  · rintro (hmem | hmem)
    · exact absurd rfl (hothers _ hmem)
    · cases hfips : r.fipsOnly with
      | true => rfl
      | false => simp [hfips] at hmem
  · intro hfips
    exact .inr (by simp [hfips])

theorem mem_containers_cases {d : FractiondDaemon.Daemon} {opts : BuildOptions} {ctr : Container}
    (h : ctr ∈ (d.buildDaemonSet opts).spec.template.spec.containers) :
    (∃ mounts, ctr = { (d.buildFractiondContainer opts).1 with volumeMounts := mounts }) ∨
      ctr = d.buildMetricsdContainer opts := by
  unfold FractiondDaemon.Daemon.buildDaemonSet at h
  dsimp only at h
  split_ifs at h with hmetrics
  · rcases List.mem_cons.mp h with hfractiond | hmetricsd
    · exact .inl ⟨_, hfractiond⟩
    · exact .inr (List.mem_singleton.mp hmetricsd)
  · exact .inl ⟨_, List.mem_singleton.mp h⟩

theorem supportSMSharing_decoded (d : FractiondDaemon.Daemon) (opts : BuildOptions)
    (f : Fractiond.CliFlags) : (d.decoded opts f).supportSMSharing = d.supportSMSharing := by
  unfold FractiondDaemon.Daemon.decoded
  cases d.fractioningSpec with
  | none => rfl
  | some spec => rfl

theorem Reconciler.ReadFrom.follows_fractiond (h : r.ReadFrom getenv) (hrange : resource.InRange) :
    (r.builtSpec resource policy (.fractiond
      ⟨resource.fractioningAgent, resource.metricsAgent, r.supportSMSharing⟩)).Follows getenv := by
  have hmpsd : FractiondDaemon.daemonName ≠ MpsdDaemon.daemonName := by decide
  have hmetricsd : FractiondDaemon.metricsdName ≠ FractiondDaemon.daemonName ∧
      FractiondDaemon.metricsdName ≠ MpsdDaemon.daemonName := by decide
  have hdaemon : FractiondDaemon.Daemon.InRange
      ⟨resource.fractioningAgent, resource.metricsAgent, r.supportSMSharing⟩ :=
    hrange.fractioningAgent
  refine ⟨buildOptions_installation.2.2.trans h.account, fun ctr hctr => ?_⟩
  obtain ⟨mounts, rfl⟩ | rfl := mem_containers_cases hctr
  · exact
      { image := h.container_image (List.mem_cons_self) rfl rfl rfl
        fips := h.fips_mem (fun _ hv => absurd hv List.not_mem_nil)
        fractiond := fun _ processEnv =>
          ⟨_, FractiondDaemon.Daemon.parseFlags_buildArgs hdaemon _ processEnv,
            (supportSMSharing_decoded _ _ _).trans h.sharing⟩
        mpsd := fun hname => absurd hname hmpsd }
  · exact
      { image := h.container_image (List.mem_cons_of_mem _ List.mem_cons_self) rfl rfl rfl
        fips := h.fips_mem (by decide)
        fractiond := fun hname => absurd hname hmetricsd.1
        mpsd := fun hname => absurd hname hmetricsd.2 }

theorem Reconciler.ReadFrom.follows_mpsd (h : r.ReadFrom getenv) (hrange : resource.InRange) :
    (r.builtSpec resource policy (.mpsd
      ⟨resource.mpsDaemon, r.mpsdAuditLog, r.supportSMSharing⟩)).Follows getenv := by
  have hfractiond : MpsdDaemon.daemonName ≠ FractiondDaemon.daemonName := by decide
  have hdaemon : MpsdDaemon.Daemon.InRange
      ⟨resource.mpsDaemon, r.mpsdAuditLog, r.supportSMSharing⟩ := hrange.mpsDaemon
  obtain ⟨-, -, -, -, haudit, hsharing⟩ := MpsdDaemon.Daemon.decoded_fixed
    ⟨resource.mpsDaemon, r.mpsdAuditLog, r.supportSMSharing⟩
  refine ⟨buildOptions_installation.2.2.trans h.account, fun ctr hctr => ?_⟩
  obtain rfl := List.mem_singleton.mp hctr
  exact
    { image := h.container_image
        (List.mem_cons_of_mem _ (List.mem_cons_of_mem _ List.mem_cons_self)) rfl rfl rfl
      fips := h.fips_mem (by simp)
      fractiond := fun hname => absurd hname hfractiond
      mpsd := fun _ processEnv henv =>
        ⟨_, MpsdDaemon.Daemon.parseFlags_buildArgs hdaemon henv,
          hsharing.trans h.sharing, haudit.trans h.auditLog⟩ }

theorem ImageSpec.pullPolicy_ne (image : ImageSpec) : image.pullPolicy ≠ "" := by
  unfold ImageSpec.pullPolicy
  split_ifs with hset
  · exact hset
  · decide

theorem Container.Follows.of_kept {ctr stored : Container} (h : ctr.Follows getenv)
    (hkept : ctr.Kept stored) : stored.Follows getenv := by
  obtain ⟨envName, hname, himage, hpull, hset⟩ := h.image
  have hpolicy : stored.imagePullPolicy = ctr.imagePullPolicy := by
    refine hkept.imagePullPolicy ?_
    rw [hpull]
    exact ImageSpec.pullPolicy_ne _
  exact
    { image := by
        rw [hkept.name, hkept.image, hpolicy]
        exact ⟨envName, hname, himage, hpull, hset⟩
      fips := by
        rw [hkept.env]
        exact h.fips
      fractiond := by
        rw [hkept.name, hkept.args]
        exact h.fractiond
      mpsd := by
        rw [hkept.name, hkept.args]
        intro hmpsd processEnv henv
        refine h.mpsd hmpsd processEnv ⟨?_, ?_⟩
        · rw [← hkept.env]
          exact henv.set
        · rw [← hkept.env]
          exact henv.unset }

/-- Defaults change nothing that the installation sets. -/
theorem DaemonSetSpec.Follows.of_storedFrom {built spec : DaemonSetSpec}
    (h : built.Follows getenv) (hspec : StoredFrom built spec) : spec.Follows getenv := by
  rcases hspec with rfl | ⟨defaults, rfl⟩
  · exact h
  · refine ⟨(defaults.serviceAccountName built).trans h.account, fun stored hstored => ?_⟩
    obtain ⟨ctr, hctr, hkept⟩ := Fallible.exists_of_mem_right (defaults.containers built) hstored
    exact (h.containers ctr hctr).of_kept hkept

/-- Whatever fails, whoever edits the resources and whichever versions of them the DaemonSets
stem from: once the operator has started and its DaemonSets are installed, every container that
is deployed has the image, the mode and the toggles of the installation, and the two daemons are
of one mind about the sharing of SMs. -/
theorem deployed_containers_follow_installation (hmain : mainReconciler getenv = some r)
    {start c : Cluster} (hbegins : Begins r start) (hrun : Runs r start c)
    {daemon : ManagedDaemon} {spec : DaemonSetSpec} (hspec : c.specOf r daemon = some spec) :
    spec.Follows getenv := by
  have hread := readFrom_of_mainReconciler hmain
  obtain ⟨resource, policy, hrange, built, hbuilt, hstored⟩ :=
    hrun.rendered hbegins daemon spec hspec
  refine DaemonSetSpec.Follows.of_storedFrom ?_ hstored
  simp only [Reconciler.daemons, buildDaemons, List.mem_cons, List.not_mem_nil, or_false] at hbuilt
  obtain rfl | rfl := hbuilt
  · exact hread.follows_fractiond hrange
  · exact hread.follows_mpsd hrange

/-- An installation with three images, in FIPS mode, that does not share SMs. -/
def fipsValues : Getenv := fun key =>
  if key = "FRACTIOND_IMAGE_REPOSITORY" then "registry/fractiond"
  else if key = "METRICSD_IMAGE_REPOSITORY" then "registry/metricsd"
  else if key = "MPSD_IMAGE_REPOSITORY" then "registry/mpsd"
  else if key = "FIPS_MODE" then "only"
  else if key = "SUPPORT_SM_SHARING" then "false"
  else ""

/-- The resource after an edit. -/
def editedConfig : GpuFractioningConfig :=
  { sampleConfig with
    generation := 2
    spec := { sampleConfig.spec with
      fractioningAgent := some FractiondDaemon.Daemon.fullSpec } }

def Env.failingMpsd : Env :=
  { Env.undisturbed with
    fails := fun call =>
      if call = .writeDaemonSet MpsdDaemon.daemonName then some "timeout" else none }

/-- The resource is edited after the rollout, and the next reconcile cannot write mpsd. -/
theorem deployed_containers_follow_installation_after_edit :
    ∃ r, mainReconciler fipsValues = some r ∧
      let rolledOut := (r.reconcile .undisturbed (freshCluster (.object []))).1
      let edited := { rolledOut with config := some editedConfig }
      ∀ daemon ∈ r.daemons editedConfig.spec, ∃ spec,
        (r.reconcile .failingMpsd edited).1.specOf r daemon = some spec ∧
          spec.Follows fipsValues := by
  refine ⟨_, rfl, ?_⟩
  generalize hr : Reconciler.mk _ _ _ _ _ _ _ = r
  have hmain : mainReconciler fipsValues = some r := by rw [← hr]; rfl
  intro rolledOut edited daemon hdaemon
  have hspecs : ∃ spec, edited.specOf r daemon = some spec := by
    obtain ⟨built, hbuilt, hsame⟩ := exists_mem_daemons (r := r) sampleConfig.spec daemon
    refine ⟨SpecDefaults.kubernetes.apply (r.builtSpec sampleConfig.spec
      (readClusterPolicy .undisturbed (freshCluster (.object []))) built), ?_⟩
    rw [hsame]
    have hconfig : (freshCluster (.object [])).config = some sampleConfig := rfl
    refine (Cluster.specOf_edit r rolledOut (some editedConfig) built).trans ?_
    exact specOf_reconcile_of_absent r .undisturbed hconfig rfl hbuilt ⟨rfl, rfl, rfl, rfl⟩ rfl
  obtain ⟨before, hbefore⟩ := hspecs
  have hafter : ∃ spec, (r.reconcile .failingMpsd edited).1.specOf r daemon = some spec := by
    obtain hkept | hset := specOf_reconcile r .failingMpsd (c := edited) rfl hdaemon
    · exact ⟨before, hkept.trans hbefore⟩
    · exact ⟨_, hset⟩
  have hrolled : Runs r (freshCluster (.object [])) rolledOut := by
    refine .reconcile .undisturbed .start ?_
    rintro config ⟨⟩
    constructor <;> rintro _ ⟨⟩
  have hrange : editedConfig.spec.InRange := by
    constructor
    · rintro agent ⟨⟩
      constructor <;> decide
    · rintro _ ⟨⟩
  have hrun : Runs r (freshCluster (.object [])) (r.reconcile .failingMpsd edited).1 := by
    refine .reconcile .failingMpsd (hrolled.edit (some editedConfig)) ?_
    rintro config ⟨⟩
    exact hrange
  obtain ⟨spec, hspec⟩ := hafter
  exact ⟨spec, hspec, deployed_containers_follow_installation hmain (.installed fun _ => rfl)
    hrun hspec⟩

end Containers

end GpuFractioning.Operator
