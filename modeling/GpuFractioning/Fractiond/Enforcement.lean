import GpuFractioning.Fractiond.Audit

/-!
# Retroactive enforcement on a node

`NewPlugin` and the handlers of `fractiond/internal/plugin.go`, `sentinel.go`
and `remediate.go` of `fractiond/internal/audit`, and the readiness flag that
`fractiond/cmd/main.go` clears when a connection ends, next to the runtime they
act on. Containers are created through the hook while the plugin is registered
and without it while it is not. A Synchronize audits what is there; the
violators are stopped one after the other in the background, while everything
else goes on.
-/

namespace GpuFractioning.Fractiond

/-- `internal.Config`, as far as containers are concerned. -/
structure PluginConfig extends Config where
  retroactiveEnforcement : Bool
  deriving DecidableEq, Repr

/-- The plugin with its sentinel, which is only there under retroactive enforcement. -/
structure Plugin where
  config : Config
  sentinel : Option Detector
  deriving DecidableEq, Repr

def newPlugin (cfg : PluginConfig) (hasStopper : Bool) : Except String Plugin :=
  if cfg.retroactiveEnforcement then
    if hasStopper then .ok ⟨cfg.toConfig, some cfg.detector⟩
    else .error "retroactive enforcement enabled but no container stopper was provided"
  else .ok ⟨cfg.toConfig, none⟩

/-- The states that the audit looks at; a paused container has left them. -/
def ContainerState.Live (st : ContainerState) : Prop := st = .created ∨ st = .running

instance : DecidablePred ContainerState.Live := fun st =>
  inferInstanceAs (Decidable (st = .created ∨ st = .running))

/-- What the runtime runs and what the plugin is doing. The last six fields are history:
the IDs that were given out, those of the containers the hook let pass, those that were
handed to `Stop`, and, since the latest Synchronize, those whose stop failed and those
that came back to a live state. -/
structure Node where
  pods : List PodSandbox
  containers : List Container
  registered : Bool
  ready : Bool
  /-- The violators each remediation has still to stop. -/
  remediations : List (List Violator)
  usedPodIDs : List String
  usedIDs : List String
  hooked : List String
  stopCalls : List String
  failedStops : List String
  resumed : List String

namespace Node

/-- A node on which fractiond has just started. -/
def start (pods : List PodSandbox) (containers : List Container) : Node where
  pods := pods
  containers := containers
  registered := false
  ready := false
  remediations := []
  usedPodIDs := pods.map PodSandbox.id ++ containers.map Container.podSandboxId
  usedIDs := containers.map Container.id
  hooked := []
  stopCalls := []
  failedStops := []
  resumed := []

def setState (n : Node) (containerID : String) (st : ContainerState) : List Container :=
  n.containers.map fun c => if c.id = containerID then { c with state := st } else c

/-- The history of a change of state. -/
def resumedBy (n : Node) (containerID : String) (st : ContainerState) : List String :=
  if st.Live ∧ ∃ c ∈ n.containers, c.id = containerID ∧ ¬c.state.Live then
    containerID :: n.resumed
  else n.resumed

variable [ParseQuantity]

/-- `Audit`: what is found is left to a goroutine of its own. -/
def audit (plugin : Plugin) (n : Node) : List (List Violator) :=
  match plugin.sentinel with
  | none => n.remediations
  | some detector =>
    let violators := detector.violators n.pods n.containers
    if violators = [] then n.remediations else n.remediations ++ [violators]

/-- `Synchronize`, as far as containers are concerned. -/
def synchronize (plugin : Plugin) (n : Node) : Node :=
  { n with
    registered := true
    ready := true
    remediations := n.audit plugin
    failedStops := []
    resumed := [] }

end Node

/-- The container the runtime creates once the hook has let it pass. -/
def Created [ParseQuantity] (cfg : Config) (pod : PodSandbox) (requested created : Container) :
    Prop :=
  created.id = requested.id ∧ created.podSandboxId = requested.podSandboxId ∧
    match buildAdjustment cfg pod requested with
    | .error _ => False
    | .ok none => created.name = requested.name
    | .ok (some adj) => Applied adj requested created

namespace Node

variable [ParseQuantity]

inductive Next (plugin : Plugin) (n : Node) : Node → Prop
  | runPod (pod : PodSandbox) (hfresh : pod.id ∉ n.usedPodIDs) :
      Next plugin n { n with pods := n.pods ++ [pod], usedPodIDs := pod.id :: n.usedPodIDs }
  | create {pod requested created} (hregistered : n.registered = true) (hpod : pod ∈ n.pods)
      (hsandbox : requested.podSandboxId = pod.id) (hfresh : requested.id ∉ n.usedIDs)
      (hcreated : Created plugin.config pod requested created) :
      Next plugin n
        { n with
          containers := n.containers ++ [created]
          usedIDs := created.id :: n.usedIDs
          hooked := created.id :: n.hooked }
  | createUnhooked {pod} (created : Container) (hregistered : n.registered = false)
      (hpod : pod ∈ n.pods) (hsandbox : created.podSandboxId = pod.id)
      (hfresh : created.id ∉ n.usedIDs) :
      Next plugin n
        { n with containers := n.containers ++ [created], usedIDs := created.id :: n.usedIDs }
  | progress (containerID : String) (st : ContainerState) :
      Next plugin n
        { n with
          containers := n.setState containerID st
          resumed := n.resumedBy containerID st }
  | remove (containerID : String) :
      Next plugin n { n with containers := n.containers.filter fun c => c.id ≠ containerID }
  | synchronize : Next plugin n (n.synchronize plugin)
  | connectionLost : Next plugin n { n with registered := false }
  -- `runWithRetry` clears the flag once the connection is gone
  | runReturned (hregistered : n.registered = false) : Next plugin n { n with ready := false }
  | shutdown : Next plugin n { n with registered := false, ready := false }
  | stopped {before v rest after} (hnext : n.remediations = before ++ (v :: rest) :: after) :
      Next plugin n
        { n with
          containers := n.setState v.containerID .stopped
          remediations := before ++ rest :: after
          stopCalls := n.stopCalls ++ [v.containerID] }
  | stopFailed {before v rest after} (hnext : n.remediations = before ++ (v :: rest) :: after) :
      Next plugin n
        { n with
          remediations := before ++ rest :: after
          stopCalls := n.stopCalls ++ [v.containerID]
          failedStops := n.failedStops ++ [v.containerID] }

inductive Reachable (plugin : Plugin) (pods : List PodSandbox) (containers : List Container) :
    Node → Prop
  | start : Reachable plugin pods containers (start pods containers)
  | next {n n'} (h : Reachable plugin pods containers n) (hn : Next plugin n n') :
      Reachable plugin pods containers n'

end Node

section Checks

variable [ParseQuantity] {cfg : Config} {d : Detector} {c : Container} {v : Violator}

omit [ParseQuantity] in
theorem report_containerID {pod : PodSandbox} {memory : Annotations.GPUMemoryConfig}
    {mode : Annotations.ComputeMode} (h : d.report pod c memory mode = some v) :
    v.containerID = c.id := by
  simp only [Detector.report] at h
  split_ifs at h
  cases h
  rfl

/-- What the audit reports is a live container, and the report does not depend on which of
the live states it is in. -/
theorem check_setState {pod : Option PodSandbox} {st : ContainerState}
    (h : d.check pod (some { c with state := st }) = some v) :
    v.containerID = c.id ∧ st.Live ∧ (c.state.Live → d.check pod (some c) = some v) := by
  cases pod with
  | none => cases h
  | some pod =>
    have hreport : ∀ memory mode, d.report pod { c with state := st } memory mode =
        d.report pod c memory mode := fun _ _ => rfl
    simp only [Detector.check, hreport] at h ⊢
    by_cases hid : c.id = ""
    · rw [if_pos hid] at h
      cases h
    by_cases hdead : st ≠ .created ∧ st ≠ .running
    · rw [if_neg hid, if_pos hdead] at h
      cases h
    rw [if_neg hid, if_neg hdead] at h
    refine ⟨?_, by unfold ContainerState.Live; tauto, ?_⟩
    · split at h
      · cases h
      · split_ifs at h
        · split at h
          · exact report_containerID h
          · cases h
        · split at h
          · exact report_containerID h
          · exact report_containerID h
    · intro hc
      rw [if_neg hid, if_neg (fun hdead' => hc.elim hdead'.1 hdead'.2)]
      exact h

theorem check_containerID {pod : Option PodSandbox} (h : d.check pod (some c) = some v) :
    v.containerID = c.id := by
  have h' : d.check pod (some { c with state := c.state }) = some v := h
  exact (check_setState h').1

theorem check_created {pod : PodSandbox} {requested created : Container}
    (h : Created cfg pod requested created) (st : ContainerState) :
    cfg.detector.check (some pod) (some { created with state := st }) = none := by
  obtain ⟨-, -, hcreated⟩ := h
  split at hcreated
  · exact hcreated.elim
  · next hnone =>
    rw [← Option.not_isSome_iff_eq_none, check_isSome]
    rintro ⟨-, -, o, ho, -⟩
    rw [show ({ created with state := st } : Container).name = requested.name from hcreated] at ho
    rw [buildAdjustment_eq_some.mpr ⟨o, ho, rfl⟩] at hnone
    cases hnone
  · next adj hadj =>
    exact check_applied hadj ⟨hcreated.name, hcreated.removed, hcreated.added, hcreated.mounts⟩

omit [ParseQuantity] in
theorem lookup_append_pod {pods : List PodSandbox} {pod : PodSandbox} {id : String}
    (h : id ≠ pod.id) :
    (podSandboxLookup (pods ++ [pod])).lookup id = (podSandboxLookup pods).lookup id := by
  simp only [podSandboxLookup, List.foldl_append, List.foldl_cons, List.foldl_nil]
  split_ifs
  · rfl
  · rw [FiniteMap.lookup_insert, if_neg h]

omit [ParseQuantity] in
theorem lookup_of_mem_pods {pods : List PodSandbox} {pod : PodSandbox} (hpod : pod ∈ pods)
    (hid : pod.id ≠ "") (hunique : ∀ pod' ∈ pods, pod'.id = pod.id → pod' = pod) :
    (podSandboxLookup pods).lookup pod.id = some pod := by
  induction pods using List.reverseRecOn with
  | nil => cases hpod
  | append_singleton pods last ih =>
    by_cases hlast : last.id = pod.id
    · rw [hunique last (by simp) hlast]
      simp only [podSandboxLookup, List.foldl_append, List.foldl_cons, List.foldl_nil, if_neg hid,
        FiniteMap.lookup_insert, if_pos]
    · have hmem : pod ∈ pods := by
        rcases List.mem_append.mp hpod with hpod | hpod
        · exact hpod
        · exact absurd (congrArg PodSandbox.id (List.mem_singleton.mp hpod)).symm hlast
      rw [lookup_append_pod (Ne.symm hlast)]
      exact ih hmem fun pod' hpod' => hunique pod' (List.mem_append_left _ hpod')

/-- The container is without a variable or the mount that the hook would give it. -/
def Lacks (cfg : Config) (pod : PodSandbox) (c : Container) : Prop :=
  ∃ adj, buildAdjustment cfg pod c = .ok (some adj) ∧
    ((∃ e ∈ adj.addedEnv, containerHasEnv c e.key = false) ∨
      ∃ m ∈ adj.mounts, hasMount c.mounts m.source m.destination = false)

end Checks

namespace Node

variable [ParseQuantity] {cfg : Config} {plugin : Plugin} {n n' : Node}

/-- The containers that are still to be stopped. -/
def pending (n : Node) : List String := n.remediations.flatten.map Violator.containerID

omit [ParseQuantity] in
theorem mem_setState {containerID : String} {st : ContainerState} {c' : Container}
    (h : c' ∈ n.setState containerID st) :
    ∃ c ∈ n.containers, ∃ st', c' = { c with state := st' } ∧
      (c.id = containerID → st' = st) ∧ (c.id ≠ containerID → st' = c.state) := by
  obtain ⟨c, hc, rfl⟩ := List.mem_map.mp h
  by_cases hid : c.id = containerID
  · exact ⟨c, hc, st, if_pos hid, fun _ => rfl, fun hne => absurd hid hne⟩
  · exact ⟨c, hc, c.state, if_neg hid, fun heq => absurd heq hid, fun _ => rfl⟩

theorem mem_pending_synchronize {id : String} :
    id ∈ (n.synchronize plugin).pending ↔ id ∈ n.pending ∨
      ∃ d ∈ plugin.sentinel, ∃ v ∈ d.violators n.pods n.containers, v.containerID = id := by
  simp only [pending, synchronize, audit]
  cases plugin.sentinel with
  | none => simp
  | some d => by_cases hnone : d.violators n.pods n.containers = [] <;> simp [hnone]

/-- IDs are never given out twice, and what the hook let pass is neither found by an audit
nor stopped. -/
structure Sound (cfg : Config) (n : Node) : Prop where
  pods_used : ∀ pod ∈ n.pods, pod.id ∈ n.usedPodIDs
  pods_unique : ∀ pod ∈ n.pods, ∀ pod' ∈ n.pods, pod'.id = pod.id → pod' = pod
  sandboxes_used : ∀ c ∈ n.containers, c.podSandboxId ∈ n.usedPodIDs
  ids_used : ∀ c ∈ n.containers, c.id ∈ n.usedIDs
  hooked_used : ∀ id ∈ n.hooked, id ∈ n.usedIDs
  injected : ∀ c ∈ n.containers, c.id ∈ n.hooked → ∀ pod ∈ n.pods, pod.id = c.podSandboxId →
    ∀ st, cfg.detector.check (some pod) (some { c with state := st }) = none
  spared : ∀ id ∈ n.pending ++ n.stopCalls, id ∈ n.usedIDs ∧ id ∉ n.hooked

theorem sound_start {pods : List PodSandbox} (hpods : (pods.map PodSandbox.id).Nodup)
    (containers : List Container) : Sound cfg (start pods containers) where
  pods_used pod hpod := List.mem_append_left _ (List.mem_map_of_mem hpod)
  pods_unique pod hpod pod' hpod' hid := List.inj_on_of_nodup_map hpods hpod' hpod hid
  sandboxes_used c hc := List.mem_append_right _ (List.mem_map_of_mem hc)
  ids_used c hc := List.mem_map_of_mem hc
  hooked_used id hid := by cases hid
  injected c _ hhooked := by cases hhooked
  spared id hid := by cases hid

theorem Sound.setState (h : Sound cfg n) (containerID : String) (st : ContainerState)
    (resumed : List String) :
    Sound cfg { n with containers := n.setState containerID st, resumed := resumed } where
  pods_used := h.pods_used
  pods_unique := h.pods_unique
  sandboxes_used c' hc' := by
    obtain ⟨c, hc, st', rfl, -, -⟩ := mem_setState hc'
    exact h.sandboxes_used c hc
  ids_used c' hc' := by
    obtain ⟨c, hc, st', rfl, -, -⟩ := mem_setState hc'
    exact h.ids_used c hc
  hooked_used := h.hooked_used
  injected c' hc' := by
    obtain ⟨c, hc, st', rfl, -, -⟩ := mem_setState hc'
    exact h.injected c hc
  spared := h.spared

theorem Sound.violator (h : Sound cfg n) {v : Violator}
    (hv : v ∈ cfg.detector.violators n.pods n.containers) :
    v.containerID ∈ n.usedIDs ∧ v.containerID ∉ n.hooked := by
  obtain ⟨c, hc, hcheck⟩ := List.mem_filterMap.mp hv
  rw [check_containerID hcheck]
  refine ⟨h.ids_used c hc, ?_⟩
  intro hhooked
  cases hpod : (podSandboxLookup n.pods).lookup c.podSandboxId with
  | none =>
    rw [hpod] at hcheck
    cases hcheck
  | some pod =>
    obtain ⟨hmem, hid⟩ := podSandboxLookup_eq_some hpod
    have hnone := h.injected c hc hhooked pod hmem hid c.state
    rw [hpod] at hcheck
    rw [hcheck] at hnone
    cases hnone

omit [ParseQuantity] in
theorem mem_pending_of_next {before after : List (List Violator)} {v : Violator}
    {rest : List Violator} (hnext : n.remediations = before ++ (v :: rest) :: after)
    {id : String} :
    id ∈ n.pending ↔ id = v.containerID ∨
      id ∈ (before ++ rest :: after).flatten.map Violator.containerID := by
  simp only [pending, hnext, List.flatten_append, List.flatten_cons, List.map_append,
    List.map_cons, List.cons_append, List.mem_append, List.mem_cons]
  tauto

theorem Sound.called (h : Sound cfg n) {before after : List (List Violator)} {v : Violator}
    {rest : List Violator} (hnext : n.remediations = before ++ (v :: rest) :: after)
    (failed : List String) :
    Sound cfg
      { n with
        remediations := before ++ rest :: after
        stopCalls := n.stopCalls ++ [v.containerID]
        failedStops := failed } where
  pods_used := h.pods_used
  pods_unique := h.pods_unique
  sandboxes_used := h.sandboxes_used
  ids_used := h.ids_used
  hooked_used := h.hooked_used
  injected := h.injected
  spared id hid := by
    apply h.spared id
    simp only [List.mem_append, mem_pending_of_next hnext]
    simp only [pending, List.mem_append, List.mem_singleton] at hid
    tauto

theorem Sound.add (h : Sound cfg n) {pod : PodSandbox} (hpod : pod ∈ n.pods)
    {created : Container} (hsandbox : created.podSandboxId = pod.id)
    (hfresh : created.id ∉ n.usedIDs) {hooked : List String}
    (hhooked : hooked = n.hooked ∨ hooked = created.id :: n.hooked ∧
      ∀ st, cfg.detector.check (some pod) (some { created with state := st }) = none) :
    Sound cfg
      { n with
        containers := n.containers ++ [created]
        usedIDs := created.id :: n.usedIDs
        hooked := hooked } := by
  have hold : ∀ id ∈ n.usedIDs, id ∈ hooked → id ∈ n.hooked := by
    intro id hid hmem
    rcases hhooked with rfl | ⟨rfl, -⟩
    · exact hmem
    · rcases List.mem_cons.mp hmem with rfl | hmem
      · exact absurd hid hfresh
      · exact hmem
  refine ⟨h.pods_used, h.pods_unique, ?_, ?_, ?_, ?_, ?_⟩
  · intro c hc
    rcases List.mem_append.mp hc with hc | hc
    · exact h.sandboxes_used c hc
    · rw [List.mem_singleton.mp hc, hsandbox]
      exact h.pods_used pod hpod
  · intro c hc
    rcases List.mem_append.mp hc with hc | hc
    · exact List.mem_cons_of_mem _ (h.ids_used c hc)
    · rw [List.mem_singleton.mp hc]
      exact List.mem_cons_self
  · intro id hid
    rcases hhooked with rfl | ⟨rfl, -⟩
    · exact List.mem_cons_of_mem _ (h.hooked_used id hid)
    · exact List.cons_subset_cons _ h.hooked_used hid
  · intro c hc hmem pod' hpod' hid st
    rcases List.mem_append.mp hc with hc | hc
    · exact h.injected c hc (hold _ (h.ids_used c hc) hmem) pod' hpod' hid st
    · rw [List.mem_singleton.mp hc] at hmem hid ⊢
      rcases hhooked with rfl | ⟨-, hcheck⟩
      · exact absurd (h.hooked_used _ hmem) hfresh
      · rw [h.pods_unique pod hpod pod' hpod' (hid.trans hsandbox)]
        exact hcheck st
  · intro id hid
    obtain ⟨hused, hnot⟩ := h.spared id hid
    exact ⟨List.mem_cons_of_mem _ hused, fun hmem => hnot (hold id hused hmem)⟩

theorem Sound.addPod (h : Sound cfg n) {pod : PodSandbox} (hfresh : pod.id ∉ n.usedPodIDs) :
    Sound cfg { n with pods := n.pods ++ [pod], usedPodIDs := pod.id :: n.usedPodIDs } := by
  have hother : ∀ pod' ∈ n.pods, pod'.id ≠ pod.id :=
    fun pod' hpod' hid => hfresh (hid ▸ h.pods_used pod' hpod')
  refine ⟨?_, ?_, ?_, h.ids_used, h.hooked_used, ?_, h.spared⟩
  · intro pod' hpod'
    rcases List.mem_append.mp hpod' with hpod' | hpod'
    · exact List.mem_cons_of_mem _ (h.pods_used pod' hpod')
    · rw [List.mem_singleton.mp hpod']
      exact List.mem_cons_self
  · intro p hp q hq hid
    rcases List.mem_append.mp hp with hp | hp <;> rcases List.mem_append.mp hq with hq | hq
    · exact h.pods_unique p hp q hq hid
    · rw [List.mem_singleton.mp hq] at hid
      exact absurd hid.symm (hother p hp)
    · rw [List.mem_singleton.mp hp] at hid
      exact absurd hid (hother q hq)
    · rw [List.mem_singleton.mp hp, List.mem_singleton.mp hq]
  · intro c hc
    exact List.mem_cons_of_mem _ (h.sandboxes_used c hc)
  · intro c hc hmem pod' hpod' hid st
    rcases List.mem_append.mp hpod' with hpod' | hpod'
    · exact h.injected c hc hmem pod' hpod' hid st
    · rw [List.mem_singleton.mp hpod'] at hid
      exact absurd (hid ▸ h.sandboxes_used c hc) hfresh

theorem Sound.next (hplugin : ∀ d ∈ plugin.sentinel, d = plugin.config.detector)
    (h : Sound plugin.config n) (hn : Next plugin n n') : Sound plugin.config n' := by
  cases hn with
  | runPod pod hfresh => exact h.addPod hfresh
  | create hregistered hpod hsandbox hfresh hcreated =>
    exact h.add hpod (hcreated.2.1.trans hsandbox) (hcreated.1 ▸ hfresh)
      (.inr ⟨rfl, check_created hcreated⟩)
  | createUnhooked created hregistered hpod hsandbox hfresh =>
    exact h.add hpod hsandbox hfresh (.inl rfl)
  | progress containerID st => exact h.setState containerID st _
  | remove containerID =>
    exact ⟨h.pods_used, h.pods_unique, fun c hc => h.sandboxes_used c (List.mem_of_mem_filter hc),
      fun c hc => h.ids_used c (List.mem_of_mem_filter hc), h.hooked_used,
      fun c hc => h.injected c (List.mem_of_mem_filter hc), h.spared⟩
  | synchronize =>
    refine ⟨h.pods_used, h.pods_unique, h.sandboxes_used, h.ids_used, h.hooked_used, h.injected,
      ?_⟩
    intro id hid
    rcases List.mem_append.mp hid with hid | hid
    · rcases mem_pending_synchronize.mp hid with hid | ⟨d, hd, v, hv, rfl⟩
      · exact h.spared id (List.mem_append_left _ hid)
      · rw [hplugin d hd] at hv
        exact h.violator hv
    · exact h.spared id (List.mem_append_right _ hid)
  | connectionLost => exact ⟨h.1, h.2, h.3, h.4, h.5, h.6, h.7⟩
  | runReturned _ => exact ⟨h.1, h.2, h.3, h.4, h.5, h.6, h.7⟩
  | shutdown => exact ⟨h.1, h.2, h.3, h.4, h.5, h.6, h.7⟩
  | stopped hnext => exact (h.called hnext n.failedStops).setState _ _ n.resumed
  | stopFailed hnext => exact h.called hnext _

/-- While the plugin is registered, a container that the audit would report is going to be
stopped, unless its stop has failed or it was in no live state when the audit was made. -/
def Covered (cfg : Config) (n : Node) : Prop :=
  n.registered = true → ∀ v ∈ cfg.detector.violators n.pods n.containers,
    v.containerID ∈ n.pending ∨ v.containerID ∈ n.failedStops ∨ v.containerID ∈ n.resumed

theorem violator_setState {d : Detector} {containerID : String} {st : ContainerState}
    {v : Violator} (hv : v ∈ d.violators n.pods (n.setState containerID st)) :
    (v.containerID = containerID → st.Live) ∧
      (v ∈ d.violators n.pods n.containers ∨ v.containerID = containerID ∧ st.Live ∧
        ∃ c ∈ n.containers, c.id = containerID ∧ ¬c.state.Live) := by
  obtain ⟨c', hc', hcheck⟩ := List.mem_filterMap.mp hv
  obtain ⟨c, hc, st', rfl, hsame, hother⟩ := mem_setState hc'
  obtain ⟨hid, hlive, hold⟩ := check_setState hcheck
  have hchanged : c.id = containerID → st.Live := by
    intro heq
    rw [← hsame heq]
    exact hlive
  refine ⟨fun hcontainer => hchanged (hid.symm.trans hcontainer), ?_⟩
  by_cases hbefore : c.state.Live
  · exact .inl (List.mem_filterMap.mpr ⟨c, hc, hold hbefore⟩)
  · have heq : c.id = containerID := by
      by_contra hne
      rw [hother hne] at hlive
      exact hbefore hlive
    exact .inr ⟨hid.trans heq, hchanged heq, c, hc, heq, hbefore⟩

theorem Covered.next (hplugin : plugin.sentinel = some plugin.config.detector)
    (h : Sound plugin.config n) (hcovered : Covered plugin.config n) (hn : Next plugin n n') :
    Covered plugin.config n' := by
  have hsound := h.next (by simp [hplugin]) hn
  intro hregistered v hv
  cases hn with
  | runPod pod hfresh =>
    refine hcovered hregistered v ?_
    obtain ⟨c, hc, hcheck⟩ := List.mem_filterMap.mp hv
    refine List.mem_filterMap.mpr ⟨c, hc, ?_⟩
    rwa [lookup_append_pod fun hid => hfresh (hid ▸ h.sandboxes_used c hc)] at hcheck
  | @create pod requested created hreg hpod hsandbox hfresh hcreated =>
    refine hcovered hregistered v ?_
    obtain ⟨c, hc, hcheck⟩ := List.mem_filterMap.mp hv
    rcases List.mem_append.mp hc with hc | hc
    · exact List.mem_filterMap.mpr ⟨c, hc, hcheck⟩
    · have hid : v.containerID = created.id := by
        rw [check_containerID hcheck, List.mem_singleton.mp hc]
      exact absurd (hid ▸ List.mem_cons_self) (hsound.violator hv).2
  | createUnhooked created hreg =>
    rw [hreg] at hregistered
    cases hregistered
  | progress containerID st =>
    change _ ∨ _ ∨ v.containerID ∈ n.resumedBy containerID st
    unfold resumedBy
    rcases (violator_setState (n := n) hv).2 with hbefore | ⟨hid, hback⟩
    · rcases hcovered hregistered v hbefore with hpending | hfailed | hresumed
      · exact .inl hpending
      · exact .inr (.inl hfailed)
      · refine .inr (.inr ?_)
        split_ifs
        · exact List.mem_cons_of_mem _ hresumed
        · exact hresumed
    · rw [if_pos hback, hid]
      exact .inr (.inr List.mem_cons_self)
  | remove containerID =>
    refine hcovered hregistered v ?_
    obtain ⟨c, hc, hcheck⟩ := List.mem_filterMap.mp hv
    exact List.mem_filterMap.mpr ⟨c, List.mem_of_mem_filter hc, hcheck⟩
  | synchronize =>
    exact .inl (mem_pending_synchronize.mpr (.inr ⟨_, hplugin, v, hv, rfl⟩))
  | connectionLost => cases hregistered
  | runReturned hreg =>
    rw [hreg] at hregistered
    cases hregistered
  | shutdown => cases hregistered
  | @stopped before w rest after hnext =>
    have hdead : ¬ ContainerState.Live .stopped := by rintro (h | h) <;> cases h
    obtain ⟨hlive, hbefore | ⟨-, hst, -⟩⟩ := violator_setState (n := n) hv
    swap
    · exact absurd hst hdead
    rcases hcovered hregistered v hbefore with hpending | hfailed
    · rcases (mem_pending_of_next hnext).mp hpending with hid | hpending
      · exact absurd (hlive hid) hdead
      · exact .inl hpending
    · exact .inr hfailed
  | @stopFailed before w rest after hnext =>
    rcases hcovered hregistered v hv with hpending | hfailed | hresumed
    · rcases (mem_pending_of_next hnext).mp hpending with hid | hpending
      · exact .inr (.inl (List.mem_append_right _ (List.mem_singleton.mpr hid)))
      · exact .inl hpending
    · exact .inr (.inl (List.mem_append_left _ hfailed))
    · exact .inr (.inr hresumed)

end Node

section Runs

variable [ParseQuantity] {cfg : PluginConfig} {hasStopper : Bool} {plugin : Plugin}
  {pods : List PodSandbox} {containers : List Container} {n : Node}

omit [ParseQuantity] in
theorem newPlugin_eq_ok (h : newPlugin cfg hasStopper = .ok plugin) :
    plugin.config = cfg.toConfig ∧
      plugin.sentinel = if cfg.retroactiveEnforcement then some cfg.detector else none := by
  unfold newPlugin at h
  split_ifs at h with henforce hstopper
  · cases h
    simp [henforce]
  · cases h
    simp [henforce]

theorem Node.Reachable.sound (hplugin : ∀ d ∈ plugin.sentinel, d = plugin.config.detector)
    (hpods : (pods.map PodSandbox.id).Nodup) (h : Node.Reachable plugin pods containers n) :
    Node.Sound plugin.config n := by
  induction h with
  | start => exact Node.sound_start hpods containers
  | next _ hn ih => exact ih.next hplugin hn

theorem Node.Reachable.covered (hplugin : plugin.sentinel = some plugin.config.detector)
    (hpods : (pods.map PodSandbox.id).Nodup) (h : Node.Reachable plugin pods containers n) :
    Node.Covered plugin.config n := by
  induction h with
  | start =>
    intro hregistered
    cases hregistered
  | next hreach hn ih => exact ih.next hplugin (hreach.sound (by simp [hplugin]) hpods) hn

/-- A plugin that is registered reports ready. Not the other way round: the flag outlives a
lost connection until `runWithRetry` has seen the end of it. -/
theorem Node.Reachable.ready (h : Node.Reachable plugin pods containers n)
    (hregistered : n.registered = true) : n.ready = true := by
  induction h with
  | start => cases hregistered
  | next _ hn ih =>
    cases hn with
    | runPod _ _ => exact ih hregistered
    | create hreg _ _ _ _ => exact ih hreg
    | createUnhooked _ _ _ _ _ => exact ih hregistered
    | progress _ _ => exact ih hregistered
    | remove _ => exact ih hregistered
    | synchronize => rfl
    | connectionLost => cases hregistered
    | runReturned hreg => exact absurd hregistered (by simp [hreg])
    | shutdown => cases hregistered
    | stopped _ => exact ih hregistered
    | stopFailed _ => exact ih hregistered

end Runs

section Trainer

def enforcingConfig : PluginConfig := { defaultConfig with retroactiveEnforcement := true }

def enforcingPlugin : Plugin := ⟨defaultConfig, some defaultConfig.detector⟩

theorem newPlugin_enforcingConfig : newPlugin enforcingConfig true = .ok enforcingPlugin := rfl

theorem exists_trainer_audited :
    letI := gibQuantities
    ∃ v, v.containerID = "c1" ∧
      ((Node.start [trainerPod] [trainerContainer]).synchronize enforcingPlugin).remediations =
        [] ++ [v] :: [] := by
  let inst : ParseQuantity := gibQuantities
  obtain ⟨v, hv⟩ := List.length_eq_one_iff.mp
    (by decide : (defaultConfig.detector.violators [trainerPod] [trainerContainer]).length = 1)
  refine ⟨v, ?_, ?_⟩
  · have hmem : v ∈ defaultConfig.detector.violators [trainerPod] [trainerContainer] := by
      rw [hv]
      exact List.mem_singleton_self v
    obtain ⟨c, hc, hcheck⟩ := List.mem_filterMap.mp hmem
    rw [check_containerID hcheck, List.mem_singleton.mp hc]
    rfl
  · simp only [Node.synchronize, Node.audit, Node.start, enforcingPlugin, hv]
    rfl

theorem lacks_trainer :
    letI := gibQuantities
    Lacks defaultConfig trainerPod trainerContainer := by
  let inst : ParseQuantity := gibQuantities
  obtain ⟨o, ho⟩ := Option.isSome_iff_exists.mp
    (by decide : (owed defaultConfig trainerPod.annotations trainerContainer.name).isSome)
  refine ⟨_, buildAdjustment_eq_some.mpr ⟨o, ho, rfl⟩, .inr ?_⟩
  rw [adjustment_mounts]
  exact ⟨_, List.mem_singleton_self _, rfl⟩

end Trainer

section Safety

variable [ParseQuantity] {cfg : PluginConfig} {hasStopper : Bool} {plugin : Plugin}
  {pods : List PodSandbox} {containers : List Container} {n : Node}

/-- No container that was created through the hook is ever handed to `Stop`. -/
theorem enforcement_spares_hooked_containers (hplugin : newPlugin cfg hasStopper = .ok plugin)
    (hpods : (pods.map PodSandbox.id).Nodup) (h : Node.Reachable plugin pods containers n) :
    ∀ containerID ∈ n.stopCalls, containerID ∉ n.hooked := by
  obtain ⟨hconfig, hsentinel⟩ := newPlugin_eq_ok hplugin
  have hown : ∀ d ∈ plugin.sentinel, d = plugin.config.detector := by
    intro d hd
    rw [hsentinel] at hd
    split_ifs at hd
    · rw [hconfig]
      exact (Option.some.inj hd).symm
    · cases hd
  intro containerID hid
  exact ((h.sound hown hpods).spared containerID (List.mem_append_right _ hid)).2

end Safety

theorem enforcement_spares_hooked_containers_trainer :
    letI := gibQuantities
    ∃ n, Node.Reachable ⟨defaultConfig, some defaultConfig.detector⟩ [trainerPod]
      [trainerContainer] n ∧ n.stopCalls = ["c1"] ∧ "c1" ∉ n.hooked := by
  let inst : ParseQuantity := gibQuantities
  obtain ⟨v, hid, hremediations⟩ := exists_trainer_audited
  have hstart : Node.Reachable enforcingPlugin [trainerPod] [trainerContainer] _ := .start
  have hreach := (hstart.next .synchronize).next (.stopped hremediations)
  have hspared := enforcement_spares_hooked_containers newPlugin_enforcingConfig (by decide) hreach
    v.containerID List.mem_cons_self
  rw [hid] at hspared
  refine ⟨_, hreach, ?_, hspared⟩
  rw [← hid]
  rfl

section Completeness

variable [ParseQuantity] {cfg : PluginConfig} {hasStopper : Bool} {plugin : Plugin}
  {pods : List PodSandbox} {containers : List Container} {n : Node}

/-- Once the remediations are through, a live container that lacks a part of its injection
is one whose stop has failed, or that was in no live state, since the plugin was
registered. -/
theorem enforcement_reaches_unhooked_containers
    (hplugin : newPlugin cfg hasStopper = .ok plugin)
    (henforce : cfg.retroactiveEnforcement = true) (hpods : (pods.map PodSandbox.id).Nodup)
    (h : Node.Reachable plugin pods containers n) (hregistered : n.registered = true)
    (hdone : n.pending = []) :
    ∀ pod ∈ n.pods, ∀ c ∈ n.containers, c.podSandboxId = pod.id → pod.id ≠ "" → c.id ≠ "" →
      c.state.Live → Lacks cfg.toConfig pod c → c.id ∈ n.failedStops ∨ c.id ∈ n.resumed := by
  obtain ⟨hconfig, hsentinel⟩ := newPlugin_eq_ok hplugin
  rw [if_pos henforce, ← hconfig] at hsentinel
  have hsound := h.sound (by simp [hsentinel]) hpods
  intro pod hpod c hc hsandbox hpodID hid hlive hlacks
  obtain ⟨adj, hadj, hlacking⟩ := hlacks
  rw [← hconfig] at hadj
  obtain ⟨v, hcheck⟩ := Option.isSome_iff_exists.mp (check_of_lacking hadj hid hlive hlacking)
  have hlookup := lookup_of_mem_pods hpod hpodID (hsound.pods_unique pod hpod)
  rw [← hsandbox] at hlookup
  have hv : v ∈ plugin.config.detector.violators n.pods n.containers :=
    List.mem_filterMap.mpr ⟨c, hc, by rw [hlookup, hcheck]⟩
  rw [← check_containerID hcheck]
  rcases h.covered hsentinel hpods hregistered v hv with hpending | hleft
  · rw [hdone] at hpending
    cases hpending
  · exact hleft

end Completeness

/-- The runtime refuses to stop the trainer, which then runs on without its injection. -/
theorem enforcement_reaches_unhooked_containers_trainer :
    letI := gibQuantities
    ∃ n, Node.Reachable ⟨defaultConfig, some defaultConfig.detector⟩ [trainerPod]
      [trainerContainer] n ∧ trainerContainer ∈ n.containers ∧
      Lacks defaultConfig trainerPod trainerContainer ∧ n.resumed = [] ∧
      trainerContainer.id ∈ n.failedStops := by
  let inst : ParseQuantity := gibQuantities
  obtain ⟨v, -, hremediations⟩ := exists_trainer_audited
  have hstart : Node.Reachable enforcingPlugin [trainerPod] [trainerContainer] _ := .start
  have hreach := (hstart.next .synchronize).next (.stopFailed hremediations)
  have hreached := enforcement_reaches_unhooked_containers newPlugin_enforcingConfig rfl (by decide)
    hreach rfl rfl trainerPod List.mem_cons_self trainerContainer List.mem_cons_self rfl
    (by decide) (by decide) (by decide) lacks_trainer
  refine ⟨_, hreach, List.mem_cons_self, lacks_trainer, rfl, ?_⟩
  rcases hreached with hfailed | hresumed
  · exact hfailed
  · cases hresumed

end GpuFractioning.Fractiond
