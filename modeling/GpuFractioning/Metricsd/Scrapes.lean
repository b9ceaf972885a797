import GpuFractioning.Metricsd.ExporterRuns

/-!
# Concurrent scrapes

Every `/metrics` request fetches the engine's snapshot, observes it under the
exporter's mutex and then gathers the gauges without it. The steps of the
requests and the engine's collects interleave freely: a gauge call is one step,
listing the series of a gauge vector is one step, and so is reading the value
of a listed series.
-/

namespace GpuFractioning.Metricsd

structure Sample where
  gauge : Gauge
  labels : Labels
  value : ℚ
  deriving DecidableEq, Repr

/-- A series listed for a response and not read yet. The gatherer holds on to the
gauge, so a series that is deleted in the meantime keeps its last value. -/
structure Listed where
  gauge : Gauge
  labels : Labels
  detached : Option ℚ
  deriving DecidableEq, Repr

def samples (gauges : Gauges) (g : Gauge) : List Sample :=
  (gauges g).pairs.map fun e => ⟨g, e.1, e.2⟩

def listing (gauges : Gauges) (g : Gauge) : List Listed :=
  (gauges g).pairs.map fun e => ⟨g, e.1, none⟩

def allGauges : List Gauge := [.memoryBytes, .smUtilization, .smUtilizationNormalized]

namespace Listed

def read (gauges : Gauges) (series : Listed) : Sample :=
  ⟨series.gauge, series.labels,
    series.detached.getD (((gauges series.gauge).lookup series.labels).getD 0)⟩

def detach (gauges : Gauges) (op : GaugeOp) (series : Listed) : Listed :=
  match op with
  | .set _ _ _ => series
  | .delete g l =>
    if series.gauge = g ∧ series.labels = l ∧ series.detached = none then
      { series with detached := (gauges g).lookup l }
    else series

end Listed

/-- Where a request is; the snapshot is the one it fetched. -/
inductive Phase where
  | idle
  | fetched (snapshot : Snapshot)
  | observing (snapshot : Snapshot) (ops : List GaugeOp)
  | gathering (snapshot : Snapshot) (vecs : List Gauge) (pending : List Listed)
      (response : List Sample)
  | done (snapshot : Snapshot) (response : List Sample)
  deriving DecidableEq

namespace Phase

/-- Between taking the mutex and the end of the response. -/
def Busy : Phase → Prop
  | observing _ _ | gathering _ _ _ _ => True
  | idle | fetched _ | done _ _ => False

def detach (gauges : Gauges) (op : GaugeOp) : Phase → Phase
  | gathering snapshot vecs pending response =>
    gathering snapshot vecs (pending.map (Listed.detach gauges op)) response
  | phase => phase

theorem detach_of_not_busy {phase : Phase} (h : ¬ phase.Busy) (gauges : Gauges) (op : GaugeOp) :
    phase.detach gauges op = phase := by
  cases phase with
  | gathering => exact absurd trivial h
  | _ => rfl

end Phase

structure ScrapeState where
  metrics : MetricsState
  mutex : Option ℕ
  requests : ℕ → Phase

inductive ScrapeAction where
  | collect (pods : PodSource) (nvml : GPUProcessSnapshot)
  | fetch (i : ℕ)
  | lock (i : ℕ)
  | work (i : ℕ)
  | list (i : ℕ) (g : Gauge)
  | read (i : ℕ) (position : ℕ)
  | finish (i : ℕ)

/-- The request that takes the step. -/
def ScrapeAction.request? : ScrapeAction → Option ℕ
  | .collect _ _ => none
  | .fetch i | .lock i | .work i | .list i _ | .read i _ | .finish i => some i

namespace ScrapeState

def new (interval smUtilWindow : ℤ) : ScrapeState :=
  { metrics := MetricsState.new interval smUtilWindow, mutex := none, requests := fun _ => .idle }

def setPhase (s : ScrapeState) (i : ℕ) (phase : Phase) : ScrapeState :=
  { s with requests := Function.update s.requests i phase }

/-- One step, if it is enabled. -/
def step (s : ScrapeState) : ScrapeAction → Option ScrapeState
  | .collect pods nvml => some { s with metrics := s.metrics.collect pods nvml }
  | .fetch i =>
    match s.requests i with
    | .idle => some (s.setPhase i (.fetched s.metrics.engine.snapshot))
    | _ => none
  | .lock i =>
    match s.requests i, s.mutex with
    | .fetched snapshot, none =>
      -- only the holder of the mutex uses the known labels
      let p := plan s.metrics.runtime.knownLabels snapshot
      some
        { metrics := { s.metrics with
            runtime := { s.metrics.runtime with knownLabels := p.knownLabels } }
          mutex := some i
          requests := Function.update s.requests i (.observing snapshot p.ops) }
    | _, _ => none
  | .work i =>
    match s.requests i with
    | .observing snapshot (op :: ops) =>
      let gauges := s.metrics.runtime.gauges
      some
        { s with
          metrics := { s.metrics with
            runtime := { s.metrics.runtime with gauges := op.apply gauges } }
          requests := Function.update (fun j => (s.requests j).detach gauges op) i
            (.observing snapshot ops) }
    | .observing snapshot [] =>
      some
        { s with
          mutex := none
          requests := Function.update s.requests i (.gathering snapshot allGauges [] []) }
    | _ => none
  | .list i g =>
    match s.requests i with
    | .gathering snapshot vecs pending response =>
      if g ∈ vecs then
        some (s.setPhase i (.gathering snapshot (vecs.erase g)
          (pending ++ listing s.metrics.runtime.gauges g) response))
      else none
    | _ => none
  | .read i position =>
    match s.requests i with
    | .gathering snapshot vecs pending response =>
      pending[position]?.map fun series =>
        s.setPhase i (.gathering snapshot vecs (pending.eraseIdx position)
          (response ++ [series.read s.metrics.runtime.gauges]))
    | _ => none
  | .finish i =>
    match s.requests i with
    | .gathering snapshot [] [] response => some (s.setPhase i (.done snapshot response))
    | _ => none

/-- The states of the runs whose steps all meet `P`. -/
inductive Reachable (interval smUtilWindow : ℤ) (P : ScrapeState → ScrapeAction → Prop) :
    ScrapeState → Prop where
  | new : Reachable interval smUtilWindow P (new interval smUtilWindow)
  | step {s s' : ScrapeState} {a : ScrapeAction} (hs : Reachable interval smUtilWindow P s)
      (hP : P s a) (hstep : s.step a = some s') : Reachable interval smUtilWindow P s'

/-- No observe starts while another request is observing or gathering. -/
def Serial (s : ScrapeState) : ScrapeAction → Prop
  | .lock _ => ∀ j, ¬ (s.requests j).Busy
  | _ => True

/-- An execution of the given steps. -/
def run (s : ScrapeState) : List ScrapeAction → Option ScrapeState
  | [] => some s
  | a :: actions => (s.step a).bind fun s => s.run actions

theorem Reachable.run {interval smUtilWindow : ℤ} {P : ScrapeState → ScrapeAction → Prop}
    {s s' : ScrapeState} (hs : Reachable interval smUtilWindow P s) {actions : List ScrapeAction}
    (hP : ∀ a ∈ actions, ∀ s, P s a) (hrun : s.run actions = some s') :
    Reachable interval smUtilWindow P s' := by
  induction actions generalizing s with
  | nil =>
    cases hrun
    exact hs
  | cons a actions ih =>
    obtain ⟨t, hstep, hrest⟩ := Option.bind_eq_some_iff.mp hrun
    exact ih (hs.step (hP a List.mem_cons_self s) hstep)
      (fun b hb => hP b (List.mem_cons_of_mem _ hb)) hrest

theorem run_append_eq_some {s s' : ScrapeState} {actions later : List ScrapeAction} :
    s.run (actions ++ later) = some s' ↔ ∃ t, s.run actions = some t ∧ t.run later = some s' := by
  induction actions generalizing s with
  | nil => simp [run]
  | cons a actions ih =>
    simp only [List.cons_append, run, Option.bind_eq_some_iff, ih]
    tauto

theorem requests_setPhase_of_ne {i j : ℕ} (hne : j ≠ i) (s : ScrapeState) (phase : Phase) :
    (s.setPhase i phase).requests j = s.requests j :=
  Function.update_of_ne hne _ _

/-- A step of one request can only detach series of another. -/
theorem requests_of_step {s s' : ScrapeState} {a : ScrapeAction} (hstep : s.step a = some s')
    {j : ℕ} (hj : a.request? ≠ some j) :
    s'.requests j = s.requests j ∨
      ∃ op, s'.requests j = (s.requests j).detach s.metrics.runtime.gauges op := by
  have hne : ∀ i, a.request? = some i → j ≠ i := by
    rintro i hi rfl
    exact hj hi
  cases a with
  | collect pods nvml =>
    cases hstep
    exact .inl rfl
  | fetch i =>
    simp only [step] at hstep
    split at hstep
    · cases hstep
      exact .inl (requests_setPhase_of_ne (hne i rfl) _ _)
    · cases hstep
  | lock i =>
    simp only [step] at hstep
    split at hstep
    · cases hstep
      exact .inl (Function.update_of_ne (hne i rfl) _ _)
    · cases hstep
  | work i =>
    simp only [step] at hstep
    split at hstep
    · rename_i snapshot op ops hphase
      cases hstep
      refine .inr ⟨op, ?_⟩
      simp only [Function.update_of_ne (hne i rfl)]
    · cases hstep
      exact .inl (Function.update_of_ne (hne i rfl) _ _)
    · cases hstep
  | list i g =>
    simp only [step] at hstep
    split at hstep
    · split_ifs at hstep
      cases hstep
      exact .inl (requests_setPhase_of_ne (hne i rfl) _ _)
    · cases hstep
  | read i position =>
    simp only [step] at hstep
    split at hstep
    · obtain ⟨series, -, rfl⟩ := Option.map_eq_some_iff.mp hstep
      exact .inl (requests_setPhase_of_ne (hne i rfl) _ _)
    · cases hstep
  | finish i =>
    simp only [step] at hstep
    split at hstep
    · cases hstep
      exact .inl (requests_setPhase_of_ne (hne i rfl) _ _)
    · cases hstep

theorem busy_of_step {s s' : ScrapeState} {a : ScrapeAction} (hstep : s.step a = some s') {j : ℕ}
    (hj : a.request? ≠ some j) (hbusy : (s'.requests j).Busy) : (s.requests j).Busy := by
  by_contra hidle
  obtain hsame | ⟨op, hdetached⟩ := requests_of_step hstep hj
  · rw [hsame] at hbusy
    exact hidle hbusy
  · rw [hdetached, Phase.detach_of_not_busy hidle] at hbusy
    exact hidle hbusy

theorem busy_of_run {s s' : ScrapeState} {actions : List ScrapeAction}
    (hrun : s.run actions = some s') {j : ℕ} (hj : ∀ a ∈ actions, a.request? ≠ some j)
    (hbusy : (s'.requests j).Busy) : (s.requests j).Busy := by
  induction actions generalizing s with
  | nil =>
    cases hrun
    exact hbusy
  | cons a actions ih =>
    obtain ⟨t, hstep, hrest⟩ := Option.bind_eq_some_iff.mp hrun
    rw [List.forall_mem_cons] at hj
    exact busy_of_step hstep hj.1 (ih hrest hj.2)

end ScrapeState

section Samples

variable {gauges : Gauges}

theorem mem_samples {g : Gauge} {sample : Sample} :
    sample ∈ samples gauges g ↔
      sample.gauge = g ∧ (gauges g).lookup sample.labels = some sample.value := by
  simp only [samples, List.mem_map]
  constructor
  · rintro ⟨⟨l, value⟩, he, rfl⟩
    exact ⟨rfl, FiniteMap.mem_pairs.mp he⟩
  · rintro ⟨rfl, hlookup⟩
    exact ⟨(sample.labels, sample.value), FiniteMap.mem_pairs.mpr hlookup, rfl⟩

theorem mem_allSamples {sample : Sample} :
    sample ∈ allGauges.flatMap (samples gauges) ↔
      (gauges sample.gauge).lookup sample.labels = some sample.value := by
  simp only [List.mem_flatMap, mem_samples]
  constructor
  · rintro ⟨g, -, rfl, hlookup⟩
    exact hlookup
  · intro hlookup
    refine ⟨sample.gauge, ?_, rfl, hlookup⟩
    cases sample.gauge <;> decide

theorem map_read_listing (g : Gauge) :
    (listing gauges g).map (Listed.read gauges) = samples gauges g := by
  rw [listing, samples, List.map_map]
  refine List.map_congr_left ?_
  rintro ⟨l, value⟩ he
  simp [Listed.read, FiniteMap.mem_pairs.mp he]

/-- What remains to be reported, in any order, is fixed while the gauges are. -/
theorem gather_list_perm {vecs : List Gauge} {g : Gauge} (hg : g ∈ vecs) (pending : List Listed)
    (response : List Sample) :
    (response ++ (pending ++ listing gauges g).map (Listed.read gauges) ++
      (vecs.erase g).flatMap (samples gauges)).Perm
      (response ++ pending.map (Listed.read gauges) ++ vecs.flatMap (samples gauges)) := by
  have hvecs := (List.perm_cons_erase hg).flatMap_right (samples gauges)
  rw [List.flatMap_cons] at hvecs
  simp only [List.map_append, map_read_listing, List.append_assoc]
  exact (hvecs.symm.append_left _).append_left _

theorem gather_read_perm {pending : List Listed} {position : ℕ} {series : Listed}
    (hseries : pending[position]? = some series) (rest response : List Sample) :
    (response ++ [series.read gauges] ++ (pending.eraseIdx position).map (Listed.read gauges) ++
      rest).Perm (response ++ pending.map (Listed.read gauges) ++ rest) := by
  obtain ⟨hlt, rfl⟩ := List.getElem?_eq_some_iff.mp hseries
  have hperm := (List.getElem_cons_eraseIdx_perm hlt).map (Listed.read gauges)
  rw [List.map_cons] at hperm
  rw [List.append_assoc response]
  exact (hperm.append_left response).append_right rest

end Samples

/-- The response holds the gauges as an observe of the snapshot leaves them. -/
def Reports (snapshot : Snapshot) (response : List Sample) : Prop :=
  ∃ known gauges v, Shows known gauges (Series.observe v snapshot) ∧
    response.Perm (allGauges.flatMap (samples gauges))

section Invariant

/-- What is known of a request while requests observe and gather one at a time. -/
def MetricsState.PhaseOk (m : MetricsState) : Phase → Prop
  | .idle => True
  | .fetched snapshot => snapshot ∈ m.published
  | .observing snapshot ops => snapshot ∈ m.published ∧
    ∃ v, Shows m.runtime.knownLabels (applyOps m.runtime.gauges ops) (Series.observe v snapshot)
  | .gathering snapshot vecs pending response => snapshot ∈ m.published ∧
    (∃ v, Shows m.runtime.knownLabels m.runtime.gauges (Series.observe v snapshot)) ∧
    (response ++ pending.map (Listed.read m.runtime.gauges) ++
      vecs.flatMap (samples m.runtime.gauges)).Perm (allGauges.flatMap (samples m.runtime.gauges))
  | .done snapshot response => snapshot ∈ m.published ∧ Reports snapshot response

theorem MetricsState.PhaseOk.of_not_busy {m m' : MetricsState} {phase : Phase}
    (h : m.PhaseOk phase) (hbusy : ¬ phase.Busy) (hpublished : m.published ⊆ m'.published) :
    m'.PhaseOk phase := by
  cases phase with
  | idle => trivial
  | fetched snapshot => exact hpublished h
  | observing => exact absurd trivial hbusy
  | gathering => exact absurd trivial hbusy
  | done snapshot response => exact ⟨hpublished h.1, h.2⟩

theorem MetricsState.PhaseOk.collect {m : MetricsState} {phase : Phase} (h : m.PhaseOk phase)
    (pods : PodSource) (nvml : GPUProcessSnapshot) : (m.collect pods nvml).PhaseOk phase := by
  have hpublished : m.published ⊆ (m.collect pods nvml).published := List.subset_cons_self _ _
  cases phase with
  | observing snapshot ops => exact ⟨hpublished h.1, h.2⟩
  | gathering snapshot vecs pending response => exact ⟨hpublished h.1, h.2⟩
  | idle => trivial
  | fetched snapshot => exact hpublished h
  | done snapshot response => exact ⟨hpublished h.1, h.2⟩

structure ScrapeState.Inv (s : ScrapeState) : Prop where
  distinct : ∀ snapshot ∈ s.metrics.published, (snapshot.metrics.map PodGPUMetric.key).Nodup
  held : s.metrics.engine.snapshot ∈ s.metrics.published
  exclusive : ∀ i j, (s.requests i).Busy → (s.requests j).Busy → i = j
  settled : (∀ i, ¬ (s.requests i).Busy) →
    ∃ v, Shows s.metrics.runtime.knownLabels s.metrics.runtime.gauges v
  phases : ∀ i, s.metrics.PhaseOk (s.requests i)

variable {s : ScrapeState} {i : ℕ}

theorem ScrapeState.Inv.alone (h : s.Inv) (hbusy : (s.requests i).Busy) :
    ∀ j, j ≠ i → ¬ (s.requests j).Busy :=
  fun j hj hbusy' => hj (h.exclusive j i hbusy' hbusy)

theorem ScrapeState.Inv.update (h : s.Inv) (halone : ∀ j, j ≠ i → ¬ (s.requests j).Busy)
    {runtime : Runtime} {mutex : Option ℕ} {phase : Phase}
    (hphase : ({ s.metrics with runtime := runtime } : MetricsState).PhaseOk phase)
    (hsettled : ¬ phase.Busy → ∃ v, Shows runtime.knownLabels runtime.gauges v) :
    ScrapeState.Inv ⟨{ s.metrics with runtime := runtime }, mutex,
      Function.update s.requests i phase⟩ where
  distinct := h.distinct
  held := h.held
  exclusive := by
    have hi : ∀ j, (Function.update s.requests i phase j).Busy → j = i := by
      intro j hj
      by_contra hne
      rw [Function.update_of_ne hne] at hj
      exact halone j hne hj
    intro j k hj hk
    rw [hi j hj, hi k hk]
  settled hnone := hsettled (by simpa using hnone i)
  phases j := by
    by_cases hj : j = i
    · subst hj
      simpa using hphase
    · simp only [Function.update_of_ne hj]
      exact (h.phases j).of_not_busy (halone j hj) (List.Subset.refl _)

theorem ScrapeState.Inv.fetch (h : s.Inv) (hidle : s.requests i = .idle) :
    (s.setPhase i (.fetched s.metrics.engine.snapshot)).Inv where
  distinct := h.distinct
  held := h.held
  exclusive := by
    have hbusy : ∀ j, ((s.setPhase i (.fetched s.metrics.engine.snapshot)).requests j).Busy →
        (s.requests j).Busy := by
      intro j hj
      by_cases hji : j = i
      · subst hji
        simp [ScrapeState.setPhase, Phase.Busy] at hj
      · simpa [ScrapeState.setPhase, hji] using hj
    exact fun j k hj hk => h.exclusive j k (hbusy j hj) (hbusy k hk)
  settled hnone := by
    refine h.settled fun j => ?_
    by_cases hji : j = i
    · rw [hji, hidle]
      exact id
    · simpa [ScrapeState.setPhase, hji] using hnone j
  phases j := by
    by_cases hji : j = i
    · subst hji
      simpa [ScrapeState.setPhase, MetricsState.PhaseOk] using h.held
    · simpa [ScrapeState.setPhase, hji] using h.phases j

theorem ScrapeState.Inv.collect (h : s.Inv) (pods : PodSource) (nvml : GPUProcessSnapshot) :
    ScrapeState.Inv { s with metrics := s.metrics.collect pods nvml } where
  distinct snapshot hmem := by
    rcases List.mem_cons.mp hmem with rfl | hmem
    · exact collect_keys_nodup _ _ _
    · exact h.distinct snapshot hmem
  held := List.mem_cons_self
  exclusive := h.exclusive
  settled := h.settled
  phases j := (h.phases j).collect pods nvml

theorem ScrapeState.Inv.phaseOk (h : s.Inv) {phase : Phase} (hphase : s.requests i = phase) :
    s.metrics.PhaseOk phase := by
  rw [← hphase]
  exact h.phases i

variable {s' : ScrapeState}

theorem ScrapeState.Inv.lock (h : s.Inv) (hserial : s.Serial (.lock i))
    (hstep : s.step (.lock i) = some s') : s'.Inv := by
  cases hphase : s.requests i with
  | fetched snapshot =>
    cases hmutex : s.mutex with
    | some holder => simp [ScrapeState.step, hphase, hmutex] at hstep
    | none =>
      simp only [ScrapeState.step, hphase, hmutex, Option.some.injEq] at hstep
      obtain ⟨v, hshows⟩ := h.settled hserial
      rw [← hstep]
      exact h.update (fun j _ => hserial j) ⟨h.phaseOk hphase, v, hshows.observe snapshot⟩
        (fun hbusy => absurd trivial hbusy)
  | _ => simp [ScrapeState.step, hphase] at hstep

theorem ScrapeState.Inv.work (h : s.Inv) (hstep : s.step (.work i) = some s') : s'.Inv := by
  cases hphase : s.requests i with
  | observing snapshot ops =>
    obtain ⟨hmem, v, hshows⟩ := h.phaseOk hphase
    have halone := h.alone (i := i) (by rw [hphase]; trivial)
    cases ops with
    | nil =>
      simp only [ScrapeState.step, hphase, Option.some.injEq] at hstep
      rw [← hstep]
      exact h.update halone ⟨hmem, ⟨v, hshows⟩, List.Perm.refl _⟩
        (fun hbusy => absurd trivial hbusy)
    | cons op ops =>
      simp only [ScrapeState.step, hphase, Option.some.injEq] at hstep
      have hdetach : Function.update
          (fun j => (s.requests j).detach s.metrics.runtime.gauges op) i
            (.observing snapshot ops) =
          Function.update s.requests i (.observing snapshot ops) := by
        funext j
        by_cases hj : j = i
        · rw [hj, Function.update_self, Function.update_self]
        · rw [Function.update_of_ne hj, Function.update_of_ne hj,
            Phase.detach_of_not_busy (halone j hj)]
      rw [hdetach] at hstep
      rw [← hstep]
      exact h.update halone ⟨hmem, v, hshows⟩ (fun hbusy => absurd trivial hbusy)
  | _ => simp [ScrapeState.step, hphase] at hstep

theorem ScrapeState.Inv.list (h : s.Inv) {g : Gauge} (hstep : s.step (.list i g) = some s') :
    s'.Inv := by
  cases hphase : s.requests i with
  | gathering snapshot vecs pending response =>
    obtain ⟨hmem, hshows, hperm⟩ := h.phaseOk hphase
    simp only [ScrapeState.step, hphase] at hstep
    split_ifs at hstep with hg
    rw [← Option.some.inj hstep]
    exact h.update (h.alone (by rw [hphase]; trivial))
      ⟨hmem, hshows, (gather_list_perm hg pending response).trans hperm⟩
      (fun hbusy => absurd trivial hbusy)
  | _ => simp [ScrapeState.step, hphase] at hstep

theorem ScrapeState.Inv.read (h : s.Inv) {position : ℕ}
    (hstep : s.step (.read i position) = some s') : s'.Inv := by
  cases hphase : s.requests i with
  | gathering snapshot vecs pending response =>
    obtain ⟨hmem, hshows, hperm⟩ := h.phaseOk hphase
    simp only [ScrapeState.step, hphase] at hstep
    obtain ⟨series, hseries, rfl⟩ := Option.map_eq_some_iff.mp hstep
    exact h.update (h.alone (by rw [hphase]; trivial))
      ⟨hmem, hshows, (gather_read_perm hseries _ response).trans hperm⟩
      (fun hbusy => absurd trivial hbusy)
  | _ => simp [ScrapeState.step, hphase] at hstep

theorem ScrapeState.Inv.finish (h : s.Inv) (hstep : s.step (.finish i) = some s') : s'.Inv := by
  cases hphase : s.requests i with
  | gathering snapshot vecs pending response =>
    obtain ⟨hmem, ⟨v, hshows⟩, hperm⟩ := h.phaseOk hphase
    cases vecs with
    | cons => simp [ScrapeState.step, hphase] at hstep
    | nil =>
      cases pending with
      | cons => simp [ScrapeState.step, hphase] at hstep
      | nil =>
        simp only [ScrapeState.step, hphase, Option.some.injEq] at hstep
        rw [← hstep]
        simp only [List.map_nil, List.flatMap_nil, List.append_nil] at hperm
        exact h.update (h.alone (by rw [hphase]; trivial)) ⟨hmem, _, _, v, hshows, hperm⟩
          (fun _ => ⟨_, hshows⟩)
  | _ => simp [ScrapeState.step, hphase] at hstep

theorem ScrapeState.Inv.step (h : s.Inv) {a : ScrapeAction} (hserial : s.Serial a)
    (hstep : s.step a = some s') : s'.Inv := by
  cases a with
  | collect pods nvml =>
    cases hstep
    exact h.collect pods nvml
  | fetch i =>
    cases hphase : s.requests i with
    | idle =>
      simp only [ScrapeState.step, hphase, Option.some.injEq] at hstep
      exact hstep ▸ h.fetch hphase
    | _ => simp [ScrapeState.step, hphase] at hstep
  | lock i => exact h.lock hserial hstep
  | work i => exact h.work hstep
  | list i g => exact h.list hstep
  | read i position => exact h.read hstep
  | finish i => exact h.finish hstep

theorem ScrapeState.Reachable.inv {interval smUtilWindow : ℤ}
    (hs : Reachable interval smUtilWindow Serial s) : s.Inv := by
  induction hs with
  | new =>
    exact
      { distinct := by simp [ScrapeState.new, MetricsState.new, newMetricsController]
        held := List.mem_singleton_self _
        exclusive := fun i j hi => absurd hi id
        settled := fun _ => ⟨_, shows_new⟩
        phases := fun i => trivial }
  | step _ hserial hstep ih => exact ih.step hserial hstep

end Invariant

section Responses

variable {snapshot : Snapshot} {response : List Sample}

theorem Reports.sample (h : Reports snapshot response)
    (hdistinct : (snapshot.metrics.map PodGPUMetric.key).Nodup) {sample : Sample}
    (hsample : sample ∈ response) :
    (∃ m ∈ snapshot.metrics, m.key.labels = sample.labels ∧ sample.value = m.value sample.gauge) ∨
      (∀ m ∈ snapshot.metrics, m.key.labels ≠ sample.labels) ∧ sample.value = 0 := by
  obtain ⟨known, gauges, v, hshows, hperm⟩ := h
  have hlookup := mem_allSamples.mp (hperm.mem_iff.mp hsample)
  obtain ⟨key, hkey⟩ := hshows.labelled sample.gauge sample.labels (by simp [hlookup])
  rw [hkey, hshows.gauge] at hlookup
  by_cases hmetric : ∃ m ∈ snapshot.metrics, m.key = key
  · obtain ⟨m, hm, rfl⟩ := hmetric
    refine Or.inl ⟨m, hm, hkey.symm, ?_⟩
    rcases foldl_observeMetric_of_mem hdistinct hm (v.reset snapshot.activePodUIDs) with
      hvalue | ⟨hnone, -⟩
    · rw [Series.observe, hvalue] at hlookup
      exact (Option.some.inj hlookup).symm
    · simp [Series.observe, hnone] at hlookup
  · push Not at hmetric
    refine Or.inr ⟨fun m hm heq => ?_, ?_⟩
    · exact hmetric m hm (PodGPUKey.labels_injective (heq.trans hkey))
    · rw [Series.observe, foldl_observeMetric_of_ne hmetric] at hlookup
      obtain ⟨value, hvalue, hzero⟩ := Option.map_eq_some_iff.mp hlookup
      unfold Series.reset at hvalue
      split_ifs at hvalue
      obtain ⟨-, -, rfl⟩ := Option.map_eq_some_iff.mp hvalue
      exact hzero.symm

theorem Reports.metric (h : Reports snapshot response)
    (hdistinct : (snapshot.metrics.map PodGPUMetric.key).Nodup) {m : PodGPUMetric}
    (hm : m ∈ snapshot.metrics)
    (hkept : ∀ m' ∈ snapshot.metrics, Plan.supersedes m'.key m.key = false) (g : Gauge) :
    ⟨g, m.key.labels, m.value g⟩ ∈ response := by
  obtain ⟨known, gauges, v, hshows, hperm⟩ := h
  rw [hperm.mem_iff, mem_allSamples, hshows.gauge]
  rcases foldl_observeMetric_of_mem hdistinct hm (v.reset snapshot.activePodUIDs) with
    hvalue | ⟨-, m', hm', hsup⟩
  · rw [Series.observe, hvalue]
    rfl
  · rw [hkept m' hm'] at hsup
    exact absurd hsup (by decide)

/-- While no observe starts before the response of the previous one is complete,
a response reports the values of the snapshot its request fetched, and zero for
series without a metric in it. A series whose metric is not zero in any snapshot a
collect has published is reported as zero only to a request that came before the
first collect. -/
theorem scrape_reflects_snapshot {interval smUtilWindow : ℤ} {s : ScrapeState}
    (hs : ScrapeState.Reachable interval smUtilWindow ScrapeState.Serial s) {i : ℕ}
    (hdone : s.requests i = .done snapshot response) :
    snapshot ∈ s.metrics.published ∧
    (∀ sample ∈ response,
      (∃ m ∈ snapshot.metrics,
        m.key.labels = sample.labels ∧ sample.value = m.value sample.gauge) ∨
      (∀ m ∈ snapshot.metrics, m.key.labels ≠ sample.labels) ∧ sample.value = 0) ∧
    (∀ m ∈ snapshot.metrics,
      (∀ m' ∈ snapshot.metrics, Plan.supersedes m'.key m.key = false) →
      ∀ g, ⟨g, m.key.labels, m.value g⟩ ∈ response) ∧
    ∀ g l,
      (∀ published ∈ s.metrics.published, published.activePodUIDs ≠ none →
        ∃ m ∈ published.metrics, m.key.labels = l ∧ m.value g ≠ 0) →
      ⟨g, l, 0⟩ ∈ response → snapshot.activePodUIDs = none := by
  have hok := hs.inv.phases i
  rw [hdone] at hok
  obtain ⟨hmem, hreports⟩ := hok
  have hdistinct := hs.inv.distinct snapshot hmem
  refine ⟨hmem, fun sample => hreports.sample hdistinct,
    fun m hm hkept g => hreports.metric hdistinct hm hkept g, ?_⟩
  intro g l hnonzero hzero
  by_contra hcollected
  obtain ⟨m, hm, hl, hvalue⟩ := hnonzero snapshot hmem hcollected
  rcases hreports.sample hdistinct hzero with ⟨m', hm', hl', heq⟩ | ⟨hother, -⟩
  · have hkey : m'.key = m.key := PodGPUKey.labels_injective (hl'.trans hl.symm)
    rw [List.inj_on_of_nodup_map hdistinct hm' hm hkey] at heq
    exact hvalue heq.symm
  · exact hother m hm hl

end Responses

section Overlap

open Mapping

def busyContainer : ContainerInfo := ⟨"c1", "", "job", "team", "u1", "", [], 0⟩

def busyPods : PodSource where
  store := ContainerStore.replace [busyContainer]
  resolveProcess _ := some busyContainer
  resolved_mem := by
    rintro - info ⟨⟩
    decide

/-- One process that uses five bytes. -/
def busyProcess : GPUProcessSnapshot := ⟨[⟨7, "GPU-a", 0, 5, 0⟩], ∅, ∅, ∅⟩

def busyLabels : Labels := ⟨"team", "job", "u1", "GPU-a", "0"⟩

def gatherAll (i : ℕ) : List ScrapeAction :=
  allGauges.flatMap fun g => [.list i g, .read i 0]

/-- The steps of a request whose observe makes three gauge calls. -/
def observeFirst (i : ℕ) : List ScrapeAction := [.work i, .work i, .work i, .work i]

/-- A collect and a fetch. -/
def afterFetch : ScrapeState :=
  { metrics := (MetricsState.new 1 1).collect busyPods busyProcess
    mutex := none
    requests := Function.update (fun _ => .idle) 0
      (.fetched ((MetricsState.new 1 1).collect busyPods busyProcess).engine.snapshot) }

theorem afterFetch_reachable {P : ScrapeState → ScrapeAction → Prop}
    (hcollect : ∀ s, P s (.collect busyPods busyProcess)) (hfetch : ∀ s, P s (.fetch 0)) :
    ScrapeState.Reachable 1 1 P afterFetch :=
  (ScrapeState.Reachable.new.step (hcollect _) rfl).step (hfetch _) rfl

/-- Request 0 observes the snapshot; request 1 has only zeroed the series when
request 0 gathers it. -/
def overlapped : List ScrapeAction :=
  .lock 0 :: observeFirst 0 ++ [.fetch 1, .lock 1, .work 1] ++ gatherAll 0 ++ [.finish 0]

theorem overlapped_enabled : (afterFetch.run overlapped).isSome = true := by decide

theorem overlapping_scrape_reports_zero :
    let s := (afterFetch.run overlapped).get overlapped_enabled
    ScrapeState.Reachable 1 1 (fun _ _ => True) s ∧
      ∃ snapshot response, s.requests 0 = .done snapshot response ∧
        (∀ published ∈ s.metrics.published, published.activePodUIDs ≠ none →
          ∃ m ∈ published.metrics, m.key.labels = busyLabels ∧ m.value .memoryBytes = 5) ∧
        snapshot.activePodUIDs ≠ none ∧ ⟨.memoryBytes, busyLabels, 0⟩ ∈ response := by
  refine ⟨?_, ⟨[⟨"team", "job", "u1", "GPU-a", 0, 5, 0, 0, 0⟩], some {"u1"}⟩,
    [⟨.memoryBytes, busyLabels, 0⟩, ⟨.smUtilization, busyLabels, 0⟩,
      ⟨.smUtilizationNormalized, busyLabels, 0⟩], by decide +kernel, by decide +kernel, by decide,
    by decide⟩
  exact (afterFetch_reachable (fun _ => trivial) fun _ => trivial).run (fun _ _ _ => trivial)
    (Option.some_get overlapped_enabled).symm

/-- A request that reports the five bytes. -/
def busyDone : Phase :=
  .done ⟨[⟨"team", "job", "u1", "GPU-a", 0, 5, 0, 0, 0⟩], some {"u1"}⟩
    [⟨.memoryBytes, busyLabels, 5⟩, ⟨.smUtilization, busyLabels, 0⟩,
      ⟨.smUtilizationNormalized, busyLabels, 0⟩]

def firstInTurn : List ScrapeAction := observeFirst 0 ++ gatherAll 0 ++ [.finish 0]

def secondInTurn : List ScrapeAction := List.replicate 7 (.work 1) ++ gatherAll 1 ++ [.finish 1]

/-- Both requests have fetched before the first observes. -/
def inTurn : List ScrapeAction := [.fetch 1] ++ .lock 0 :: firstInTurn ++ .lock 1 :: secondInTurn

theorem inTurn_enabled : (afterFetch.run inTurn).isSome = true := by decide

theorem reachable_inTurn :
    ScrapeState.Reachable 1 1 ScrapeState.Serial ((afterFetch.run inTurn).get inTurn_enabled) := by
  have hidle : ∀ j, ¬ (afterFetch.requests j).Busy := by
    intro j
    by_cases hj : j = 0
    · rw [hj]
      exact id
    · simp [afterFetch, Function.update_of_ne hj, Phase.Busy]
  obtain ⟨t, hfirst, hsecond⟩ :=
    ScrapeState.run_append_eq_some.mp (Option.some_get inTurn_enabled).symm
  obtain ⟨t₀, hfetch, hrest⟩ := ScrapeState.run_append_eq_some.mp hfirst
  obtain ⟨t₁, hlock, hgather⟩ := Option.bind_eq_some_iff.mp hrest
  obtain ⟨t₂, hlock', hgather'⟩ := Option.bind_eq_some_iff.mp hsecond
  have hfetched : ∀ j, ¬ (t₀.requests j).Busy := by
    intro j
    cases hfetch
    by_cases hj : j = 1
    · rw [hj]
      exact id
    · rw [ScrapeState.requests_setPhase_of_ne hj]
      exact hidle j
  have hbetween : ∀ j, ¬ (t.requests j).Busy := by
    intro j hbusy
    by_cases hj : j = 0
    · have hdone : (afterFetch.run ([.fetch 1] ++ .lock 0 :: firstInTurn)).map
          (fun s => s.requests 0) = some busyDone := by decide +kernel
      rw [hfirst, Option.map_some, Option.some.injEq] at hdone
      rw [hj, hdone] at hbusy
      exact hbusy
    · refine hfetched j (ScrapeState.busy_of_run hrest ?_ hbusy)
      have hne : 0 ≠ j := fun heq => hj heq.symm
      simpa [firstInTurn, observeFirst, gatherAll, allGauges, ScrapeAction.request?] using hne
  have hstart := afterFetch_reachable (P := ScrapeState.Serial) (fun _ => trivial) fun _ => trivial
  have hreach₀ := hstart.run (by simp [ScrapeState.Serial]) hfetch
  have hreach := (hreach₀.step (a := .lock 0) hfetched hlock).run
    (by simp [firstInTurn, observeFirst, gatherAll, allGauges, ScrapeState.Serial]) hgather
  exact (hreach.step (a := .lock 1) hbetween hlock').run
    (by simp [secondInTurn, gatherAll, allGauges, ScrapeState.Serial]) hgather'

/-- The two requests observe and gather one after the other, and both report the five bytes. -/
theorem scrape_reflects_snapshot_in_turn :
    let s := (afterFetch.run inTurn).get inTurn_enabled
    ∀ i ∈ [0, 1], ∃ snapshot response, s.requests i = .done snapshot response ∧
      ⟨.memoryBytes, busyLabels, 5⟩ ∈ response ∧ ⟨.memoryBytes, busyLabels, 0⟩ ∉ response := by
  intro s i hi
  have hdone : s.requests i = busyDone := by
    rcases List.mem_pair.mp hi with rfl | rfl
    · decide +kernel
    · decide +kernel
  refine ⟨_, _, hdone, by decide, ?_⟩
  intro hzero
  have hnone := (scrape_reflects_snapshot reachable_inTurn hdone).2.2.2 .memoryBytes busyLabels
    (by decide +kernel) hzero
  exact absurd hnone (by decide)

end Overlap

end GpuFractioning.Metricsd
