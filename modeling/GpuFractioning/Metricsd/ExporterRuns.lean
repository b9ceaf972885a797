import GpuFractioning.Lib.KeyedList
import GpuFractioning.Metricsd.Engine
import GpuFractioning.Metricsd.Exporter

/-!
# The exporter over whole runs

A runtime that observes snapshot after snapshot. For well-formed snapshots the
series after an observe have a closed form, in which the order of the metrics
plays no part: a metric shows its values, a known series that is neither gone
nor superseded reads zero, and nothing else is exported.

The engine and the exporter are in one process. A scrape fetches the engine's snapshot
first and takes the exporter's mutex later, so that it may observe any snapshot published
so far.
-/

namespace GpuFractioning.Metricsd

/-- Metrics have distinct keys, a pod has at most one metric for a GPU index, and
every metric belongs to an active pod. -/
structure Snapshot.WellFormed (snapshot : Snapshot) : Prop where
  distinct : (snapshot.metrics.map PodGPUMetric.key).Nodup
  oneIndex : snapshot.metrics.Pairwise fun m m' =>
    ¬ (m.namespace_ = m'.namespace_ ∧ m.podUID = m'.podUID ∧ m.gpuIndex = m'.gpuIndex)
  active : ∃ uids, snapshot.activePodUIDs = some uids ∧ ∀ m ∈ snapshot.metrics, m.podUID ∈ uids

theorem Snapshot.WellFormed.perm {snapshot : Snapshot} (h : snapshot.WellFormed)
    {metrics : List PodGPUMetric} (hperm : metrics.Perm snapshot.metrics) :
    ({ snapshot with metrics := metrics } : Snapshot).WellFormed where
  distinct := (hperm.map _).nodup_iff.mpr h.distinct
  oneIndex := (hperm.pairwise_iff fun hne heq =>
    hne ⟨heq.1.symm, heq.2.1.symm, heq.2.2.symm⟩).mpr h.oneIndex
  active := by
    obtain ⟨uids, huids, hactive⟩ := h.active
    exact ⟨uids, huids, fun m hm => hactive m (hperm.mem_iff.mp hm)⟩

namespace Runtime

def observeAll (snapshots : List Snapshot) : Runtime := snapshots.foldl observe new

end Runtime

def Series.observeAll (snapshots : List Snapshot) : Series :=
  snapshots.foldl Series.observe fun _ => none

theorem shows_observeAll (snapshots : List Snapshot) :
    Shows (Runtime.observeAll snapshots).knownLabels (Runtime.observeAll snapshots).gauges
      (Series.observeAll snapshots) := by
  induction snapshots using List.reverseRecOn with
  | nil => exact shows_new
  | append_singleton snapshots snapshot ih =>
    simp only [Runtime.observeAll, Series.observeAll, List.foldl_append, List.foldl_cons,
      List.foldl_nil] at ih ⊢
    exact ih.observe snapshot

section ClosedForm

/-- The series after the metrics have been observed, without regard to their order. -/
def Series.settled (v : Series) (metrics : List PodGPUMetric) : Series := fun key =>
  match metrics.find? fun m => m.key = key with
  | some m => some m.value
  | none => if metrics.any fun m => Plan.supersedes m.key key then none else v key

theorem supersedes_iff {observed key : PodGPUKey} :
    Plan.supersedes observed key = true ↔
      observed.gpuUUID ≠ "" ∧ key.namespace_ = observed.namespace_ ∧
        key.podUID = observed.podUID ∧ key.gpuUUID = "" ∧ key.gpuIndex = observed.gpuIndex := by
  simp [Plan.supersedes, and_assoc]

/-- A key no metric has is only ever removed by a metric that supersedes it. -/
theorem foldl_observeMetric_of_ne {metrics : List PodGPUMetric} {key : PodGPUKey}
    (hkey : ∀ m ∈ metrics, m.key ≠ key) (v : Series) :
    metrics.foldl Series.observeMetric v key =
      if metrics.any fun m => Plan.supersedes m.key key then none else v key := by
  induction metrics generalizing v with
  | nil => rfl
  | cons m metrics ih =>
    have hne : key ≠ m.key := fun h => hkey m List.mem_cons_self h.symm
    rw [List.foldl_cons, ih fun m' hm' => hkey m' (List.mem_cons_of_mem _ hm')]
    simp only [Series.observeMetric, Function.update_of_ne hne, List.any_cons]
    by_cases hsup : Plan.supersedes m.key key = true <;> simp [hsup]

/-- A metric shows its values, unless another metric of the snapshot supersedes it. -/
theorem foldl_observeMetric_of_mem {metrics : List PodGPUMetric}
    (hdistinct : (metrics.map PodGPUMetric.key).Nodup) {m : PodGPUMetric} (hm : m ∈ metrics)
    (v : Series) :
    metrics.foldl Series.observeMetric v m.key = some m.value ∨
      (metrics.foldl Series.observeMetric v m.key = none ∧
        ∃ m' ∈ metrics, Plan.supersedes m'.key m.key = true) := by
  induction metrics generalizing v with
  | nil => simp at hm
  | cons m' metrics ih =>
    rw [List.map_cons, List.nodup_cons] at hdistinct
    rw [List.foldl_cons]
    rcases List.mem_cons.mp hm with rfl | hm
    · have hne : ∀ m' ∈ metrics, m'.key ≠ m.key :=
        fun m' hm' heq => hdistinct.1 (heq ▸ List.mem_map_of_mem hm')
      rw [foldl_observeMetric_of_ne hne]
      split_ifs with hany
      · obtain ⟨m', hm', hsup⟩ := List.any_eq_true.mp hany
        exact Or.inr ⟨rfl, m', List.mem_cons_of_mem _ hm', hsup⟩
      · exact Or.inl (by simp [Series.observeMetric])
    · rcases ih hdistinct.2 hm (v.observeMetric m') with hvalue | ⟨hnone, m'', hm'', hsup⟩
      · exact Or.inl hvalue
      · exact Or.inr ⟨hnone, m'', List.mem_cons_of_mem _ hm'', hsup⟩

theorem foldl_observeMetric_mem {metrics : List PodGPUMetric} {key : PodGPUKey} {v : Series}
    (h : metrics.foldl Series.observeMetric v key ≠ none) :
    v key ≠ none ∨ ∃ m ∈ metrics, m.key = key := by
  by_cases hkey : ∃ m ∈ metrics, m.key = key
  · exact Or.inr hkey
  · push Not at hkey
    rw [foldl_observeMetric_of_ne hkey] at h
    split_ifs at h
    · exact absurd rfl h
    · exact Or.inl h

theorem foldl_observeMetric {metrics : List PodGPUMetric}
    (hindex : metrics.Pairwise fun m m' =>
      ¬ (m.namespace_ = m'.namespace_ ∧ m.podUID = m'.podUID ∧ m.gpuIndex = m'.gpuIndex))
    (v : Series) : metrics.foldl Series.observeMetric v = v.settled metrics := by
  induction metrics generalizing v with
  | nil => rfl
  | cons m metrics ih =>
    obtain ⟨hm, hrest⟩ := List.pairwise_cons.mp hindex
    rw [List.foldl_cons, ih hrest]
    funext key
    unfold Series.settled
    cases hfind : metrics.find? fun m => m.key = key with
    | some m' =>
      have hkey' : m'.key = key := by simpa using List.find?_some hfind
      have hmem := List.mem_of_find?_eq_some hfind
      have hne : m.key ≠ key := by
        intro hkey
        have heq : m.key = m'.key := hkey.trans hkey'.symm
        simp only [PodGPUMetric.key, PodGPUKey.mk.injEq] at heq
        exact hm m' hmem ⟨heq.1, heq.2.2.1, heq.2.2.2.2⟩
      simp [hne, hfind]
    | none =>
      by_cases hkey : m.key = key
      · have hkeep : (metrics.any fun m' => Plan.supersedes m'.key key) = false := by
          rw [List.any_eq_false]
          intro m' hm' hsup
          rw [supersedes_iff, ← hkey] at hsup
          exact hm m' hm' ⟨hsup.2.1, hsup.2.2.1, hsup.2.2.2.2⟩
        simp [Series.observeMetric, hkey, hkeep]
      · have hkey' : ¬ key = m.key := fun h => hkey h.symm
        simp only [List.find?_cons, hkey, decide_false, hfind, List.any_cons, Series.observeMetric,
          Function.update_apply, hkey', if_false]
        by_cases hsup : Plan.supersedes m.key key = true <;> simp [hsup]

theorem settled_metric {metrics : List PodGPUMetric}
    (hdistinct : (metrics.map PodGPUMetric.key).Nodup) {m : PodGPUMetric} (hm : m ∈ metrics)
    (v : Series) : v.settled metrics m.key = some m.value := by
  have hfind : (metrics.find? fun m' => m'.key = m.key) = some m :=
    (KeyedList.find?_eq_some_iff _ hdistinct).mpr ⟨hm, rfl⟩
  simp only [Series.settled, hfind]

theorem settled_other {metrics : List PodGPUMetric} {key : PodGPUKey}
    (hkey : ∀ m ∈ metrics, m.key ≠ key) (v : Series) :
    v.settled metrics key =
      if metrics.any fun m => Plan.supersedes m.key key then none else v key := by
  have hfind : metrics.find? (fun m => m.key = key) = none := by
    rw [KeyedList.find?_eq_none_iff, List.mem_map]
    rintro ⟨m, hm, hm'⟩
    exact hkey m hm hm'
  simp only [Series.settled, hfind]

theorem settled_perm {metrics metrics' : List PodGPUMetric}
    (hdistinct : (metrics.map PodGPUMetric.key).Nodup) (hperm : metrics'.Perm metrics)
    (v : Series) : v.settled metrics' = v.settled metrics := by
  have hdistinct' : (metrics'.map PodGPUMetric.key).Nodup := (hperm.map _).nodup_iff.mpr hdistinct
  funext key
  by_cases hkey : ∃ m ∈ metrics, m.key = key
  · obtain ⟨m, hm, rfl⟩ := hkey
    rw [settled_metric hdistinct hm, settled_metric hdistinct' (hperm.mem_iff.mpr hm)]
  · push Not at hkey
    rw [settled_other hkey, settled_other fun m hm => hkey m (hperm.mem_iff.mp hm),
      hperm.any_eq]

end ClosedForm

section Observe

theorem observe_eq_settled {snapshot : Snapshot} (h : snapshot.WellFormed) (v : Series) :
    v.observe snapshot = (v.reset snapshot.activePodUIDs).settled snapshot.metrics :=
  foldl_observeMetric h.oneIndex _

theorem Shows.gauges_eq {known known' : FiniteMap PodGPUKey Labels} {s s' : Gauges} {v : Series}
    (h : Shows known s v) (h' : Shows known' s' v) (g : Gauge) (l : Labels) :
    (s g).lookup l = (s' g).lookup l := by
  by_cases hl : ∃ key : PodGPUKey, l = key.labels
  · obtain ⟨key, rfl⟩ := hl
    rw [h.gauge, h'.gauge]
  · have hnone := not_imp_comm.mp (h.labelled g l) hl
    have hnone' := not_imp_comm.mp (h'.labelled g l) hl
    rw [hnone, hnone']

theorem Shows.exported_iff {known : FiniteMap PodGPUKey Labels} {s : Gauges} {v : Series}
    (h : Shows known s v) (g : Gauge) (l : Labels) :
    (s g).lookup l ≠ none ↔ ∃ key, known.lookup key = some l := by
  constructor
  · intro hl
    obtain ⟨key, rfl⟩ := h.labelled g l hl
    rw [h.gauge] at hl
    cases hv : v key with
    | none => simp [hv] at hl
    | some value => exact ⟨key, by simp [h.known, hv]⟩
  · rintro ⟨key, hl⟩
    rw [h.known] at hl
    obtain ⟨value, hv, rfl⟩ := Option.map_eq_some_iff.mp hl
    rw [h.gauge, hv]
    simp

variable {snapshot : Snapshot} (h : snapshot.WellFormed) (before : List Snapshot)

include h

theorem series_observeAll_append :
    Series.observeAll (before ++ [snapshot]) =
      ((Series.observeAll before).reset snapshot.activePodUIDs).settled snapshot.metrics := by
  rw [Series.observeAll, List.foldl_append]
  exact observe_eq_settled h _

theorem gauge_of_metric {m : PodGPUMetric} (hm : m ∈ snapshot.metrics) (g : Gauge) :
    ((Runtime.observeAll (before ++ [snapshot])).gauges g).lookup m.key.labels =
      some (m.value g) := by
  rw [(shows_observeAll _).gauge, series_observeAll_append h before, settled_metric h.distinct hm]
  rfl

theorem exported_cases {g : Gauge} {l : Labels}
    (hl : ((Runtime.observeAll (before ++ [snapshot])).gauges g).lookup l ≠ none) :
    (∃ m ∈ snapshot.metrics, l = m.key.labels) ∨
      ∃ key : PodGPUKey, l = key.labels ∧ Series.keeps snapshot.activePodUIDs key = true ∧
        ((Runtime.observeAll (before ++ [snapshot])).gauges g).lookup l = some 0 := by
  have hshows := shows_observeAll (before ++ [snapshot])
  obtain ⟨key, rfl⟩ := hshows.labelled g l hl
  rw [hshows.gauge, series_observeAll_append h before] at hl ⊢
  by_cases hkey : ∃ m ∈ snapshot.metrics, m.key = key
  · obtain ⟨m, hm, rfl⟩ := hkey
    exact Or.inl ⟨m, hm, rfl⟩
  · push Not at hkey
    rw [settled_other hkey] at hl ⊢
    unfold Series.reset at hl ⊢
    split_ifs at hl ⊢ with hsup hkeep
    · simp at hl
    · refine Or.inr ⟨key, rfl, hkeep, ?_⟩
      cases hv : Series.observeAll before key with
      | none => simp [hv] at hl
      | some value => rfl
    · simp at hl

theorem exported_active {g : Gauge} {l : Labels}
    (hl : ((Runtime.observeAll (before ++ [snapshot])).gauges g).lookup l ≠ none) :
    ∃ uids, snapshot.activePodUIDs = some uids ∧ l.podUUID ∈ uids := by
  obtain ⟨uids, huids, hactive⟩ := h.active
  rcases exported_cases h before hl with ⟨m, hm, rfl⟩ | ⟨key, rfl, hkeep, -⟩
  · exact ⟨uids, huids, hactive m hm⟩
  · rw [huids] at hkeep
    exact ⟨uids, huids, by simpa [Series.keeps, PodGPUKey.labels] using hkeep⟩

theorem gauge_of_other {g : Gauge} {l : Labels}
    (hl : ((Runtime.observeAll (before ++ [snapshot])).gauges g).lookup l ≠ none)
    (hother : ∀ m ∈ snapshot.metrics, m.key.labels ≠ l) :
    ((Runtime.observeAll (before ++ [snapshot])).gauges g).lookup l = some 0 := by
  rcases exported_cases h before hl with ⟨m, hm, rfl⟩ | ⟨key, -, -, hzero⟩
  · exact absurd rfl (hother m hm)
  · exact hzero

theorem observeAll_perm {metrics : List PodGPUMetric} (hperm : metrics.Perm snapshot.metrics) :
    Series.observeAll (before ++ [{ snapshot with metrics := metrics }]) =
      Series.observeAll (before ++ [snapshot]) := by
  rw [series_observeAll_append h before, series_observeAll_append (h.perm hperm) before]
  exact settled_perm h.distinct hperm _

end Observe

/-- The memory gauge of a metric above 2^53 bytes reads the nearest `float64`. -/
theorem large_memory_is_rounded :
    let m : PodGPUMetric := ⟨"team", "job", "u1", "GPU-a", 0, 2 ^ 53 + 1, 0, 0, 0⟩
    let snapshot : Snapshot := ⟨[m], some {"u1"}⟩
    snapshot.WellFormed ∧
      ((Runtime.observeAll [snapshot]).gauges .memoryBytes).lookup m.key.labels ≠
        some (m.memoryBytes : ℚ) := by
  intro m snapshot
  have hwf : snapshot.WellFormed := ⟨by simp [snapshot], by simp [snapshot],
    ⟨_, rfl, by simp [snapshot, m]⟩⟩
  refine ⟨hwf, ?_⟩
  have hvalue := gauge_of_metric hwf [] (List.mem_singleton_self m) .memoryBytes
  have hround : GoFloat.ofNat (2 ^ 53 + 1) = 2 ^ 53 := by decide +kernel
  rw [List.nil_append] at hvalue
  rw [hvalue]
  simp only [PodGPUMetric.value, hround, m]
  norm_num

/-- After every observe: the three gauge vectors export the same label sets, those
of the known labels; every series belongs to an active pod; every metric shows
its values; every other series reads zero; and the order of the metrics does not
matter. -/
theorem exporter_state_after_observe (before : List Snapshot) (snapshot : Snapshot)
    (h : snapshot.WellFormed) :
    let r := Runtime.observeAll (before ++ [snapshot])
    (∀ g l, (r.gauges g).lookup l ≠ none ↔ ∃ key, r.knownLabels.lookup key = some l) ∧
    (∀ g l, (r.gauges g).lookup l ≠ none →
      ∃ uids, snapshot.activePodUIDs = some uids ∧ l.podUUID ∈ uids) ∧
    (∀ m ∈ snapshot.metrics,
      (r.gauges .memoryBytes).lookup m.key.labels = some (GoFloat.ofNat m.memoryBytes) ∧
      (m.memoryBytes ≤ 2 ^ 53 →
        (r.gauges .memoryBytes).lookup m.key.labels = some (m.memoryBytes : ℚ)) ∧
      (r.gauges .smUtilization).lookup m.key.labels = some m.smUtilizationPercent ∧
      (r.gauges .smUtilizationNormalized).lookup m.key.labels =
        some m.smUtilizationPercentNormalized) ∧
    (∀ g l, (r.gauges g).lookup l ≠ none → (∀ m ∈ snapshot.metrics, m.key.labels ≠ l) →
      (r.gauges g).lookup l = some 0) ∧
    ∀ metrics, metrics.Perm snapshot.metrics →
      let r' := Runtime.observeAll (before ++ [{ snapshot with metrics := metrics }])
      (∀ g l, (r'.gauges g).lookup l = (r.gauges g).lookup l) ∧
        ∀ key, r'.knownLabels.lookup key = r.knownLabels.lookup key := by
  intro r
  have hshows := shows_observeAll (before ++ [snapshot])
  refine ⟨hshows.exported_iff, ?_, ?_, ?_, ?_⟩
  · intro g l hl
    exact exported_active h before hl
  · intro m hm
    have hvalue := fun g => gauge_of_metric h before hm g
    refine ⟨hvalue .memoryBytes, ?_, hvalue .smUtilization, hvalue .smUtilizationNormalized⟩
    intro hsmall
    rw [← GoFloat.ofNat_eq_self hsmall]
    exact hvalue .memoryBytes
  · intro g l hl hother
    exact gauge_of_other h before hl hother
  · intro metrics hperm
    have hshows' := shows_observeAll (before ++ [{ snapshot with metrics := metrics }])
    rw [observeAll_perm h before hperm] at hshows'
    exact ⟨hshows'.gauges_eq hshows, fun key => (hshows'.known key).trans (hshows.known key).symm⟩

/-- A pod that has a metric in the first snapshot and only is active in the second. -/
theorem exporter_state_after_observe_idle_pod :
    let busy : PodGPUMetric := ⟨"team", "job", "u1", "GPU-a", 0, 1024, 40, 1, 40⟩
    let other : PodGPUMetric := ⟨"team", "web", "u2", "GPU-a", 0, 2048, 10, 1, 10⟩
    let r := Runtime.observeAll [⟨[busy], some {"u1"}⟩, ⟨[other], some {"u1", "u2"}⟩]
    (r.gauges .memoryBytes).lookup other.key.labels = some 2048 ∧
      (r.gauges .smUtilization).lookup busy.key.labels = some 0 := by
  intro busy other r
  have hwf : (⟨[other], some {"u1", "u2"}⟩ : Snapshot).WellFormed :=
    ⟨by simp, by simp, ⟨_, rfl, by simp [other]⟩⟩
  obtain ⟨-, -, hmetric, hzero, -⟩ :=
    exporter_state_after_observe [⟨[busy], some {"u1"}⟩] ⟨[other], some {"u1", "u2"}⟩ hwf
  refine ⟨?_, ?_⟩
  · exact (hmetric other (List.mem_singleton_self _)).2.1 (by decide)
  · exact hzero .smUtilization busy.key.labels (by decide) (by decide)

/-- The engine, the snapshots it has held, newest first, and the exporter. -/
structure MetricsState where
  engine : Engine
  published : List Snapshot
  runtime : Runtime

namespace MetricsState

def new (interval smUtilWindow : ℤ) : MetricsState :=
  { engine := newMetricsController interval smUtilWindow
    published := [(newMetricsController interval smUtilWindow).snapshot]
    runtime := Runtime.new }

def collect (s : MetricsState) (pods : PodSource) (nvml : GPUProcessSnapshot) : MetricsState :=
  { s with
    engine := s.engine.collect pods nvml
    published := (s.engine.collect pods nvml).snapshot :: s.published }

def observe (s : MetricsState) (snapshot : Snapshot) : MetricsState :=
  { s with runtime := s.runtime.observe snapshot }

end MetricsState

end GpuFractioning.Metricsd
