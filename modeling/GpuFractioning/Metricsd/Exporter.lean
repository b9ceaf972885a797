import GpuFractioning.Metricsd.Types

/-!
# The exporter

`Runtime.observe` of `metricsd/internal/metrics/exporter.go`. An observe holds a
mutex and acts on the map of known labels and, one call at a time, on three
gauge vectors; the calls are collected in the order they are made, so that
they can also be interleaved with the reads of other requests. `Series` is what
the state amounts to: a partial function from keys to the three values.
-/

namespace GpuFractioning.Metricsd

inductive Gauge where
  | memoryBytes
  | smUtilization
  | smUtilizationNormalized
  deriving DecidableEq, Repr

/-- The three gauge vectors. -/
abbrev Gauges := Gauge → FiniteMap Labels ℚ

/-- A call on one gauge vector, which is atomic. -/
inductive GaugeOp where
  | set (g : Gauge) (l : Labels) (value : ℚ)
  | delete (g : Gauge) (l : Labels)
  deriving DecidableEq, Repr

def GaugeOp.apply (s : Gauges) : GaugeOp → Gauges
  | .set g l value => Function.update s g ((s g).insert l value)
  | .delete g l => Function.update s g ((s g).erase l)

def applyOps (s : Gauges) (ops : List GaugeOp) : Gauges := ops.foldl GaugeOp.apply s

/-- The values a metric sets. -/
def PodGPUMetric.value (m : PodGPUMetric) : Gauge → ℚ
  | .memoryBytes => GoFloat.ofNat m.memoryBytes
  | .smUtilization => m.smUtilizationPercent
  | .smUtilizationNormalized => m.smUtilizationPercentNormalized

def setAll (l : Labels) (value : Gauge → ℚ) : List GaugeOp :=
  [.set .memoryBytes l (value .memoryBytes), .set .smUtilization l (value .smUtilization),
    .set .smUtilizationNormalized l (value .smUtilizationNormalized)]

def setZero (l : Labels) : List GaugeOp := setAll l fun _ => 0

def deleteAll (l : Labels) : List GaugeOp :=
  [.delete .memoryBytes l, .delete .smUtilization l, .delete .smUtilizationNormalized l]

/-- The known labels, and the gauge calls made so far in this observe. -/
structure Plan where
  knownLabels : FiniteMap PodGPUKey Labels
  ops : List GaugeOp

namespace Plan

def deleteSeries (p : Plan) (key : PodGPUKey) : Plan :=
  { knownLabels := p.knownLabels.erase key
    ops := p.ops ++
      match p.knownLabels.lookup key with
      | some l => deleteAll l
      | none => [] }

def pruneDeletedPods (p : Plan) (activePodUIDs : Option (Finset String)) : Plan :=
  match activePodUIDs with
  | none => p
  | some uids => (p.knownLabels.keys.filter fun key => key.podUID ∉ uids).foldl deleteSeries p

def zeroKnown (p : Plan) : Plan :=
  { p with ops := p.ops ++ p.knownLabels.pairs.flatMap fun e => setZero e.2 }

/-- `key` is the idle placeholder of the GPU on which `observed` was seen. -/
def supersedes (observed key : PodGPUKey) : Bool :=
  observed.gpuUUID != "" && key.namespace_ == observed.namespace_ &&
    key.podUID == observed.podUID && key.gpuUUID == "" && key.gpuIndex == observed.gpuIndex

def deleteIdleLabelsForObservedGPU (p : Plan) (observed : PodGPUKey) : Plan :=
  if observed.gpuUUID = "" then p
  else (p.knownLabels.keys.filter fun key => supersedes observed key).foldl deleteSeries p

def observeMetric (p : Plan) (m : PodGPUMetric) : Plan :=
  let p := p.deleteIdleLabelsForObservedGPU m.key
  { knownLabels := p.knownLabels.insert m.key m.key.labels
    ops := p.ops ++ setAll m.key.labels m.value }

end Plan

/-- What `observe` does, given the labels known before it. -/
def plan (knownLabels : FiniteMap PodGPUKey Labels) (snapshot : Snapshot) : Plan :=
  snapshot.metrics.foldl Plan.observeMetric
    (Plan.zeroKnown (Plan.pruneDeletedPods ⟨knownLabels, []⟩ snapshot.activePodUIDs))

structure Runtime where
  knownLabels : FiniteMap PodGPUKey Labels
  gauges : Gauges

namespace Runtime

def new : Runtime := { knownLabels := ∅, gauges := fun _ => ∅ }

def observe (r : Runtime) (snapshot : Snapshot) : Runtime :=
  let p := plan r.knownLabels snapshot
  { knownLabels := p.knownLabels, gauges := applyOps r.gauges p.ops }

end Runtime

section GaugeOps

theorem applyOps_append (s : Gauges) (ops ops' : List GaugeOp) :
    applyOps s (ops ++ ops') = applyOps (applyOps s ops) ops' := List.foldl_append

theorem lookup_setAll (s : Gauges) (l : Labels) (value : Gauge → ℚ) (g : Gauge) (l' : Labels) :
    (applyOps s (setAll l value) g).lookup l' =
      if l' = l then some (value g) else (s g).lookup l' := by
  cases g <;> simp [applyOps, setAll, GaugeOp.apply, FiniteMap.lookup_insert]

theorem lookup_deleteAll (s : Gauges) (l : Labels) (g : Gauge) (l' : Labels) :
    (applyOps s (deleteAll l) g).lookup l' = if l' = l then none else (s g).lookup l' := by
  cases g <;> simp [applyOps, deleteAll, GaugeOp.apply, FiniteMap.lookup_erase]

theorem lookup_setZero_flatMap (s : Gauges) (entries : List (PodGPUKey × Labels)) (g : Gauge)
    (l : Labels) :
    (applyOps s (entries.flatMap fun e => setZero e.2) g).lookup l =
      if l ∈ entries.map Prod.snd then some 0 else (s g).lookup l := by
  induction entries generalizing s with
  | nil => rfl
  | cons e entries ih =>
    rw [List.flatMap_cons, applyOps_append, ih, setZero, lookup_setAll, List.map_cons]
    split_ifs <;> simp_all

end GaugeOps

/-- The exported series: for each key, the values of the three gauges. -/
abbrev Series := PodGPUKey → Option (Gauge → ℚ)

namespace Series

def keeps (activePodUIDs : Option (Finset String)) (key : PodGPUKey) : Bool :=
  match activePodUIDs with
  | none => true
  | some uids => key.podUID ∈ uids

/-- Series of pods that are gone disappear, the others read zero. -/
def reset (v : Series) (activePodUIDs : Option (Finset String)) : Series := fun key =>
  if keeps activePodUIDs key then (v key).map fun _ _ => 0 else none

/-- A metric takes the place of its idle placeholder. -/
def observeMetric (v : Series) (m : PodGPUMetric) : Series :=
  Function.update (fun key => if Plan.supersedes m.key key then none else v key) m.key
    (some m.value)

def observe (v : Series) (snapshot : Snapshot) : Series :=
  snapshot.metrics.foldl observeMetric (v.reset snapshot.activePodUIDs)

end Series

/-- The known labels and the three gauge vectors hold the same series. -/
structure Shows (knownLabels : FiniteMap PodGPUKey Labels) (s : Gauges) (v : Series) : Prop where
  known : ∀ key, knownLabels.lookup key = (v key).map fun _ => key.labels
  gauge : ∀ g key, (s g).lookup key.labels = (v key).map fun value => value g
  labelled : ∀ g l, (s g).lookup l ≠ none → ∃ key : PodGPUKey, l = key.labels

section Refinement

variable {s : Gauges} {p : Plan} {v : Series}

/-- The plan's calls, made on `s`, leave the series `v`. -/
abbrev Plan.Shows (s : Gauges) (p : Plan) (v : Series) : Prop :=
  Metricsd.Shows p.knownLabels (applyOps s p.ops) v

theorem Plan.Shows.of_eq {v' : Series} (h : p.Shows s v) (hv : ∀ key, v' key = v key) :
    p.Shows s v' := by
  rw [funext hv]
  exact h

theorem Plan.Shows.mem_keys (h : p.Shows s v) {key : PodGPUKey} :
    key ∈ p.knownLabels.keys ↔ v key ≠ none := by
  rw [← AList.mem_keys, ← AList.lookup_isSome, h.known]
  cases v key <;> simp

theorem Plan.Shows.deleteSeries (h : p.Shows s v) (key : PodGPUKey) :
    (p.deleteSeries key).Shows s (Function.update v key none) := by
  have hdelete : ∀ g l, (applyOps s (p.deleteSeries key).ops g).lookup l =
      if l = key.labels then none else (applyOps s p.ops g).lookup l := by
    intro g l
    have hgauge := h.gauge g key
    simp only [Plan.deleteSeries, h.known key]
    cases hv : v key with
    | some value => simp [applyOps_append, lookup_deleteAll]
    | none =>
      rw [hv] at hgauge
      split_ifs with hl
      · rw [hl]
        simpa using hgauge
      · simp
  refine ⟨?_, ?_, ?_⟩
  · intro key'
    simp only [Plan.deleteSeries, FiniteMap.lookup_erase, Function.update_apply, h.known]
    split_ifs <;> rfl
  · intro g key'
    rw [hdelete, Function.update_apply]
    by_cases hkey : key' = key
    · simp [hkey]
    · have hl : key'.labels ≠ key.labels := fun e => hkey (PodGPUKey.labels_injective e)
      simp [hkey, hl, h.gauge]
  · intro g l hl
    rw [hdelete] at hl
    split_ifs at hl
    · exact absurd rfl hl
    · exact h.labelled g l hl

theorem Plan.Shows.deleteAllSeries (h : p.Shows s v) (keys : List PodGPUKey) :
    (keys.foldl Plan.deleteSeries p).Shows s (fun key => if key ∈ keys then none else v key) := by
  induction keys generalizing p v with
  | nil => simpa using h
  | cons key keys ih =>
    refine (ih (h.deleteSeries key)).of_eq ?_
    intro key'
    by_cases hmem : key' ∈ keys <;> by_cases hkey : key' = key <;> simp [hmem, hkey]

theorem Plan.Shows.pruneDeletedPods (h : p.Shows s v) (activePodUIDs : Option (Finset String)) :
    (p.pruneDeletedPods activePodUIDs).Shows s
      (fun key => if Series.keeps activePodUIDs key then v key else none) := by
  cases activePodUIDs with
  | none => simpa [Plan.pruneDeletedPods, Series.keeps] using h
  | some uids =>
    refine (h.deleteAllSeries (p.knownLabels.keys.filter fun key => key.podUID ∉ uids)).of_eq ?_
    intro key
    by_cases hactive : key.podUID ∈ uids
    · simp [Series.keeps, hactive]
    · cases hv : v key with
      | none => simp [Series.keeps, hactive]
      | some value =>
        have hmem := h.mem_keys.mpr (by simp [hv] : v key ≠ none)
        simp [Series.keeps, hactive, hmem]

theorem Plan.Shows.zeroKnown (h : p.Shows s v) :
    p.zeroKnown.Shows s (fun key => (v key).map fun _ _ => 0) := by
  have hlookup : ∀ g l, (applyOps s p.zeroKnown.ops g).lookup l =
      if l ∈ p.knownLabels.pairs.map Prod.snd then some 0
      else (applyOps s p.ops g).lookup l := by
    intro g l
    rw [Plan.zeroKnown, applyOps_append, lookup_setZero_flatMap]
  have hpairs : ∀ key : PodGPUKey,
      key.labels ∈ p.knownLabels.pairs.map Prod.snd ↔ v key ≠ none := by
    intro key
    rw [List.mem_map]
    constructor
    · rintro ⟨⟨key', l⟩, he, hl⟩
      rw [FiniteMap.mem_pairs, h.known] at he
      obtain ⟨value, hv, rfl⟩ := Option.map_eq_some_iff.mp he
      rw [← PodGPUKey.labels_injective hl, hv]
      simp
    · intro hv
      obtain ⟨value, hv⟩ := Option.ne_none_iff_exists'.mp hv
      exact ⟨(key, key.labels), FiniteMap.mem_pairs.mpr (by rw [h.known, hv]; rfl), rfl⟩
  refine ⟨?_, ?_, ?_⟩
  · intro key
    rw [Plan.zeroKnown, h.known, Option.map_map]
    rfl
  · intro g key
    rw [hlookup, h.gauge]
    simp only [hpairs]
    cases v key <;> simp
  · intro g l hl
    rw [hlookup] at hl
    split_ifs at hl with he
    · obtain ⟨⟨key, l'⟩, hpair, rfl⟩ := List.mem_map.mp he
      have he := FiniteMap.mem_pairs.mp hpair
      rw [h.known] at he
      obtain ⟨value, -, rfl⟩ := Option.map_eq_some_iff.mp he
      exact ⟨key, rfl⟩
    · exact h.labelled g l hl

theorem Plan.Shows.deleteIdle (h : p.Shows s v) (observed : PodGPUKey) :
    (p.deleteIdleLabelsForObservedGPU observed).Shows s
      (fun key => if Plan.supersedes observed key then none else v key) := by
  unfold Plan.deleteIdleLabelsForObservedGPU
  split_ifs with huuid
  · simpa [Plan.supersedes, huuid] using h
  · refine (h.deleteAllSeries
      (p.knownLabels.keys.filter fun key => Plan.supersedes observed key)).of_eq ?_
    intro key
    cases hv : v key with
    | none => simp
    | some value =>
      have hmem := h.mem_keys.mpr (by simp [hv] : v key ≠ none)
      simp [hmem]

theorem Plan.Shows.observeMetric (h : p.Shows s v) (m : PodGPUMetric) :
    (p.observeMetric m).Shows s (v.observeMetric m) := by
  have hidle := h.deleteIdle m.key
  have hlookup : ∀ g l, (applyOps s (p.observeMetric m).ops g).lookup l =
      if l = m.key.labels then some (m.value g)
      else (applyOps s (p.deleteIdleLabelsForObservedGPU m.key).ops g).lookup l := by
    intro g l
    rw [Plan.observeMetric, applyOps_append, lookup_setAll]
  refine ⟨?_, ?_, ?_⟩
  · intro key
    simp only [Plan.observeMetric, FiniteMap.lookup_insert, Series.observeMetric,
      Function.update_apply, hidle.known]
    split_ifs with hkey
    · rw [hkey]
      rfl
    · rfl
    · rfl
  · intro g key
    rw [hlookup, Series.observeMetric, Function.update_apply]
    by_cases hkey : key = m.key
    · simp [hkey]
    · have hl : key.labels ≠ m.key.labels := fun e => hkey (PodGPUKey.labels_injective e)
      rw [if_neg hl, if_neg hkey, hidle.gauge]
  · intro g l hl
    rw [hlookup] at hl
    split_ifs at hl with heq
    · exact ⟨m.key, heq⟩
    · exact hidle.labelled g l hl

/-- An observe does to the known labels and the gauges what it means for the series. -/
theorem Shows.observe {r : Runtime} (h : Shows r.knownLabels r.gauges v) (snapshot : Snapshot) :
    Shows (r.observe snapshot).knownLabels (r.observe snapshot).gauges (v.observe snapshot) := by
  have hstart : (⟨r.knownLabels, []⟩ : Plan).Shows r.gauges v := h
  have hreset := (hstart.pruneDeletedPods snapshot.activePodUIDs).zeroKnown
  have hloop : ∀ metrics : List PodGPUMetric, ∀ p v, Plan.Shows r.gauges p v →
      Plan.Shows r.gauges (metrics.foldl Plan.observeMetric p)
        (metrics.foldl Series.observeMetric v) := by
    intro metrics
    induction metrics with
    | nil => exact fun p v hp => hp
    | cons m metrics ih => exact fun p v hp => ih _ _ (hp.observeMetric m)
  refine hloop snapshot.metrics _ _ (hreset.of_eq ?_)
  intro key
  unfold Series.reset
  split_ifs <;> rfl

theorem shows_new : Shows Runtime.new.knownLabels Runtime.new.gauges fun _ => none where
  known key := by simp [Runtime.new]
  gauge g key := by simp [Runtime.new]
  labelled g l h := by simp [Runtime.new] at h

end Refinement

end GpuFractioning.Metricsd
