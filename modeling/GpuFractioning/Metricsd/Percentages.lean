import GpuFractioning.Metricsd.EnrichTables
import GpuFractioning.Metricsd.Window

/-!
# Published percentages

The utilizations in a published snapshot are percentages, and the normalized
one is never below the other for a pod that asked for at most one GPU. A
collect whose divisions are checked goes through, so none of its divisors is
ever zero.
-/

namespace GpuFractioning.Metricsd

/-- Stopped by a divisor of zero. -/
def divide? (x y : ℚ) : Option ℚ := if y = 0 then none else some (x / y)

theorem divide?_of_ne {x y : ℚ} (hy : y ≠ 0) : divide? x y = some (x / y) := if_neg hy

section Checked

/-! The functions of the engine that divide, with every division checked. -/

def normalizedSMUtil? (smUtil fraction : ℚ) : Option ℚ := do
  let fraction := if fraction = 0 then fullGPUFraction else fraction
  let normalized ← divide? smUtil fraction
  return if normalized > maxSMUtilPercent then maxSMUtilPercent else normalized

def normalizeSMUtil? (metrics : List PodGPUMetric) : Option (List PodGPUMetric) :=
  metrics.mapM fun m => do
    let normalized ← normalizedSMUtil? m.smUtilizationPercent m.requestedGPUFraction
    return { m with smUtilizationPercentNormalized := normalized }

namespace Engine

def gpuFraction? (e : Engine) (gpuIndex : ℤ) (requestedMiB : ℤ) : Option ℚ :=
  if requestedMiB ≤ 0 then some 0
  else
    let totalBytes := (e.deviceTotalMemoryBytes.lookup gpuIndex).getD 0
    if totalBytes = 0 then some 0 else divide? (requestedMiB * bytesPerMiB) totalBytes

def enrich? (e : Engine) (processes : List GPUProcessMetric) (pods : PodSource) :
    Option (List PodGPUMetric × ℕ) := do
  let acc := e.enrichment processes pods
  let metrics ← acc.byPodGPU.pairs.mapM fun entry => do
    let fraction ← e.gpuFraction? entry.1.gpuIndex
      (sumRequestedMemory ((acc.memByKey.lookup entry.1).getD ∅))
    return { entry.2 with
      smUtilizationPercent :=
        if entry.2.smUtilizationPercent > maxSMUtilPercent then maxSMUtilPercent
        else entry.2.smUtilizationPercent
      requestedGPUFraction := fraction }
  return (metrics, acc.unmatched)

def pushSample? (e : Engine) (key : PodGPUKey) (sample : ℚ) : Option (Engine × ℚ) := do
  let buf := (e.smUtilBuf.lookup key).getD [] ++ [sample]
  let buf :=
    if buf.length > e.smUtilWindowSize then buf.drop (buf.length - e.smUtilWindowSize) else buf
  let average ← divide? buf.sum buf.length
  return ({ e with smUtilBuf := e.smUtilBuf.insert key buf }, average)

def pushSamples? : Engine → List PodGPUMetric → Option (Engine × List PodGPUMetric)
  | e, [] => some (e, [])
  | e, m :: metrics => do
    let (e, average) ← e.pushSample? m.key m.smUtilizationPercent
    let (e, averaged) ← pushSamples? e metrics
    return (e, { m with smUtilizationPercent := average } :: averaged)

def windowedSMUtil? (e : Engine) (metrics : List PodGPUMetric) :
    Option (Engine × List PodGPUMetric) := do
  let (e, averaged) ← e.pushSamples? metrics
  return ({ e with
    smUtilBuf := FiniteMap.filter (fun key _ => key ∈ metrics.map PodGPUMetric.key) e.smUtilBuf },
    averaged)

def collect? (e : Engine) (pods : PodSource) (nvml : GPUProcessSnapshot) : Option Engine :=
  if pods.activeContainers = [] then some (e.setSnapshot [] pods.activePodUIDs)
  else do
    let e := e.remember nvml
    let (metrics, _) ← e.enrich? nvml.processes pods
    let (e, metrics) ←
      if e.smUtilWindowSize > 1 then e.windowedSMUtil? metrics else some (e, metrics)
    let metrics ← normalizeSMUtil? metrics
    return e.setSnapshot metrics pods.activePodUIDs

/-- A run of checked collects. -/
def run? (e : Engine) (cycles : List Cycle) : Option Engine :=
  cycles.foldlM (fun e cycle => e.collect? cycle.pods cycle.nvml) e

end Engine

theorem normalizedSMUtil?_eq (smUtil fraction : ℚ) :
    normalizedSMUtil? smUtil fraction = some (normalizedSMUtil smUtil fraction) := by
  have hfraction : (if fraction = 0 then fullGPUFraction else fraction) ≠ 0 := by
    split_ifs with h
    · exact one_ne_zero
    · exact h
  unfold normalizedSMUtil?
  dsimp only
  rw [divide?_of_ne hfraction]
  rfl

theorem normalizeSMUtil?_eq (metrics : List PodGPUMetric) :
    normalizeSMUtil? metrics = some (normalizeSMUtil metrics) := by
  simp only [normalizeSMUtil?, normalizedSMUtil?_eq, Option.bind_eq_bind, Option.bind_some,
    List.mapM_pure]
  rfl

namespace Engine

theorem gpuFraction?_eq (e : Engine) (gpuIndex requestedMiB : ℤ) :
    e.gpuFraction? gpuIndex requestedMiB = some (e.gpuFraction gpuIndex requestedMiB) := by
  unfold gpuFraction? gpuFraction
  dsimp only
  split_ifs with hrequested htotal
  · rfl
  · rfl
  · exact divide?_of_ne (Nat.cast_ne_zero.mpr htotal)

theorem enrich?_eq (e : Engine) (processes : List GPUProcessMetric) (pods : PodSource) :
    e.enrich? processes pods = some (e.enrich processes pods) := by
  simp only [enrich?, gpuFraction?_eq, Option.bind_eq_bind, Option.bind_some, List.mapM_pure]
  rfl

theorem pushSample?_eq {e : Engine} (hsize : 0 < e.smUtilWindowSize) (key : PodGPUKey)
    (sample : ℚ) : e.pushSample? key sample = some (e.pushSample key sample) := by
  have hne := slide_ne_nil hsize ((e.smUtilBuf.lookup key).getD []) sample
  have hlength := Nat.cast_ne_zero (R := ℚ).mpr (mt List.length_eq_zero_iff.mp hne)
  unfold pushSample?
  dsimp only [slide] at hlength ⊢
  rw [divide?_of_ne hlength]
  rfl

theorem pushSamples?_eq {e : Engine} (hsize : 0 < e.smUtilWindowSize)
    (metrics : List PodGPUMetric) : e.pushSamples? metrics = some (e.pushSamples metrics) := by
  induction metrics generalizing e with
  | nil => rfl
  | cons m metrics ih =>
    unfold pushSamples?
    rw [pushSample?_eq hsize, Option.bind_eq_bind, Option.bind_some]
    have hpushed : 0 < (e.pushSample m.key m.smUtilizationPercent).1.smUtilWindowSize := hsize
    dsimp only
    rw [ih hpushed]
    rfl

theorem collect?_eq (e : Engine) (pods : PodSource) (nvml : GPUProcessSnapshot) :
    e.collect? pods nvml = some (e.collect pods nvml) := by
  unfold collect? collect
  split_ifs with hactive
  · rfl
  · simp only [enrich?_eq, Option.bind_eq_bind, Option.bind_some, normalizeSMUtil?_eq]
    split_ifs with hsize
    · have hpositive : 0 < (e.remember nvml).smUtilWindowSize := by omega
      rw [windowedSMUtil?, pushSamples?_eq hpositive]
      rfl
    · rfl

/-- No division by zero is reached. -/
theorem run?_eq (e : Engine) (cycles : List Cycle) : e.run? cycles = some (e.run cycles) := by
  induction cycles generalizing e with
  | nil => rfl
  | cons cycle cycles ih =>
    rw [run?, List.foldlM_cons, collect?_eq, Option.bind_eq_bind, Option.bind_some]
    exact ih (e.step cycle)

end Engine

end Checked

section Bounds

def IsPercent (x : ℚ) : Prop := 0 ≤ x ∧ x ≤ maxSMUtilPercent

theorem isPercent_average {samples : List ℚ} (hne : samples ≠ [])
    (hsamples : ∀ x ∈ samples, IsPercent x) : IsPercent (average samples) := by
  have hlength : (0 : ℚ) < samples.length := by
    rw [Nat.cast_pos]
    exact List.length_pos_of_ne_nil hne
  have hlow : 0 ≤ samples.sum := List.sum_nonneg fun x hx => (hsamples x hx).1
  have hhigh : samples.sum ≤ samples.length • maxSMUtilPercent :=
    List.sum_le_card_nsmul samples maxSMUtilPercent fun x hx => (hsamples x hx).2
  refine ⟨div_nonneg hlow hlength.le, ?_⟩
  rw [average, div_le_iff₀ hlength, mul_comm, ← nsmul_eq_mul]
  exact hhigh

theorem cap_eq_min (x : ℚ) :
    (if x > maxSMUtilPercent then maxSMUtilPercent else x) = min 100 x := by
  split_ifs with hcap
  · exact (min_eq_left hcap.le).symm
  · exact (min_eq_right (not_lt.mp hcap)).symm

theorem isPercent_cap {x : ℚ} (hx : 0 ≤ x) :
    IsPercent (if x > maxSMUtilPercent then maxSMUtilPercent else x) := by
  rw [cap_eq_min]
  exact ⟨le_min (by norm_num) hx, min_le_left _ _⟩

theorem normalizedSMUtil_eq_min (smUtil fraction : ℚ) :
    normalizedSMUtil smUtil fraction =
      min 100 (smUtil / if fraction = 0 then 1 else fraction) :=
  cap_eq_min _

/-- What is said of one published metric. -/
structure PodGPUMetric.Percentages (m : PodGPUMetric) : Prop where
  smUtil : 0 ≤ m.smUtilizationPercent ∧ m.smUtilizationPercent ≤ 100
  normalized : 0 ≤ m.smUtilizationPercentNormalized ∧ m.smUtilizationPercentNormalized ≤ 100
  normalized_eq : m.smUtilizationPercentNormalized =
    min 100 (m.smUtilizationPercent /
      if m.requestedGPUFraction = 0 then 1 else m.requestedGPUFraction)
  le_normalized : m.requestedGPUFraction ≤ 1 →
    m.smUtilizationPercent ≤ m.smUtilizationPercentNormalized

theorem percentages_of_normalizeSMUtil {metrics : List PodGPUMetric}
    (hmetrics : ∀ m ∈ metrics, IsPercent m.smUtilizationPercent ∧ 0 ≤ m.requestedGPUFraction)
    {m : PodGPUMetric} (hm : m ∈ normalizeSMUtil metrics) : m.Percentages := by
  obtain ⟨raw, hraw, rfl⟩ := List.mem_map.mp hm
  obtain ⟨⟨hlow, hhigh⟩, hfraction⟩ := hmetrics raw hraw
  have heq := normalizedSMUtil_eq_min raw.smUtilizationPercent raw.requestedGPUFraction
  have hpositive : 0 < if raw.requestedGPUFraction = 0 then 1 else raw.requestedGPUFraction := by
    split_ifs with hzero
    · exact one_pos
    · exact lt_of_le_of_ne hfraction (Ne.symm hzero)
  refine ⟨⟨hlow, hhigh⟩, ?_, heq, ?_⟩
  · dsimp only
    rw [heq]
    exact ⟨le_min (by norm_num) (div_nonneg hlow hpositive.le), min_le_left _ _⟩
  · intro hle
    dsimp only at hle ⊢
    rw [heq]
    have hone : (if raw.requestedGPUFraction = 0 then 1 else raw.requestedGPUFraction) ≤ 1 := by
      split_ifs
      · exact le_refl 1
      · exact hle
    exact le_min hhigh (le_div_self hlow hpositive hone)

end Bounds

namespace Engine

theorem gpuFraction_nonneg (e : Engine) (gpuIndex requestedMiB : ℤ) :
    0 ≤ e.gpuFraction gpuIndex requestedMiB := by
  unfold gpuFraction
  dsimp only
  split_ifs with hrequested htotal
  · exact le_refl 0
  · exact le_refl 0
  · have hamount : (0 : ℚ) ≤ requestedMiB := Int.cast_nonneg (by omega)
    have hunit : 0 ≤ bytesPerMiB := by norm_num [bytesPerMiB]
    exact div_nonneg (mul_nonneg hamount hunit) (Nat.cast_nonneg _)

theorem enrichment_smUtil_nonneg {e : Engine} {processes : List GPUProcessMetric}
    {pods : PodSource} {key : PodGPUKey} {m : PodGPUMetric}
    (hm : (e.enrichment processes pods).byPodGPU.lookup key = some m) :
    0 ≤ m.smUtilizationPercent := by
  rw [lookup_enrichment] at hm
  split_ifs at hm
  · cases hm
    rw [foldl_add _ _ (by simp [idlePodGPUMetric])]
    dsimp only [idlePodGPUMetric]
    rw [zero_add]
    refine List.sum_nonneg fun x hx => ?_
    obtain ⟨a, -, rfl⟩ := List.mem_map.mp hx
    exact Nat.cast_nonneg _
  · cases hm
    exact le_refl 0

theorem rawMetrics_bounded {e : Engine} {cycle : Cycle} {m : PodGPUMetric}
    (hm : m ∈ e.rawMetrics cycle) :
    IsPercent m.smUtilizationPercent ∧ 0 ≤ m.requestedGPUFraction := by
  obtain ⟨⟨key, summed⟩, hentry, rfl⟩ := List.mem_map.mp hm
  exact ⟨isPercent_cap (enrichment_smUtil_nonneg (FiniteMap.mem_pairs.mp hentry)),
    gpuFraction_nonneg _ _ _⟩

/-- The samples in the windows are percentages. -/
def WindowsPercent (e : Engine) : Prop :=
  ∀ key window, e.smUtilBuf.lookup key = some window → ∀ x ∈ window, IsPercent x

section Step

variable {e : Engine} {cycle : Cycle} {m : PodGPUMetric}

theorem WindowsPercent.slid (h : e.WindowsPercent) (hm : m ∈ e.rawMetrics cycle) :
    ∀ x ∈ e.slid m, IsPercent x := by
  intro x hx
  rcases mem_slide hx with hold | rfl
  · cases hlookup : e.smUtilBuf.lookup m.key with
    | none => simp [hlookup] at hold
    | some window =>
      rw [hlookup, Option.getD_some] at hold
      exact h m.key window hlookup x hold
  · exact (rawMetrics_bounded hm).1

theorem WindowsPercent.step (h : e.WindowsPercent) (cycle : Cycle) :
    (e.step cycle).WindowsPercent := by
  intro key window hlookup
  by_cases hactive : cycle.pods.activeContainers = []
  · rw [step_inactive e hactive] at hlookup
    exact h key window hlookup
  · by_cases hsize : 1 < e.smUtilWindowSize
    · rw [lookup_step_smUtilBuf e hactive hsize, Option.map_eq_some_iff] at hlookup
      obtain ⟨m, hfind, rfl⟩ := hlookup
      exact h.slid (List.mem_of_find?_eq_some hfind)
    · rw [step_smUtilBuf_of_le e hsize] at hlookup
      exact h key window hlookup

theorem WindowsPercent.percentages (h : e.WindowsPercent)
    (hm : m ∈ (e.step cycle).snapshot.metrics) : m.Percentages := by
  by_cases hactive : cycle.pods.activeContainers = []
  · simp [step_inactive e hactive, setSnapshot] at hm
  · rw [step_metrics e hactive] at hm
    refine percentages_of_normalizeSMUtil ?_ hm
    split_ifs with hsize
    · intro averaged haveraged
      obtain ⟨raw, hraw, rfl⟩ := List.mem_map.mp haveraged
      have hne : e.slid raw ≠ [] := slide_ne_nil (by omega) _ _
      exact ⟨isPercent_average hne (h.slid hraw), (rawMetrics_bounded hraw).2⟩
    · intro raw hraw
      exact rawMetrics_bounded hraw

end Step

/-- Whatever is collected, with any window and any totals learned before, the published
percentages are well formed and no divisor is zero. -/
theorem percentages_of_every_run (interval smUtilWindow : ℤ) (totals : FiniteMap ℤ ℕ)
    (cycles : List Cycle) :
    let e : Engine :=
      { newMetricsController interval smUtilWindow with deviceTotalMemoryBytes := totals }
    e.run? cycles = some (e.run cycles) ∧
      ∀ m ∈ (e.run cycles).snapshot.metrics, m.Percentages := by
  intro e
  refine ⟨run?_eq e cycles, ?_⟩
  have hrun : (e.run cycles).WindowsPercent ∧
      ∀ m ∈ (e.run cycles).snapshot.metrics, m.Percentages := by
    refine run_invariant
      (P := fun e => e.WindowsPercent ∧ ∀ m ∈ e.snapshot.metrics, m.Percentages) ?_ ?_ cycles
    · rintro e cycle ⟨hwindows, -⟩
      exact ⟨hwindows.step cycle, fun m hm => hwindows.percentages hm⟩
    · constructor
      · intro key window hlookup
        cases hlookup
      · intro m hm
        cases hm
  exact hrun.2

end Engine

end GpuFractioning.Metricsd
