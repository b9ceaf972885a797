import GpuFractioning.Lib.KeyedList
import GpuFractioning.Metricsd.Collects

/-!
# The averaging window of one collect

Series are averaged independently of each other: what a collect leaves in the
window of a series, and the value it publishes, depend on that window and on
the sample of the series alone.
-/

namespace GpuFractioning.Metricsd

/-- A window of at most `size` samples after one more, the oldest first. -/
def slide (size : ℕ) (window : List ℚ) (sample : ℚ) : List ℚ :=
  let buf := window ++ [sample]
  if buf.length > size then buf.drop (buf.length - size) else buf

def average (samples : List ℚ) : ℚ := samples.sum / samples.length

/-- Seen from the newest sample, a window is the beginning of all samples. -/
theorem slide_reverse (size : ℕ) (samples : List ℚ) (sample : ℚ) :
    slide size samples.reverse sample = ((sample :: samples).take size).reverse := by
  have hlength : (samples.reverse ++ [sample]).length = samples.length + 1 := by simp
  unfold slide
  dsimp only
  rw [hlength]
  split_ifs with hlong
  · rw [← List.reverse_cons, List.drop_reverse]
    congr 2
    rw [List.length_cons]
    omega
  · rw [List.take_of_length_le (by rw [List.length_cons]; omega), List.reverse_cons]

theorem slide_take_reverse {size : ℕ} (hsize : 0 < size) (samples : List ℚ) (sample : ℚ) :
    slide size (samples.take size).reverse sample = ((sample :: samples).take size).reverse := by
  obtain ⟨n, rfl⟩ := Nat.exists_eq_succ_of_ne_zero hsize.ne'
  rw [slide_reverse, List.take_succ_cons, List.take_succ_cons, List.take_take,
    min_eq_left n.le_succ]

theorem length_slide (size : ℕ) (window : List ℚ) (sample : ℚ) :
    (slide size window sample).length = min size (window.length + 1) := by
  rw [← window.reverse_reverse, slide_reverse]
  simp

/-- In a window of more than one sample, a sample is alone only if the window was empty. -/
theorem slide_eq_singleton_iff {size : ℕ} (hsize : 1 < size) {window : List ℚ} {sample : ℚ} :
    slide size window sample = [sample] ↔ window = [] := by
  constructor
  · intro hslide
    have hlength := length_slide size window sample
    rw [hslide, List.length_singleton] at hlength
    exact List.length_eq_zero_iff.mp (by omega)
  · rintro rfl
    exact if_neg (by rw [List.nil_append, List.length_singleton]; omega)

theorem slide_ne_nil {size : ℕ} (hsize : 0 < size) (window : List ℚ) (sample : ℚ) :
    slide size window sample ≠ [] := by
  rw [← window.reverse_reverse, slide_reverse, ne_eq, List.reverse_eq_nil_iff,
    List.take_eq_nil_iff]
  simp [hsize.ne']

theorem mem_slide {size : ℕ} {window : List ℚ} {sample x : ℚ} (hx : x ∈ slide size window sample) :
    x ∈ window ∨ x = sample := by
  rw [← window.reverse_reverse, slide_reverse, List.mem_reverse] at hx
  rcases List.mem_cons.mp (List.mem_of_mem_take hx) with rfl | hx
  · exact Or.inr rfl
  · exact Or.inl (List.mem_reverse.mp hx)

namespace Engine

/-- The window of a series after the sample of its metric. -/
def slid (e : Engine) (m : PodGPUMetric) : List ℚ :=
  slide e.smUtilWindowSize ((e.smUtilBuf.lookup m.key).getD []) m.smUtilizationPercent

/-- What a collect with active containers sums up before it averages. -/
def rawMetrics (e : Engine) (cycle : Cycle) : List PodGPUMetric :=
  ((e.remember cycle.nvml).enrich cycle.nvml.processes cycle.pods).1

section PushSamples

variable (e : Engine) {metrics : List PodGPUMetric}

theorem pushSample_eq (key : PodGPUKey) (sample : ℚ) :
    e.pushSample key sample =
      let window := slide e.smUtilWindowSize ((e.smUtilBuf.lookup key).getD []) sample
      ({ e with smUtilBuf := e.smUtilBuf.insert key window }, average window) := rfl

theorem slid_pushSample {m m' : PodGPUMetric} (hkey : m'.key ≠ m.key) :
    (e.pushSample m.key m.smUtilizationPercent).1.slid m' = e.slid m' := by
  rw [pushSample_eq, slid, slid]
  dsimp only
  rw [FiniteMap.lookup_insert, if_neg hkey]

theorem pushSamples_snd (hnodup : (metrics.map PodGPUMetric.key).Nodup) :
    (e.pushSamples metrics).2 =
      metrics.map fun m => { m with smUtilizationPercent := average (e.slid m) } := by
  induction metrics generalizing e with
  | nil => rfl
  | cons m metrics ih =>
    rw [List.map_cons, List.nodup_cons] at hnodup
    simp only [pushSamples, ih _ hnodup.2, List.map_cons]
    congr 1
    refine List.map_congr_left fun m' hm' => ?_
    have hkey : m'.key ≠ m.key := fun h => hnodup.1 (h ▸ List.mem_map_of_mem hm')
    rw [slid_pushSample e hkey]

theorem lookup_pushSamples (hnodup : (metrics.map PodGPUMetric.key).Nodup) (key : PodGPUKey) :
    (e.pushSamples metrics).1.smUtilBuf.lookup key =
      ((metrics.find? fun m => m.key = key).map e.slid).or (e.smUtilBuf.lookup key) := by
  induction metrics generalizing e with
  | nil => rfl
  | cons m metrics ih =>
    rw [List.map_cons, List.nodup_cons] at hnodup
    simp only [pushSamples, ih _ hnodup.2]
    by_cases hkey : m.key = key
    · have hlater : (metrics.find? fun m => m.key = key) = none :=
        (KeyedList.find?_eq_none_iff _).mpr (hkey ▸ hnodup.1)
      rw [hlater, List.find?_cons_of_pos (by simpa using hkey), pushSample_eq]
      dsimp only
      rw [FiniteMap.lookup_insert, if_pos hkey.symm]
      rfl
    · rw [List.find?_cons_of_neg (by simpa using hkey)]
      cases hfind : metrics.find? fun m => m.key = key with
      | none =>
        rw [pushSample_eq]
        dsimp only
        rw [FiniteMap.lookup_insert, if_neg (Ne.symm hkey)]
        rfl
      | some m' =>
        have hkey' : m'.key = key := by simpa using List.find?_some hfind
        rw [Option.map_some, Option.map_some, slid_pushSample e (hkey' ▸ Ne.symm hkey)]
        rfl

theorem lookup_windowedSMUtil (hnodup : (metrics.map PodGPUMetric.key).Nodup) (key : PodGPUKey) :
    (e.windowedSMUtil metrics).1.smUtilBuf.lookup key =
      (metrics.find? fun m => m.key = key).map e.slid := by
  unfold windowedSMUtil
  dsimp only
  rw [FiniteMap.lookup_filter, lookup_pushSamples e hnodup]
  cases hfind : metrics.find? fun m => m.key = key with
  | none =>
    have habsent := (KeyedList.find?_eq_none_iff _).mp hfind
    simp [habsent]
  | some m =>
    obtain ⟨hm, rfl⟩ := (KeyedList.find?_eq_some_iff _ hnodup).mp hfind
    simp [List.mem_map_of_mem hm]

end PushSamples

section Collect

variable (e : Engine) {cycle : Cycle}

theorem rawMetrics_keys_nodup (cycle : Cycle) :
    ((e.rawMetrics cycle).map PodGPUMetric.key).Nodup :=
  enrich_keys_nodup _ _ _

theorem step_smUtilWindowSize (cycle : Cycle) :
    (e.step cycle).smUtilWindowSize = e.smUtilWindowSize := by
  obtain ⟨buf, snapshot, hframe⟩ := collect_frame e cycle.pods cycle.nvml
  rw [step, hframe]
  split_ifs <;> rfl

theorem run_smUtilWindowSize (cycles : List Cycle) :
    (e.run cycles).smUtilWindowSize = e.smUtilWindowSize :=
  run_invariant (P := fun e' => e'.smUtilWindowSize = e.smUtilWindowSize)
    (fun e' cycle he' => (step_smUtilWindowSize e' cycle).trans he') rfl cycles

theorem step_inactive (hactive : cycle.pods.activeContainers = []) :
    e.step cycle = e.setSnapshot [] cycle.pods.activePodUIDs :=
  if_pos hactive

theorem step_smUtilBuf_of_le (hsize : ¬1 < e.smUtilWindowSize) :
    (e.step cycle).smUtilBuf = e.smUtilBuf := by
  unfold step collect
  split_ifs
  · rfl
  · dsimp only
    rw [if_neg (show ¬(e.remember cycle.nvml).smUtilWindowSize > 1 from hsize)]
    rfl

theorem lookup_step_smUtilBuf (hactive : cycle.pods.activeContainers ≠ [])
    (hsize : 1 < e.smUtilWindowSize) (key : PodGPUKey) :
    (e.step cycle).smUtilBuf.lookup key =
      ((e.rawMetrics cycle).find? fun m => m.key = key).map e.slid := by
  rw [step, collect, if_neg hactive]
  dsimp only
  rw [if_pos (show (e.remember cycle.nvml).smUtilWindowSize > 1 from hsize)]
  exact lookup_windowedSMUtil (e.remember cycle.nvml) (e.rawMetrics_keys_nodup cycle) key

theorem step_metrics (hactive : cycle.pods.activeContainers ≠ []) :
    (e.step cycle).snapshot.metrics =
      normalizeSMUtil (if 1 < e.smUtilWindowSize then
        (e.rawMetrics cycle).map fun m => { m with smUtilizationPercent := average (e.slid m) }
      else e.rawMetrics cycle) := by
  rw [step, collect, if_neg hactive]
  dsimp only [setSnapshot]
  have hsize : (e.remember cycle.nvml).smUtilWindowSize = e.smUtilWindowSize := rfl
  rw [hsize]
  split_ifs
  · exact congrArg normalizeSMUtil
      (pushSamples_snd (e.remember cycle.nvml) (e.rawMetrics_keys_nodup cycle))
  · rfl

end Collect

end Engine

end GpuFractioning.Metricsd
