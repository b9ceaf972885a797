import GpuFractioning.Metricsd.Window

/-!
# The sliding window over a run

The history of a series records, for every collect of a run, the value the
collect summed up for it, if it had one. The average published for a series is
meant to range over the end of its history: over the last collects, at most as
many as the window is long, and not past one in which the series was absent.
A collect that finds no active container leaves the windows as they are, and a
series that comes back after it is averaged with what it was before.
-/

namespace GpuFractioning.Metricsd

/-- The values of the latest collects of a history (the newest first), up to the first in
which the series was absent. -/
def recent (history : List (Option ℚ)) : List ℚ := (history.takeWhile Option.isSome).reduceOption

@[simp] theorem recent_nil : recent [] = [] := rfl

@[simp] theorem recent_none (history : List (Option ℚ)) : recent (none :: history) = [] := rfl

@[simp] theorem recent_some (x : ℚ) (history : List (Option ℚ)) :
    recent (some x :: history) = x :: recent history := rfl

namespace Engine

/-- What a collect sums up for a series. -/
def sample (e : Engine) (cycle : Cycle) (key : PodGPUKey) : Option ℚ :=
  if cycle.pods.activeContainers = [] then none
  else ((e.rawMetrics cycle).find? fun m => m.key = key).map PodGPUMetric.smUtilizationPercent

/-- The samples of a series over a run, the newest first. -/
def history (e : Engine) (key : PodGPUKey) : List Cycle → List (Option ℚ)
  | [] => []
  | cycle :: cycles => (e.step cycle).history key cycles ++ [e.sample cycle key]

/-- The samples that are to be averaged after a run: the last `min W r`, where `W` is the size
of the window and the series was present in the last `r` collects. -/
def due (e : Engine) (cycles : List Cycle) (key : PodGPUKey) : List ℚ :=
  (recent (e.history key cycles)).take e.smUtilWindowSize

/-- After the run, every published series has exactly the due samples in its window, and is
published with their average. -/
def SlidingWindow (e : Engine) (cycles : List Cycle) : Prop :=
  ∀ m ∈ (e.run cycles).snapshot.metrics,
    (e.run cycles).smUtilBuf.lookup m.key = some (e.due cycles m.key).reverse ∧
      m.smUtilizationPercent = average (e.due cycles m.key)

/-- A series of the collect that still has samples was published by the collect before. -/
def NoLeftovers (e : Engine) (cycle : Cycle) : Prop :=
  cycle.pods.activeContainers ≠ [] → ∀ m ∈ e.rawMetrics cycle,
    m.key ∈ e.smUtilBuf → m.key ∈ e.snapshot.metrics.map PodGPUMetric.key

theorem history_snoc (e : Engine) (key : PodGPUKey) (cycles : List Cycle) (cycle : Cycle) :
    e.history key (cycles ++ [cycle]) =
      (e.run cycles).sample cycle key :: e.history key cycles := by
  induction cycles generalizing e with
  | nil => rfl
  | cons first cycles ih =>
    simp only [List.cons_append, history, ih (e.step first)]
    rfl

section Step

variable {e : Engine} {cycle : Cycle} {key : PodGPUKey}

theorem sample_eq_some {x : ℚ} :
    e.sample cycle key = some x ↔
      cycle.pods.activeContainers ≠ [] ∧
        ∃ m ∈ e.rawMetrics cycle, m.key = key ∧ m.smUtilizationPercent = x := by
  unfold sample
  split_ifs with hactive
  · simp [hactive]
  · simp only [Option.map_eq_some_iff,
      KeyedList.find?_eq_some_iff _ (e.rawMetrics_keys_nodup cycle), and_assoc]
    exact (and_iff_right hactive).symm

theorem mem_step_keys :
    key ∈ (e.step cycle).snapshot.metrics.map PodGPUMetric.key ↔
      ∃ x, e.sample cycle key = some x := by
  simp only [sample_eq_some]
  by_cases hactive : cycle.pods.activeContainers = []
  · simp [step_inactive e hactive, setSnapshot, hactive]
  · rw [step, collect_keys e cycle.pods cycle.nvml hactive, List.mem_map]
    constructor
    · rintro ⟨m, hm, hkey⟩
      exact ⟨m.smUtilizationPercent, hactive, m, hm, hkey, rfl⟩
    · rintro ⟨x, -, m, hm, hkey, -⟩
      exact ⟨m, hm, hkey⟩

theorem lookup_step_of_sample (hsize : 1 < e.smUtilWindowSize) {x : ℚ}
    (hsample : e.sample cycle key = some x) :
    (e.step cycle).smUtilBuf.lookup key =
      some (slide e.smUtilWindowSize ((e.smUtilBuf.lookup key).getD []) x) := by
  obtain ⟨hactive, m, hm, rfl, rfl⟩ := sample_eq_some.mp hsample
  rw [lookup_step_smUtilBuf e hactive hsize,
    (KeyedList.find?_eq_some_iff _ (e.rawMetrics_keys_nodup cycle)).mpr ⟨hm, rfl⟩]
  rfl

theorem average_of_mem_step (hsize : 1 < e.smUtilWindowSize) {m : PodGPUMetric}
    (hm : m ∈ (e.step cycle).snapshot.metrics) :
    ∃ x, e.sample cycle m.key = some x ∧
      m.smUtilizationPercent =
        average (slide e.smUtilWindowSize ((e.smUtilBuf.lookup m.key).getD []) x) := by
  by_cases hactive : cycle.pods.activeContainers = []
  · simp [step_inactive e hactive, setSnapshot] at hm
  · rw [step_metrics e hactive, if_pos hsize, normalizeSMUtil, List.map_map] at hm
    obtain ⟨raw, hraw, rfl⟩ := List.mem_map.mp hm
    exact ⟨raw.smUtilizationPercent, sample_eq_some.mpr ⟨hactive, raw, hraw, rfl, rfl⟩, rfl⟩

/-- No window is ever empty. -/
def WindowsNonempty (e : Engine) : Prop := ∀ key, e.smUtilBuf.lookup key ≠ some []

theorem WindowsNonempty.step (h : e.WindowsNonempty) (hsize : 1 < e.smUtilWindowSize) :
    (e.step cycle).WindowsNonempty := by
  intro key
  by_cases hactive : cycle.pods.activeContainers = []
  · rw [step_inactive e hactive]
    exact h key
  · rw [lookup_step_smUtilBuf e hactive hsize]
    cases (e.rawMetrics cycle).find? fun m => m.key = key with
    | none => simp
    | some m =>
      rw [Option.map_some, ne_eq, Option.some_inj]
      exact slide_ne_nil (by omega) _ _

end Step

section Run

/-- An engine that has collected nothing yet. -/
structure Fresh (e : Engine) : Prop where
  windows : e.smUtilBuf = ∅
  metrics : e.snapshot.metrics = []

theorem fresh_newMetricsController (interval smUtilWindow : ℤ) :
    (newMetricsController interval smUtilWindow).Fresh := ⟨rfl, rfl⟩

variable {e : Engine} {cycles : List Cycle} {key : PodGPUKey}

theorem Fresh.windowsNonempty (he : e.Fresh) (hsize : 1 < e.smUtilWindowSize)
    (cycles : List Cycle) : (e.run cycles).WindowsNonempty := by
  induction cycles using List.reverseRecOn with
  | nil =>
    intro key
    simp [he.windows]
  | append_singleton cycles cycle ih =>
    rw [run_snoc]
    exact ih.step (by rwa [run_smUtilWindowSize])

theorem Fresh.mem_run_keys (he : e.Fresh) :
    key ∈ (e.run cycles).snapshot.metrics.map PodGPUMetric.key ↔
      recent (e.history key cycles) ≠ [] := by
  induction cycles using List.reverseRecOn with
  | nil => simp [he.metrics, history]
  | append_singleton cycles cycle _ =>
    rw [run_snoc, mem_step_keys, history_snoc]
    cases (e.run cycles).sample cycle key <;> simp

/-- One more collect: the law holds if the window of every sampled series slides to the
samples that are due. -/
theorem slidingWindow_snoc (hsize : 1 < e.smUtilWindowSize) (cycle : Cycle) :
    e.SlidingWindow (cycles ++ [cycle]) ↔
      ∀ key x, (e.run cycles).sample cycle key = some x →
        slide e.smUtilWindowSize (((e.run cycles).smUtilBuf.lookup key).getD []) x =
          ((x :: recent (e.history key cycles)).take e.smUtilWindowSize).reverse := by
  have hrun : (e.run cycles).smUtilWindowSize = e.smUtilWindowSize := run_smUtilWindowSize e cycles
  have hdue {key : PodGPUKey} {x : ℚ} (hsample : (e.run cycles).sample cycle key = some x) :
      e.due (cycles ++ [cycle]) key =
        (x :: recent (e.history key cycles)).take e.smUtilWindowSize := by
    rw [due, history_snoc, hsample, recent_some]
  constructor
  · intro hlaw key x hsample
    obtain ⟨m, hm, rfl⟩ := List.mem_map.mp (mem_step_keys.mpr ⟨x, hsample⟩)
    rw [← run_snoc] at hm
    have hwindow := (hlaw m hm).1
    rw [run_snoc, lookup_step_of_sample (by rwa [hrun]) hsample, Option.some_inj, hrun,
      hdue hsample] at hwindow
    exact hwindow
  · intro hslide m hm
    rw [run_snoc] at hm
    obtain ⟨x, hsample, haverage⟩ := average_of_mem_step (by rwa [hrun]) hm
    rw [hrun, hslide m.key x hsample] at haverage
    rw [run_snoc, lookup_step_of_sample (by rwa [hrun]) hsample, hrun, hslide m.key x hsample,
      hdue hsample]
    refine ⟨rfl, haverage.trans ?_⟩
    rw [average, average, List.sum_reverse, List.length_reverse]

/-- With the law so far, the window of a sampled series slides to what is due unless it was
kept over a collect that did not have the series. -/
theorem slide_eq_due_iff (he : e.Fresh) (hsize : 1 < e.smUtilWindowSize)
    (hlaw : e.SlidingWindow cycles) (key : PodGPUKey) (x : ℚ) :
    slide e.smUtilWindowSize (((e.run cycles).smUtilBuf.lookup key).getD []) x =
        ((x :: recent (e.history key cycles)).take e.smUtilWindowSize).reverse ↔
      (key ∈ (e.run cycles).smUtilBuf →
        key ∈ (e.run cycles).snapshot.metrics.map PodGPUMetric.key) := by
  by_cases hpublished : key ∈ (e.run cycles).snapshot.metrics.map PodGPUMetric.key
  · obtain ⟨m, hm, rfl⟩ := List.mem_map.mp hpublished
    rw [(hlaw m hm).1, Option.getD_some, due]
    exact iff_of_true (slide_take_reverse (by omega) _ x) fun _ => hpublished
  · have hrecent : recent (e.history key cycles) = [] := by
      by_contra hne
      exact hpublished (he.mem_run_keys.mpr hne)
    have hone : [x].take e.smUtilWindowSize = [x] := List.take_of_length_le (by simp; omega)
    rw [hrecent, hone, List.reverse_singleton, slide_eq_singleton_iff hsize, ← AList.lookup_isSome]
    have hnonempty := he.windowsNonempty hsize cycles key
    cases hlookup : (e.run cycles).smUtilBuf.lookup key with
    | none => simp
    | some window =>
      rw [hlookup, ne_eq, Option.some_inj] at hnonempty
      simp [hnonempty, hpublished]

theorem slidingWindow_step (he : e.Fresh) (hsize : 1 < e.smUtilWindowSize)
    (hlaw : e.SlidingWindow cycles) (cycle : Cycle) :
    e.SlidingWindow (cycles ++ [cycle]) ↔ (e.run cycles).NoLeftovers cycle := by
  rw [slidingWindow_snoc hsize]
  constructor
  · intro hslide hactive m hm
    have hsample : (e.run cycles).sample cycle m.key = some m.smUtilizationPercent :=
      sample_eq_some.mpr ⟨hactive, m, hm, rfl, rfl⟩
    exact (slide_eq_due_iff he hsize hlaw m.key _).mp (hslide m.key _ hsample)
  · intro hleft key x hsample
    obtain ⟨hactive, m, hm, rfl, -⟩ := sample_eq_some.mp hsample
    exact (slide_eq_due_iff he hsize hlaw m.key x).mpr (hleft hactive m hm)

end Run

/-- The law of the sliding window holds throughout a run exactly when no collect of it has a
series with samples from before a collect that did not have the series. -/
theorem slidingWindow_iff_noLeftovers (interval smUtilWindow : ℤ)
    (hsize : 1 < (newMetricsController interval smUtilWindow).smUtilWindowSize)
    (cycles : List Cycle) :
    (∀ before, before <+: cycles →
        (newMetricsController interval smUtilWindow).SlidingWindow before) ↔
      ∀ before cycle, before ++ [cycle] <+: cycles →
        ((newMetricsController interval smUtilWindow).run before).NoLeftovers cycle := by
  have he := fresh_newMetricsController interval smUtilWindow
  induction cycles using List.reverseRecOn with
  | nil =>
    refine iff_of_true ?_ ?_
    · intro before hbefore m hm
      rw [List.prefix_nil.mp hbefore, run_nil, he.metrics] at hm
      cases hm
    · intro before cycle hbefore
      simp at hbefore
  | append_singleton cycles last ih =>
    constructor
    · intro hlaw before cycle hbefore
      rcases List.prefix_concat_iff.mp hbefore with heq | hearlier
      · obtain ⟨rfl, hlast⟩ := List.append_inj' heq rfl
        exact (slidingWindow_step he hsize (hlaw before (List.prefix_append before _)) cycle).mp
          (hlaw _ hbefore)
      · exact ih.mp (fun b hb => hlaw b (hb.trans (List.prefix_append cycles _))) before cycle
          hearlier
    · intro hleft
      have hcycles := ih.mpr fun before cycle hbefore =>
        hleft before cycle (hbefore.trans (List.prefix_append cycles _))
      intro before hbefore
      rcases List.prefix_concat_iff.mp hbefore with rfl | hearlier
      · exact (slidingWindow_step he hsize (hcycles cycles (List.prefix_refl _)) last).mpr
          (hleft cycles last (List.prefix_refl _))
      · exact hcycles before hearlier

/-- A collect that finds one pod, whose process on the first GPU has the given utilization. -/
def busyCycle (smUtil : ℕ) : Cycle :=
  { pods := .single
      { containerID := "c1"
        container := "trainer"
        pod := "train"
        namespace_ := "ml"
        podUID := "p1"
        cgroupPath := "/kubepods/p1/c1"
        gpuDevices := []
        requestedMemoryMiB := 0 } 7
    nvml :=
      { processes := [⟨7, "GPU-a", 0, 2048, smUtil⟩]
        deviceUUIDs := ∅
        deviceMinorToNVMLIndex := ∅
        deviceTotalMemoryBytes := ∅ } }

def emptyCycle : Cycle := { busyCycle 0 with pods := .idle }

def trainKey : PodGPUKey := ⟨"ml", "train", "p1", "GPU-a", 0⟩

/-- A window of two samples. The series is absent from the second collect, and its sample of
the first is still averaged in after the third. -/
theorem leftover_sample_is_averaged :
    (newMetricsController 1 2).smUtilWindowSize = 2 ∧
    (newMetricsController 1 2).history trainKey [busyCycle 100, emptyCycle, busyCycle 0] =
      [some 0, none, some 100] ∧
    ((newMetricsController 1 2).run [busyCycle 100, emptyCycle, busyCycle 0]).snapshot.metrics.map
      (fun m => (m.key, m.smUtilizationPercent)) = [(trainKey, 50)] := by
  exact ⟨by decide, by decide +kernel, by decide +kernel⟩

theorem slidingWindow_iff_noLeftovers_steady :
    1 < (newMetricsController 1 2).smUtilWindowSize ∧
    ∀ before, before <+: [busyCycle 100, busyCycle 0] →
      (newMetricsController 1 2).SlidingWindow before := by
  refine ⟨by decide, ?_⟩
  refine (slidingWindow_iff_noLeftovers 1 2 (by decide) ([busyCycle 100] ++ [busyCycle 0])).mpr ?_
  intro before cycle hbefore
  unfold NoLeftovers
  rcases List.prefix_concat_iff.mp hbefore with heq | hbefore
  · obtain ⟨rfl, hcycle⟩ := List.append_inj' heq rfl
    cases hcycle
    decide +kernel
  · rcases List.prefix_concat_iff.mp (show _ <+: [] ++ [busyCycle 100] from hbefore) with heq | hnil
    · obtain ⟨rfl, hcycle⟩ := List.append_inj' heq rfl
      cases hcycle
      decide +kernel
    · simp at hnil

end Engine

end GpuFractioning.Metricsd
