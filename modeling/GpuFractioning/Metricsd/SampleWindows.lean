import GpuFractioning.Metricsd.NVMLCollector

/-!
# Samples over several polls

Each poll of the NVML collector accepts the samples stamped after the clock
reading of the poll before it. Between two polls the cut-off is the reading
taken before NVML is asked, so the windows overlap for a sample that is stamped
in between.
-/

namespace GpuFractioning.Metricsd

open NVML (ProcessUtilizationSample Device Answers sampleDevice)

/-- One call of `collect`. -/
structure Poll where
  now : ℤ
  nvml : Answers

namespace Poll

/-- `time.Time.UnixMicro` is defined for the clock reading. -/
def Representable (p : Poll) : Prop := p.now / 1000 < 2 ^ 63

/-- No sample is stamped after the clock reading of the poll that returns it. -/
def StampedInTime (p : Poll) : Prop :=
  ∀ device ∈ p.nvml.devices, ∀ sample ∈ device.processUtilization.1,
    (sample.timeStamp : ℤ) ≤ p.now / 1000

/-- The samples of each device are asked for after the clock is read, and none is stamped after
that. -/
def Admissible (p : Poll) (queriedAt : ℕ → ℤ) : Prop :=
  ∀ index device, p.nvml.devices[index]? = some device →
    p.now ≤ queriedAt index ∧
      ∀ sample ∈ device.processUtilization.1, (sample.timeStamp : ℤ) ≤ queriedAt index / 1000

end Poll

namespace NVMLProcessCollector

/-- The samples each of the polls accepts. -/
def acceptedBy (c : NVMLProcessCollector) :
    List Poll → List (List (String × ProcessUtilizationSample))
  | [] => []
  | p :: polls => (c.collect p.now p.nvml).2 :: (c.collect p.now p.nvml).1.acceptedBy polls

theorem unixMicro_of_nonneg {t : ℤ} (hpos : 0 ≤ t) (hsmall : t / 1000 < 2 ^ 63) :
    (unixMicro t : ℤ) = t / 1000 := by
  unfold unixMicro
  omega

theorem lastSeenTimestamp_eq {c : NVMLProcessCollector} (hpos : 0 ≤ c.lastPollTime)
    (hsmall : c.lastPollTime / 1000 < 2 ^ 63) (now : ℤ) :
    (c.lastSeenTimestamp now : ℤ) = c.lastPollTime / 1000 := by
  have hset : c.lastPollTime ≠ zeroTime := by
    unfold zeroTime
    omega
  rw [lastSeenTimestamp, if_neg hset]
  exact unixMicro_of_nonneg hpos hsmall

/-- Nothing stamped up to the last clock reading is accepted any more, in any number of polls. -/
theorem lt_timeStamp_of_acceptedBy {polls : List Poll} {c : NVMLProcessCollector}
    (hpos : 0 ≤ c.lastPollTime) (hsmall : c.lastPollTime / 1000 < 2 ^ 63)
    (hrange : ∀ p ∈ polls, p.Representable) (hlater : ∀ p ∈ polls, c.lastPollTime ≤ p.now)
    (hclock : polls.Pairwise (·.now ≤ ·.now))
    {accepted : List (String × ProcessUtilizationSample)}
    (haccepted : accepted ∈ c.acceptedBy polls) {entry : String × ProcessUtilizationSample}
    (hentry : entry ∈ accepted) :
    c.lastPollTime / 1000 < entry.2.timeStamp := by
  induction polls generalizing c with
  | nil => simp [acceptedBy] at haccepted
  | cons p polls ih =>
    rw [List.pairwise_cons] at hclock
    rw [List.forall_mem_cons] at hrange hlater
    rw [acceptedBy, List.mem_cons] at haccepted
    rcases haccepted with rfl | hrest
    · have hafter := (collect_accepted hentry).2
      have hcutoff := lastSeenTimestamp_eq hpos hsmall p.now
      omega
    · have hstamp : p.now / 1000 < (entry.2.timeStamp : ℤ) := by
        have hnext := ih (c := (c.collect p.now p.nvml).1)
        simp only [lastPollTime_collect] at hnext
        exact hnext (hpos.trans hlater.1) hrange.1 hrange.2 hclock.1 hclock.2 hrest
      have hread := hlater.1
      omega

/-- While no sample is stamped after the clock reading of the poll that returns it, no two polls
of a run accept the same sample. -/
theorem accepted_at_most_once (c : NVMLProcessCollector) {polls : List Poll}
    (hclock : polls.Pairwise (·.now ≤ ·.now)) (hrange : ∀ p ∈ polls, p.Representable)
    (hstamps : ∀ p ∈ polls, p.StampedInTime) :
    (c.acceptedBy polls).Pairwise List.Disjoint := by
  induction polls generalizing c with
  | nil => exact .nil
  | cons p polls ih =>
    rw [List.pairwise_cons] at hclock
    rw [List.forall_mem_cons] at hrange hstamps
    rw [acceptedBy, List.pairwise_cons]
    refine ⟨?_, ih _ hclock.2 hrange.2 hstamps.2⟩
    intro later hlater entry hentry hagain
    obtain ⟨⟨device, hdevice, hsample⟩, -⟩ := collect_accepted hentry
    have hstamp := hstamps.1 device hdevice entry.2 hsample
    have hpos : 0 ≤ p.now := by omega
    have hnext : ((c.collect p.now p.nvml).1.lastPollTime) / 1000 < (entry.2.timeStamp : ℤ) := by
      apply lt_timeStamp_of_acceptedBy _ _ hrange.2 _ hclock.2 hlater hagain
      · rwa [lastPollTime_collect]
      · rw [lastPollTime_collect]
        exact hrange.1
      · rw [lastPollTime_collect]
        exact hclock.1
    rw [lastPollTime_collect] at hnext
    omega

/-- One device that holds one sample of process 7, stamped at this microsecond. -/
def samplePoll (now : ℤ) (timeStamp : ℕ) : Poll where
  now := now
  nvml := ⟨⟨.success, ""⟩, [sampleDevice [⟨7, timeStamp, 50, 0, 0, 0⟩] [] []]⟩

/-- A sample stamped at the clock reading itself is accepted by the first poll only. -/
theorem accepted_at_most_once_at_reading :
    let polls := [samplePoll (100 * 10 ^ 9) 100000000, samplePoll (105 * 10 ^ 9) 100000000]
    polls.Pairwise (·.now ≤ ·.now) ∧ (∀ p ∈ polls, p.Representable) ∧
      (∀ p ∈ polls, p.StampedInTime) ∧
      (sampleCollector.acceptedBy polls).Pairwise List.Disjoint := by
  have hclock : [samplePoll (100 * 10 ^ 9) 100000000, samplePoll (105 * 10 ^ 9) 100000000].Pairwise
      (·.now ≤ ·.now) := by
    simp [samplePoll]
  have hrange : ∀ p ∈ [samplePoll (100 * 10 ^ 9) 100000000, samplePoll (105 * 10 ^ 9) 100000000],
      p.Representable := by
    simp [samplePoll, Poll.Representable]
  have hstamps : ∀ p ∈ [samplePoll (100 * 10 ^ 9) 100000000, samplePoll (105 * 10 ^ 9) 100000000],
      p.StampedInTime := by
    simp [samplePoll, sampleDevice, Poll.StampedInTime]
  exact ⟨hclock, hrange, hstamps, accepted_at_most_once _ hclock hrange hstamps⟩

theorem samplePoll_admissible {now queriedAt : ℤ} {timeStamp : ℕ} (hafter : now ≤ queriedAt)
    (hstamp : (timeStamp : ℤ) ≤ queriedAt / 1000) :
    (samplePoll now timeStamp).Admissible fun _ => queriedAt := by
  intro index device hdevice
  cases index with
  | zero =>
    cases hdevice
    refine ⟨hafter, fun sample hsample => ?_⟩
    rw [List.mem_singleton.mp hsample]
    exact hstamp
  | succ index => simp [samplePoll] at hdevice

/-- A sample stamped five microseconds after the clock is read, and returned ten microseconds after
it, is accepted by this poll and, while NVML still holds it, by the next. -/
theorem sample_accepted_twice :
    let first := samplePoll (100 * 10 ^ 9) 100000005
    let second := samplePoll (105 * 10 ^ 9) 100000005
    first.now ≤ second.now ∧ first.Admissible (fun _ => 100 * 10 ^ 9 + 10 * 10 ^ 3) ∧
      second.Admissible (fun _ => 105 * 10 ^ 9) ∧
      sampleCollector.acceptedBy [first, second] =
        [[("GPU-0", ⟨7, 100000005, 50, 0, 0, 0⟩)], [("GPU-0", ⟨7, 100000005, 50, 0, 0, 0⟩)]] := by
  refine ⟨by simp [samplePoll], ?_, ?_, by decide⟩
  · exact samplePoll_admissible (by omega) (by omega)
  · exact samplePoll_admissible (by omega) (by omega)

end NVMLProcessCollector

end GpuFractioning.Metricsd
