import GpuFractioning.Metricsd.SampleWindows

/-!
# The devices of an NVML snapshot

Whatever NVML refuses to answer in a poll, the snapshot files every process
under an index whose UUID it has, and locates no minor number at an index
without one. A poll that cannot count the devices keeps the snapshot before it.
-/

namespace GpuFractioning.Metricsd

open NVML (ProcessUtilizationSample ProcessInfo Return Device Answers)

/-- The index has a UUID. -/
def HasUUID (deviceUUIDs : FiniteMap ℤ String) (index : ℤ) (uuid : String) : Prop :=
  uuid ≠ "" ∧ deviceUUIDs.lookup index = some uuid

/-- Processes and minor numbers are at indices that have a UUID, the processes under it. -/
structure GPUProcessSnapshot.Named (s : GPUProcessSnapshot) : Prop where
  processes : ∀ process ∈ s.processes, HasUUID s.deviceUUIDs process.gpuIndex process.gpuUUID
  minors : ∀ minor index, s.deviceMinorToNVMLIndex.lookup minor = some index →
    ∃ uuid, HasUUID s.deviceUUIDs index uuid

/-- A device does not answer with an empty UUID. -/
def NVML.Device.Identifies (device : Device) : Prop :=
  device.uuid.2.ok = true → device.uuid.1 ≠ ""

instance : DecidablePred NVML.Device.Identifies := fun device =>
  inferInstanceAs (Decidable (device.uuid.2.ok = true → device.uuid.1 ≠ ""))

section Join

variable {P : JoinedMetric → Prop} {joined : Joined} {uuid : String} {index : ℤ}

/-- Every entry of the join has the property. -/
def Joined.All (P : JoinedMetric → Prop) (joined : Joined) : Prop :=
  ∀ key metric, joined.lookup key = some metric → P metric

theorem Joined.All.accumulate {β : Type} {key : β → GpuProcessKey}
    {f : JoinedMetric → β → JoinedMetric} (h : joined.All P) (hf : ∀ metric x, P (f metric x))
    (xs : List β) : Joined.All P (FiniteMap.accumulate key (fun _ => .zero) f xs joined) := by
  induction xs generalizing joined with
  | nil => exact h
  | cons x xs ih =>
    refine ih ?_
    intro k metric hlookup
    rw [FiniteMap.lookup_insert] at hlookup
    split_ifs at hlookup
    · cases hlookup
      exact hf _ x
    · exact h k metric hlookup

theorem Joined.All.collectProcessUtilization (h : joined.All P)
    (hown : ∀ metric : JoinedMetric, metric.gpuIndex = index → metric.gpuUUID = uuid → P metric)
    (lastSeenTimestamp : ℕ) (answer : List ProcessUtilizationSample × Return) :
    (collectProcessUtilization joined uuid index lastSeenTimestamp answer).1.All P := by
  unfold Metricsd.collectProcessUtilization
  split_ifs
  · exact h
  · refine h.accumulate ?_ _
    intro metric sample
    exact hown (joinSample uuid index metric sample) rfl rfl

theorem Joined.All.mergeRunningProcesses (h : joined.All P)
    (hown : ∀ metric : JoinedMetric, metric.gpuIndex = index → metric.gpuUUID = uuid → P metric)
    (answer : List ProcessInfo × Return) :
    (mergeRunningProcesses joined uuid index answer).1.All P := by
  unfold Metricsd.mergeRunningProcesses
  split_ifs
  · exact h
  · refine h.accumulate ?_ _
    intro metric process
    exact hown (joinProcess uuid index metric process) rfl rfl

theorem Joined.All.collectProcessMemory (h : joined.All P)
    (hown : ∀ metric : JoinedMetric, metric.gpuIndex = index → metric.gpuUUID = uuid → P metric)
    (device : Device) : (collectProcessMemory joined uuid index device).1.All P := by
  have hcompute := h.mergeRunningProcesses hown device.computeRunningProcesses
  unfold Metricsd.collectProcessMemory
  split
  · next joined' err heq =>
    rw [heq] at hcompute
    exact hcompute
  · next joined' heq =>
    rw [heq] at hcompute
    have hgraphics := hcompute.mergeRunningProcesses hown device.graphicsRunningProcesses
    split
    · next joined'' err heq' =>
      rw [heq'] at hgraphics
      exact hgraphics
    · next joined'' heq' =>
      rw [heq'] at hgraphics
      exact hgraphics

end Join

section Pass

/-- The processes and the minor numbers that a pass has seen before an index are at indices
that have a UUID. -/
structure Pass.Named (index : ℤ) (pass : Pass) : Prop where
  joined : pass.joined.All fun metric =>
    metric.gpuIndex < index ∧ HasUUID pass.deviceUUIDs metric.gpuIndex metric.gpuUUID
  minors : ∀ minor i, pass.deviceMinorToNVMLIndex.lookup minor = some i →
    i < index ∧ ∃ uuid, HasUUID pass.deviceUUIDs i uuid

theorem Pass.Named.mono {index index' : ℤ} {pass : Pass} (h : pass.Named index)
    (hle : index ≤ index') : pass.Named index' := by
  constructor
  · intro key metric hlookup
    obtain ⟨hlt, hhas⟩ := h.joined key metric hlookup
    exact ⟨by omega, hhas⟩
  · intro minor i hlookup
    obtain ⟨hlt, hhas⟩ := h.minors minor i hlookup
    exact ⟨by omega, hhas⟩

theorem HasUUID.insert {deviceUUIDs : FiniteMap ℤ String} {index i : ℤ} {uuid text : String}
    (h : HasUUID deviceUUIDs i uuid) (hlt : i < index) :
    HasUUID (deviceUUIDs.insert index text) i uuid := by
  refine ⟨h.1, ?_⟩
  rw [FiniteMap.lookup_insert, if_neg (by omega)]
  exact h.2

theorem hasUUID_insert {deviceUUIDs : FiniteMap ℤ String} {index : ℤ} {uuid : String}
    (huuid : uuid ≠ "") : HasUUID (deviceUUIDs.insert index uuid) index uuid := by
  refine ⟨huuid, ?_⟩
  rw [FiniteMap.lookup_insert, if_pos rfl]

theorem deviceUUID_ne {cache cache' : FiniteMap ℤ String} {index : ℤ} {device : Device}
    {uuid : String} (hdevice : device.Identifies)
    (h : deviceUUID cache index device = (.ok uuid, cache')) : uuid ≠ "" := by
  unfold deviceUUID at h
  dsimp only at h
  split_ifs at h with hcached hfailed
  · cases h
    exact hcached
  · cases h
  · cases h
    exact hdevice (by simpa using hfailed)

theorem Pass.Named.collectDevice {index : ℤ} {pass : Pass} (h : pass.Named index)
    {device : Device} (hdevice : device.Identifies) (lastSeenTimestamp : ℕ) :
    (collectDevice lastSeenTimestamp index device pass).Named (index + 1) := by
  have hlater := h.mono (by omega : index ≤ index + 1)
  unfold Metricsd.collectDevice
  split
  · exact ⟨hlater.joined, hlater.minors⟩
  · split
    · exact ⟨hlater.joined, hlater.minors⟩
    · next uuid cache huuid =>
      have hne := deviceUUID_ne hdevice huuid
      constructor
      · refine Joined.All.collectProcessMemory (Joined.All.collectProcessUtilization ?_ ?_ _ _) ?_ _
        · intro key metric hlookup
          obtain ⟨hlt, hhas⟩ := h.joined key metric hlookup
          exact ⟨by omega, hhas.insert hlt⟩
        all_goals
          rintro metric rfl rfl
          exact ⟨by omega, hasUUID_insert hne⟩
      · intro minor i hlookup
        have hcases : pass.deviceMinorToNVMLIndex.lookup minor = some i ∨ i = index := by
          dsimp only at hlookup
          split_ifs at hlookup
          · rw [FiniteMap.lookup_insert] at hlookup
            split_ifs at hlookup
            · exact .inr (Option.some.inj hlookup).symm
            · exact .inl hlookup
          · exact .inl hlookup
        rcases hcases with hold | rfl
        · obtain ⟨hlt, text, hhas⟩ := h.minors minor i hold
          exact ⟨by omega, text, hhas.insert hlt⟩
        · exact ⟨by omega, uuid, hasUUID_insert hne⟩

theorem Pass.Named.collectDevices {devices : List Device}
    (hdevices : ∀ device ∈ devices, device.Identifies) (lastSeenTimestamp : ℕ) {index : ℕ}
    {pass : Pass} (h : pass.Named index) :
    ∃ last, (collectDevices lastSeenTimestamp index devices pass).Named last := by
  induction devices generalizing index pass with
  | nil => exact ⟨index, h⟩
  | cons device devices ih =>
    rw [List.forall_mem_cons] at hdevices
    have hstep := h.collectDevice hdevices.1 lastSeenTimestamp
    exact ih hdevices.2 (by exact_mod_cast hstep)

end Pass

namespace NVMLProcessCollector

/-- The collector after a run of polls. -/
def run (c : NVMLProcessCollector) (polls : List Poll) : NVMLProcessCollector :=
  polls.foldl (fun c poll => (c.collect poll.now poll.nvml).1) c

variable {c : NVMLProcessCollector}

theorem named_collect (hc : c.snapshot.Named) (now : ℤ) {nvml : Answers}
    (hdevices : ∀ device ∈ nvml.devices, device.Identifies) :
    (c.collect now nvml).1.snapshot.Named := by
  unfold collect
  split_ifs
  · exact hc
  · have hstart : (⟨∅, [], c.deviceUUIDs, ∅, ∅, ∅, []⟩ : Pass).Named (0 : ℕ) := by
      constructor
      · intro key metric hlookup
        cases hlookup
      · intro minor i hlookup
        cases hlookup
    obtain ⟨last, hpass⟩ := hstart.collectDevices hdevices (c.lastSeenTimestamp now)
    constructor
    · intro process hprocess
      obtain ⟨⟨key, metric⟩, hentry, rfl⟩ := List.mem_map.mp hprocess
      exact (hpass.joined key metric (FiniteMap.mem_pairs.mp hentry)).2
    · intro minor index hlookup
      exact (hpass.minors minor index hlookup).2

/-- Every snapshot that a collector ever shows names its devices. -/
theorem named_run {init : Return} {interval : ℤ}
    (hc : newNVMLProcessCollector init interval = .ok c) {polls : List Poll}
    (hdevices : ∀ poll ∈ polls, ∀ device ∈ poll.nvml.devices, device.Identifies) :
    (c.run polls).snapshot.Named := by
  have hnew : c.snapshot.Named := by
    unfold newNVMLProcessCollector at hc
    split_ifs at hc
    cases hc
    constructor
    · intro process hprocess
      cases hprocess
    · intro minor index hlookup
      cases hlookup
  clear hc
  induction polls generalizing c with
  | nil => exact hnew
  | cons poll polls ih =>
    rw [List.forall_mem_cons] at hdevices
    exact ih hdevices.2 (named_collect hnew poll.now hdevices.1)

end NVMLProcessCollector

end GpuFractioning.Metricsd
