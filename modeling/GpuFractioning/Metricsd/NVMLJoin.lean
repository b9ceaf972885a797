import GpuFractioning.Metricsd.NVMLCollector

/-!
# What the NVML join holds

The three loops that write into the join, for all devices of a poll, are one
loop over the poll's readings. From it: one entry for each process of a device,
its memory the largest reading and its utilization the last one.
-/

namespace GpuFractioning.Metricsd

open NVML (Return ProcessUtilizationSample ProcessInfo Device Answers sampleDevice)

section Readings

/-- A sample or a listed process, with the device it was read from. -/
structure Reading where
  uuid : String
  index : ℤ
  source : ProcessUtilizationSample ⊕ ProcessInfo

namespace Reading

def pid (r : Reading) : ℕ := r.source.elim (·.pid) (·.pid)

def key (r : Reading) : GpuProcessKey := ⟨r.uuid, r.pid⟩

/-- What the reading writes over the entry of its process. -/
def write (metric : JoinedMetric) (r : Reading) : JoinedMetric :=
  match r.source with
  | .inl sample => joinSample r.uuid r.index metric sample
  | .inr process => joinProcess r.uuid r.index metric process

def utilization (r : Reading) : Option ℕ :=
  r.source.elim (fun sample => some sample.smUtil) fun _ => none

/-- A memory reading that is available. -/
def memory (r : Reading) : Option ℕ :=
  r.source.elim (fun _ => none) fun process =>
    if process.usedGpuMemory ≠ nvmlValueNotAvailable then some process.usedGpuMemory else none

theorem write_ids (metric : JoinedMetric) (r : Reading) :
    (r.write metric).pid = r.pid ∧ (r.write metric).gpuUUID = r.uuid ∧
      (r.write metric).gpuIndex = r.index := by
  obtain ⟨uuid, index, sample | process⟩ := r <;> exact ⟨rfl, rfl, rfl⟩

theorem write_utilization (metric : JoinedMetric) (r : Reading) :
    (r.write metric).smUtilizationPercent = r.utilization.getD metric.smUtilizationPercent := by
  obtain ⟨uuid, index, sample | process⟩ := r <;> rfl

theorem write_memory (metric : JoinedMetric) (r : Reading) :
    (r.write metric).usedGPUMemoryBytes = max metric.usedGPUMemoryBytes (r.memory.getD 0) := by
  obtain ⟨uuid, index, sample | process⟩ := r
  · exact (max_eq_left (Nat.zero_le _)).symm
  · by_cases hmissing : process.usedGpuMemory = nvmlValueNotAvailable
    · simp [write, joinProcess, memory, hmissing]
    · simp only [write, joinProcess, memory, Sum.elim_inr, ne_eq, hmissing, not_false_eq_true,
        true_and, if_true, Option.getD_some]
      split_ifs with hmore
      · omega
      · omega

end Reading

theorem foldl_write_utilization (rs : List Reading) (metric : JoinedMetric) :
    (rs.foldl Reading.write metric).smUtilizationPercent =
      ((rs.filterMap Reading.utilization).getLast?).getD metric.smUtilizationPercent := by
  induction rs generalizing metric with
  | nil => rfl
  | cons r rs ih =>
    rw [List.foldl_cons, ih, Reading.write_utilization]
    cases hread : r.utilization with
    | none => rw [List.filterMap_cons_none hread, Option.getD_none]
    | some util =>
      rw [List.filterMap_cons_some hread, List.getLast?_cons, Option.getD_some, Option.getD_some]

theorem foldl_write_memory (rs : List Reading) (metric : JoinedMetric) :
    (rs.foldl Reading.write metric).usedGPUMemoryBytes =
      max metric.usedGPUMemoryBytes ((rs.filterMap Reading.memory).foldr max 0) := by
  induction rs generalizing metric with
  | nil => exact (max_eq_left (Nat.zero_le _)).symm
  | cons r rs ih =>
    rw [List.foldl_cons, ih, Reading.write_memory, max_assoc]
    cases hread : r.memory with
    | none => rw [List.filterMap_cons_none hread, Option.getD_none, Nat.zero_max]
    | some used => rw [List.filterMap_cons_some hread, Option.getD_some, List.foldr_cons]

theorem foldl_write_key {rs : List Reading} (hne : rs ≠ []) {key : GpuProcessKey}
    (hall : ∀ r ∈ rs, r.key = key) (metric : JoinedMetric) :
    (rs.foldl Reading.write metric).gpuUUID = key.gpuUUID ∧
      (rs.foldl Reading.write metric).pid = key.pid := by
  have hkey := hall _ (List.getLast_mem hne)
  rw [← List.dropLast_append_getLast hne, List.foldl_append, List.foldl_cons, List.foldl_nil]
  obtain ⟨hpid, huuid, -⟩ := Reading.write_ids (rs.dropLast.foldl Reading.write metric)
    (rs.getLast hne)
  exact ⟨huuid.trans (congrArg GpuProcessKey.gpuUUID hkey),
    hpid.trans (congrArg GpuProcessKey.pid hkey)⟩

theorem foldl_write_index {rs : List Reading} (hne : rs ≠ []) {index : ℤ}
    (hall : ∀ r ∈ rs, r.index = index) (metric : JoinedMetric) :
    (rs.foldl Reading.write metric).gpuIndex = index := by
  have hindex := hall _ (List.getLast_mem hne)
  rw [← List.dropLast_append_getLast hne, List.foldl_append, List.foldl_cons, List.foldl_nil]
  obtain ⟨-, -, hwritten⟩ := Reading.write_ids (rs.dropLast.foldl Reading.write metric)
    (rs.getLast hne)
  exact hwritten.trans hindex

end Readings

section Poll

/-- The UUID the collector has for the device at an index. -/
def uuidAt (cache : FiniteMap ℤ String) (index : ℤ) (device : Device) : String :=
  if (cache.lookup index).getD "" ≠ "" then (cache.lookup index).getD "" else device.uuid.1

namespace NVML.Device

variable (device : Device) (lastSeenTimestamp : ℕ)

/-- NVML answers everything that is asked about the processes of the device. -/
structure Answered : Prop where
  handle : device.handle.ok = true
  uuid : device.uuid.2.ok = true
  utilization : device.processUtilization.2.tolerated = true
  compute : device.computeRunningProcesses.2.tolerated = true
  graphics : device.graphicsRunningProcesses.2.tolerated = true

def accepted : List ProcessUtilizationSample :=
  device.processUtilization.1.filter fun sample =>
    !shouldSkipProcessUtilizationSample sample lastSeenTimestamp

/-- The listed processes of both kinds. -/
def processes : List ProcessInfo :=
  device.computeRunningProcesses.1 ++ device.graphicsRunningProcesses.1

/-- The process is in an accepted sample or in a process list. -/
def Sees (pid : ℕ) : Prop :=
  (∃ sample ∈ device.accepted lastSeenTimestamp, sample.pid = pid) ∨
    ∃ process ∈ device.processes, process.pid = pid

/-- The largest of the available memory readings of a process, zero without any. -/
def memoryOf (pid : ℕ) : ℕ :=
  ((device.processes.filter fun process =>
    process.pid = pid ∧ process.usedGpuMemory ≠ nvmlValueNotAvailable).map
      (·.usedGpuMemory)).foldr max 0

/-- The SM utilization of the accepted sample of a process that is listed last, zero without
any. -/
def utilizationOf (pid : ℕ) : ℕ :=
  ((((device.accepted lastSeenTimestamp).filter (·.pid = pid)).map (·.smUtil)).getLast?).getD 0

def readings (uuid : String) (index : ℤ) : List Reading :=
  ((device.accepted lastSeenTimestamp).map fun sample => ⟨uuid, index, .inl sample⟩) ++
    device.processes.map fun process => ⟨uuid, index, .inr process⟩

/-- The readings of one process. -/
def readingsOf (uuid : String) (index : ℤ) (pid : ℕ) : List Reading :=
  (device.readings lastSeenTimestamp uuid index).filter (·.key = ⟨uuid, pid⟩)

end NVML.Device

def joinReadings (rs : List Reading) (joined : Joined) : Joined :=
  joined.accumulate Reading.key (fun _ => .zero) Reading.write rs

theorem joinReadings_append (rs rs' : List Reading) (joined : Joined) :
    joinReadings (rs ++ rs') joined = joinReadings rs' (joinReadings rs joined) :=
  List.foldl_append

variable {lastSeenTimestamp : ℕ}

theorem collectProcessUtilization_eq {device : Device} (h : device.Answered) (joined : Joined)
    (uuid : String) (index : ℤ) :
    collectProcessUtilization joined uuid index lastSeenTimestamp device.processUtilization =
      (joinReadings ((device.accepted lastSeenTimestamp).map fun sample =>
        ⟨uuid, index, .inl sample⟩) joined, device.accepted lastSeenTimestamp, none) := by
  simp only [collectProcessUtilization, h.utilization, Bool.not_true, Bool.false_eq_true, if_false,
    joinReadings, FiniteMap.accumulate, List.foldl_map]
  rfl

theorem mergeRunningProcesses_eq {answer : List ProcessInfo × Return}
    (h : answer.2.tolerated = true) (joined : Joined) (uuid : String) (index : ℤ) :
    mergeRunningProcesses joined uuid index answer =
      (joinReadings (answer.1.map fun process => ⟨uuid, index, .inr process⟩) joined, none) := by
  simp only [mergeRunningProcesses, h, Bool.not_true, Bool.false_eq_true, if_false, joinReadings,
    FiniteMap.accumulate, List.foldl_map]
  rfl

theorem collectProcessMemory_eq {device : Device} (h : device.Answered) (joined : Joined)
    (uuid : String) (index : ℤ) :
    collectProcessMemory joined uuid index device =
      (joinReadings (device.processes.map fun process => ⟨uuid, index, .inr process⟩) joined,
        none) := by
  simp only [collectProcessMemory, mergeRunningProcesses_eq h.compute,
    mergeRunningProcesses_eq h.graphics, NVML.Device.processes, List.map_append,
    joinReadings_append]

theorem deviceUUID_eq {device : Device} (h : device.Answered) (cache : FiniteMap ℤ String)
    (index : ℤ) :
    ∃ cache', deviceUUID cache index device = (.ok (uuidAt cache index device), cache') ∧
      ∀ other, other ≠ index → cache'.lookup other = cache.lookup other := by
  unfold deviceUUID uuidAt
  dsimp only
  split_ifs with hcached hfailed
  · exact ⟨cache, rfl, fun _ _ => rfl⟩
  · simp [h.uuid] at hfailed
  · refine ⟨_, rfl, fun other hother => ?_⟩
    rw [FiniteMap.lookup_insert, if_neg hother]

variable (lastSeenTimestamp) in
theorem collectDevice_joined {device : Device} (h : device.Answered) (index : ℤ) (pass : Pass) :
    (collectDevice lastSeenTimestamp index device pass).joined =
        joinReadings (device.readings lastSeenTimestamp (uuidAt pass.cache index device) index)
          pass.joined ∧
      ∀ other, other ≠ index →
        (collectDevice lastSeenTimestamp index device pass).cache.lookup other =
          pass.cache.lookup other := by
  obtain ⟨cache', huuid, hothers⟩ := deviceUUID_eq h pass.cache index
  simp only [collectDevice, h.handle, Bool.not_true, Bool.false_eq_true, if_false, huuid,
    collectProcessUtilization_eq h, collectProcessMemory_eq h, NVML.Device.readings,
    joinReadings_append]
  exact ⟨trivial, hothers⟩

/-- The readings of the devices from an index on. -/
def readingsFrom (cache : FiniteMap ℤ String) (lastSeenTimestamp : ℕ) :
    ℕ → List Device → List Reading
  | _, [] => []
  | index, device :: devices =>
    device.readings lastSeenTimestamp (uuidAt cache index device) index ++
      readingsFrom cache lastSeenTimestamp (index + 1) devices

/-- The loop joins the readings of all devices; an index is visited once, so the cache it finds
there is the one the poll began with. -/
theorem collectDevices_joined {devices : List Device} (h : ∀ device ∈ devices, device.Answered)
    {cache : FiniteMap ℤ String} {start : ℕ} {pass : Pass}
    (hcache : ∀ index : ℕ, start ≤ index →
      pass.cache.lookup (index : ℤ) = cache.lookup (index : ℤ)) :
    (collectDevices lastSeenTimestamp start devices pass).joined =
      joinReadings (readingsFrom cache lastSeenTimestamp start devices) pass.joined := by
  induction devices generalizing start pass with
  | nil => rfl
  | cons device devices ih =>
    rw [List.forall_mem_cons] at h
    obtain ⟨hjoined, hothers⟩ := collectDevice_joined lastSeenTimestamp h.1 start pass
    have hsame : uuidAt pass.cache start device = uuidAt cache start device := by
      unfold uuidAt
      rw [hcache start le_rfl]
    rw [collectDevices, ih h.2, hjoined, hsame, readingsFrom, joinReadings_append]
    intro index hindex
    rw [hothers index (by omega), hcache index (by omega)]

theorem lookup_joinReadings (rs : List Reading) (key : GpuProcessKey) :
    (joinReadings rs ∅).lookup key =
      if rs.filter (·.key = key) = [] then none
      else some ((rs.filter (·.key = key)).foldl Reading.write .zero) := by
  rw [joinReadings, FiniteMap.lookup_accumulate]
  rfl

section OneDevice

variable (device : Device) (uuid : String) (index : ℤ) (pid : ℕ)

theorem filter_key_map {α : Type} (source : α → ProcessUtilizationSample ⊕ ProcessInfo)
    (xs : List α) :
    (xs.map fun x => (⟨uuid, index, source x⟩ : Reading)).filter (·.key = ⟨uuid, pid⟩) =
      (xs.filter fun x => (source x).elim (·.pid) (·.pid) = pid).map fun x =>
        ⟨uuid, index, source x⟩ := by
  have hkeys : xs.filter ((fun r : Reading => r.key = ⟨uuid, pid⟩) ∘ fun x =>
      ⟨uuid, index, source x⟩) = xs.filter fun x => (source x).elim (·.pid) (·.pid) = pid := by
    apply List.filter_congr
    intro x hx
    exact decide_eq_decide.mpr (by simp [Reading.key, Reading.pid])
  rw [List.filter_map, hkeys]

variable (lastSeenTimestamp) in
theorem readingsOf_eq :
    device.readingsOf lastSeenTimestamp uuid index pid =
      (((device.accepted lastSeenTimestamp).filter (·.pid = pid)).map fun sample =>
        ⟨uuid, index, .inl sample⟩) ++
      (device.processes.filter (·.pid = pid)).map fun process => ⟨uuid, index, .inr process⟩ := by
  rw [NVML.Device.readingsOf, NVML.Device.readings, List.filter_append, filter_key_map,
    filter_key_map]
  rfl

theorem filter_readings_of_ne {other : String} (hne : uuid ≠ other) :
    (device.readings lastSeenTimestamp uuid index).filter (·.key = ⟨other, pid⟩) = [] := by
  simp [NVML.Device.readings, Reading.key, hne]

theorem sees_iff :
    device.Sees lastSeenTimestamp pid ↔
      device.readingsOf lastSeenTimestamp uuid index pid ≠ [] := by
  simp only [readingsOf_eq, NVML.Device.Sees, ne_eq, List.append_eq_nil_iff, List.map_eq_nil_iff,
    List.filter_eq_nil_iff, decide_eq_true_eq, not_and_or, not_forall, not_not, exists_prop]

theorem ids_of_mem_readings {r : Reading}
    (h : r ∈ device.readings lastSeenTimestamp uuid index) : r.uuid = uuid ∧ r.index = index := by
  rcases List.mem_append.mp h with hsample | hprocess
  · obtain ⟨sample, -, rfl⟩ := List.mem_map.mp hsample
    exact ⟨rfl, rfl⟩
  · obtain ⟨process, -, rfl⟩ := List.mem_map.mp hprocess
    exact ⟨rfl, rfl⟩

variable (lastSeenTimestamp) in
theorem filterMap_utilization_readingsOf :
    (device.readingsOf lastSeenTimestamp uuid index pid).filterMap Reading.utilization =
      ((device.accepted lastSeenTimestamp).filter (·.pid = pid)).map (·.smUtil) := by
  rw [readingsOf_eq, List.filterMap_append, List.filterMap_map, List.filterMap_map]
  have hnone : (device.processes.filter (·.pid = pid)).filterMap
      (Reading.utilization ∘ fun process => ⟨uuid, index, .inr process⟩) = [] := by
    rw [List.filterMap_eq_nil_iff]
    intro process hprocess
    rfl
  rw [hnone, List.append_nil]
  exact congrFun List.filterMap_eq_map _

variable (lastSeenTimestamp) in
theorem filterMap_memory_readingsOf :
    (device.readingsOf lastSeenTimestamp uuid index pid).filterMap Reading.memory =
      (device.processes.filter fun process =>
        process.pid = pid ∧ process.usedGpuMemory ≠ nvmlValueNotAvailable).map
          (·.usedGpuMemory) := by
  rw [readingsOf_eq, List.filterMap_append, List.filterMap_map, List.filterMap_map]
  have hnone : ((device.accepted lastSeenTimestamp).filter (·.pid = pid)).filterMap
      (Reading.memory ∘ fun sample => ⟨uuid, index, .inl sample⟩) = [] := by
    rw [List.filterMap_eq_nil_iff]
    intro sample hsample
    rfl
  rw [hnone, List.nil_append]
  induction device.processes with
  | nil => rfl
  | cons process processes ih =>
    by_cases hpid : process.pid = pid
    · by_cases hmissing : process.usedGpuMemory = nvmlValueNotAvailable
      · simpa [hpid, hmissing, Reading.memory] using ih
      · simpa [hpid, hmissing, Reading.memory] using ih
    · simpa [hpid] using ih

theorem foldl_readingsOf (hsees : device.Sees lastSeenTimestamp pid) :
    ((device.readingsOf lastSeenTimestamp uuid index pid).foldl
        Reading.write .zero).toGPUProcessMetric =
      ⟨pid, uuid, index, device.memoryOf pid, device.utilizationOf lastSeenTimestamp pid⟩ := by
  have hne := (sees_iff device uuid index pid).mp hsees
  have hkeys : ∀ r ∈ device.readingsOf lastSeenTimestamp uuid index pid, r.key = ⟨uuid, pid⟩ := by
    intro r hr
    exact of_decide_eq_true (List.mem_filter.mp hr).2
  have hindices : ∀ r ∈ device.readingsOf lastSeenTimestamp uuid index pid, r.index = index := by
    intro r hr
    exact (ids_of_mem_readings device uuid index (List.mem_filter.mp hr).1).2
  have hmemory := filterMap_memory_readingsOf lastSeenTimestamp device uuid index pid
  have hutilization := filterMap_utilization_readingsOf lastSeenTimestamp device uuid index pid
  generalize device.readingsOf lastSeenTimestamp uuid index pid = rs at *
  obtain ⟨huuid, hpid⟩ := foldl_write_key hne hkeys .zero
  have hfields : (rs.foldl Reading.write .zero).toGPUProcessMetric =
    ⟨(rs.foldl Reading.write .zero).pid, (rs.foldl Reading.write .zero).gpuUUID,
      (rs.foldl Reading.write .zero).gpuIndex, (rs.foldl Reading.write .zero).usedGPUMemoryBytes,
      (rs.foldl Reading.write .zero).smUtilizationPercent⟩ := rfl
  rw [hfields, hpid, huuid, foldl_write_index hne hindices, foldl_write_memory,
    foldl_write_utilization, hmemory, hutilization]
  simp [JoinedMetric.zero, NVML.Device.memoryOf, NVML.Device.utilizationOf]

end OneDevice

section AllDevices

variable {cache : FiniteMap ℤ String} {devices : List Device} {start : ℕ}

theorem mem_readingsFrom {r : Reading}
    (h : r ∈ readingsFrom cache lastSeenTimestamp start devices) :
    ∃ (i : ℕ) (device : Device), devices[i]? = some device ∧
      r ∈ device.readings lastSeenTimestamp (uuidAt cache (start + i : ℕ) device)
        (start + i : ℕ) := by
  induction devices generalizing start with
  | nil => simp [readingsFrom] at h
  | cons device devices ih =>
    rcases List.mem_append.mp h with hfirst | hrest
    · exact ⟨0, device, rfl, hfirst⟩
    · obtain ⟨i, other, hother, hmem⟩ := ih hrest
      refine ⟨i + 1, other, List.getElem?_cons_succ.trans hother, ?_⟩
      rwa [Nat.add_right_comm] at hmem

theorem filter_readingsFrom {i : ℕ} {device : Device} (hdevice : devices[i]? = some device)
    (hdistinct : ∀ j other, devices[j]? = some other →
      uuidAt cache (start + j : ℕ) other = uuidAt cache (start + i : ℕ) device → j = i) (pid : ℕ) :
    (readingsFrom cache lastSeenTimestamp start devices).filter
        (·.key = ⟨uuidAt cache (start + i : ℕ) device, pid⟩) =
      device.readingsOf lastSeenTimestamp (uuidAt cache (start + i : ℕ) device) (start + i : ℕ)
        pid := by
  induction devices generalizing start i with
  | nil => simp at hdevice
  | cons first devices ih =>
    rw [readingsFrom, List.filter_append]
    cases i with
    | zero =>
      cases hdevice
      have hrest : (readingsFrom cache lastSeenTimestamp (start + 1) devices).filter
          (·.key = ⟨uuidAt cache (start + 0 : ℕ) device, pid⟩) = [] := by
        rw [List.filter_eq_nil_iff]
        intro r hr hkey
        obtain ⟨j, other, hother, hmem⟩ := mem_readingsFrom hr
        have huuid := (ids_of_mem_readings other _ _ hmem).1
        have hkey' : r.uuid = uuidAt cache (start + 0 : ℕ) device :=
          congrArg GpuProcessKey.gpuUUID (of_decide_eq_true hkey)
        rw [huuid, Nat.add_right_comm] at hkey'
        have hsame := hdistinct (j + 1) other (List.getElem?_cons_succ.trans hother) hkey'
        omega
      rw [hrest, List.append_nil]
      rfl
    | succ i =>
      have hne : uuidAt cache (start : ℕ) first ≠ uuidAt cache (start + (i + 1) : ℕ) device := by
        intro hsame
        have hzero := hdistinct 0 first rfl hsame
        omega
      have hshift : start + (i + 1) = start + 1 + i := by omega
      rw [filter_readings_of_ne _ _ _ _ hne, List.nil_append, hshift]
      apply ih hdevice
      intro j other hother hsame
      have hsucc : start + 1 + j = start + (j + 1) := by omega
      rw [hsucc, ← hshift] at hsame
      have hindex := hdistinct (j + 1) other (List.getElem?_cons_succ.trans hother) hsame
      omega

end AllDevices

section Snapshot

namespace NVMLProcessCollector

variable {c : NVMLProcessCollector} {now : ℤ} {nvml : Answers}

theorem processes_collect (hcount : nvml.deviceGetCount.ok = true)
    (hanswered : ∀ device ∈ nvml.devices, device.Answered) :
    (c.collect now nvml).1.snapshot.processes =
      (joinReadings (readingsFrom c.deviceUUIDs (c.lastSeenTimestamp now) 0 nvml.devices)
        ∅).pairs.map (·.2.toGPUProcessMetric) := by
  simp only [collect, hcount, Bool.not_true, Bool.false_eq_true, if_false]
  rw [collectDevices_joined hanswered fun _ _ => rfl]

theorem key_of_mem_joinReadings {rs : List Reading} {key : GpuProcessKey} {metric : JoinedMetric}
    (h : (key, metric) ∈ (joinReadings rs ∅).pairs) :
    (⟨metric.gpuUUID, metric.pid⟩ : GpuProcessKey) = key ∧ ∃ r ∈ rs, r.key = key := by
  have hlookup := FiniteMap.mem_pairs.mp h
  rw [lookup_joinReadings] at hlookup
  split_ifs at hlookup with hnone
  cases hlookup
  have hkeys : ∀ r ∈ rs.filter (·.key = key), r.key = key := by
    intro r hr
    exact of_decide_eq_true (List.mem_filter.mp hr).2
  obtain ⟨huuid, hpid⟩ := foldl_write_key hnone hkeys .zero
  refine ⟨by rw [huuid, hpid], ?_⟩
  obtain ⟨r, hr⟩ := List.exists_mem_of_ne_nil _ hnone
  exact ⟨r, (List.mem_filter.mp hr).1, hkeys r hr⟩

theorem filter_joinReadings (rs : List Reading) (uuid : String) (pid : ℕ) :
    ((joinReadings rs ∅).pairs.map (·.2.toGPUProcessMetric)).filter
        (fun metric => metric.gpuUUID = uuid ∧ metric.pid = pid) =
      (((joinReadings rs ∅).lookup ⟨uuid, pid⟩).map (·.toGPUProcessMetric)).toList := by
  have hfiled : (joinReadings rs ∅).pairs.filter
      ((fun metric : GPUProcessMetric => decide (metric.gpuUUID = uuid ∧ metric.pid = pid)) ∘
        fun entry => entry.2.toGPUProcessMetric) =
      (joinReadings rs ∅).pairs.filter (·.1 = ⟨uuid, pid⟩) := by
    apply List.filter_congr
    rintro ⟨key, metric⟩ hentry
    obtain ⟨rfl, -⟩ := key_of_mem_joinReadings hentry
    exact decide_eq_decide.mpr (by rw [GpuProcessKey.mk.injEq])
  rw [List.filter_map, hfiled, FiniteMap.filter_pairs_key]
  cases (joinReadings rs ∅).lookup ⟨uuid, pid⟩ <;> rfl

/-- For devices with distinct UUIDs: every entry is of a process that a device sees, and every such
process has one entry, with the largest available memory reading and the utilization of the
accepted sample that is listed last. -/
theorem snapshot_collect (hcount : nvml.deviceGetCount.ok = true)
    (hanswered : ∀ device ∈ nvml.devices, device.Answered)
    (hdistinct : ∀ (i j : ℕ) (device other : Device), nvml.devices[i]? = some device →
      nvml.devices[j]? = some other →
      uuidAt c.deviceUUIDs j other = uuidAt c.deviceUUIDs i device → j = i) :
    (∀ metric ∈ (c.collect now nvml).1.snapshot.processes,
      ∃ (i : ℕ) (device : Device), nvml.devices[i]? = some device ∧
        metric.gpuUUID = uuidAt c.deviceUUIDs i device ∧
        device.Sees (c.lastSeenTimestamp now) metric.pid) ∧
    ∀ (i : ℕ) (device : Device) (pid : ℕ), nvml.devices[i]? = some device →
      device.Sees (c.lastSeenTimestamp now) pid →
      (c.collect now nvml).1.snapshot.processes.filter (fun metric =>
          metric.gpuUUID = uuidAt c.deviceUUIDs i device ∧ metric.pid = pid) =
        [⟨pid, uuidAt c.deviceUUIDs i device, i, device.memoryOf pid,
          device.utilizationOf (c.lastSeenTimestamp now) pid⟩] := by
  rw [processes_collect hcount hanswered]
  constructor
  · intro metric hmetric
    obtain ⟨⟨key, joined⟩, hentry, rfl⟩ := List.mem_map.mp hmetric
    obtain ⟨rfl, r, hr, hkey⟩ := key_of_mem_joinReadings hentry
    obtain ⟨i, device, hdevice, hmem⟩ := mem_readingsFrom hr
    rw [Nat.zero_add] at hmem
    have huuid := (ids_of_mem_readings device _ _ hmem).1
    have hname : joined.gpuUUID = uuidAt c.deviceUUIDs i device := by
      rw [← huuid]
      exact (congrArg GpuProcessKey.gpuUUID hkey).symm
    refine ⟨i, device, hdevice, hname, ?_⟩
    apply (sees_iff device (uuidAt c.deviceUUIDs i device) i joined.pid).mpr
    apply List.ne_nil_of_mem (a := r)
    exact List.mem_filter.mpr ⟨hmem, decide_eq_true (hname ▸ hkey)⟩
  · intro i device pid hdevice hsees
    have hothers : ∀ j other, nvml.devices[j]? = some other →
        uuidAt c.deviceUUIDs (0 + j : ℕ) other = uuidAt c.deviceUUIDs (0 + i : ℕ) device →
        j = i := by
      intro j other hother hsame
      rw [Nat.zero_add, Nat.zero_add] at hsame
      exact hdistinct i j device other hdevice hother hsame
    have hreadings : (readingsFrom c.deviceUUIDs (c.lastSeenTimestamp now) 0 nvml.devices).filter
        (·.key = ⟨uuidAt c.deviceUUIDs (0 + i : ℕ) device, pid⟩) = _ :=
      filter_readingsFrom hdevice hothers pid
    rw [Nat.zero_add] at hreadings
    have hne := (sees_iff device (uuidAt c.deviceUUIDs i device) i pid).mp hsees
    rw [filter_joinReadings, lookup_joinReadings, hreadings, if_neg hne, Option.map_some,
      Option.toList_some, foldl_readingsOf device _ _ pid hsees]

/-- One device; its process 7 has two samples and is in both process lists, where one memory
reading is not available. -/
def sampleAnswers (samples : List ProcessUtilizationSample) : Answers :=
  ⟨⟨.success, ""⟩, [sampleDevice samples [⟨7, nvmlValueNotAvailable⟩, ⟨7, 300⟩] [⟨7, 200⟩]]⟩

theorem snapshot_collect_two_lists :
    let newer : ProcessUtilizationSample := ⟨7, 99000003, 90, 0, 0, 0⟩
    let older : ProcessUtilizationSample := ⟨7, 99000001, 10, 0, 0, 0⟩
    let nvml := sampleAnswers [older, newer]
    let snapshot := (sampleCollector.collect (100 * 10 ^ 9) nvml).1.snapshot
    nvml.deviceGetCount.ok = true ∧ (∀ device ∈ nvml.devices, device.Answered) ∧
      snapshot.processes.filter (fun metric => metric.gpuUUID = "GPU-0" ∧ metric.pid = 7) =
        [⟨7, "GPU-0", 0, 300, 90⟩] := by
  have hanswered : ∀ device ∈ (sampleAnswers [⟨7, 99000001, 10, 0, 0, 0⟩,
      ⟨7, 99000003, 90, 0, 0, 0⟩]).devices, device.Answered := by
    intro device hdevice
    rw [List.mem_singleton.mp hdevice]
    exact ⟨rfl, rfl, rfl, rfl, rfl⟩
  refine ⟨rfl, hanswered, ?_⟩
  have hdistinct : ∀ (i j : ℕ) (device other : Device),
      (sampleAnswers [⟨7, 99000001, 10, 0, 0, 0⟩, ⟨7, 99000003, 90, 0, 0, 0⟩]).devices[i]? =
        some device →
      (sampleAnswers [⟨7, 99000001, 10, 0, 0, 0⟩, ⟨7, 99000003, 90, 0, 0, 0⟩]).devices[j]? =
        some other →
      uuidAt sampleCollector.deviceUUIDs j other = uuidAt sampleCollector.deviceUUIDs i device →
        j = i := by
    intro i j device other hdevice hother _
    obtain ⟨hi, -⟩ := List.getElem?_eq_some_iff.mp hdevice
    obtain ⟨hj, -⟩ := List.getElem?_eq_some_iff.mp hother
    simp only [sampleAnswers, List.length_singleton] at hi hj
    omega
  have hlisted : (⟨7, 300⟩ : ProcessInfo) ∈ (sampleDevice [⟨7, 99000001, 10, 0, 0, 0⟩,
      ⟨7, 99000003, 90, 0, 0, 0⟩] [⟨7, nvmlValueNotAvailable⟩, ⟨7, 300⟩] [⟨7, 200⟩]).processes := by
    simp [sampleDevice, NVML.Device.processes]
  exact (snapshot_collect rfl hanswered hdistinct).2 0 _ 7 rfl (.inr ⟨⟨7, 300⟩, hlisted, rfl⟩)

/-- Of two accepted samples of a process the one listed last counts, also where it is the older. -/
theorem older_sample_counts_when_listed_last :
    let newer : ProcessUtilizationSample := ⟨7, 99000003, 90, 0, 0, 0⟩
    let older : ProcessUtilizationSample := ⟨7, 99000001, 10, 0, 0, 0⟩
    (sampleDevice [newer, older] [] []).accepted
        (sampleCollector.lastSeenTimestamp (100 * 10 ^ 9)) = [newer, older] ∧
      (sampleCollector.collect (100 * 10 ^ 9) (sampleAnswers [newer, older])).1.snapshot.processes =
        [⟨7, "GPU-0", 0, 300, 10⟩] ∧
      (sampleCollector.collect (100 * 10 ^ 9) (sampleAnswers [older, newer])).1.snapshot.processes =
        [⟨7, "GPU-0", 0, 300, 90⟩] := by
  decide

end NVMLProcessCollector

end Snapshot

end Poll

end GpuFractioning.Metricsd
