import GpuFractioning.Lib.Grouping
import GpuFractioning.Metricsd.Types

/-!
# The NVML collector

`metricsd/internal/metrics/nvml_collector.go`: one `collect` joins the
utilization samples and the process lists of every device into a snapshot. What
NVML answers is input. Times are nanoseconds since the Unix epoch.
-/

namespace GpuFractioning.Metricsd

namespace NVML

inductive Code where
  | success
  | alreadyInitialized
  | notSupported
  | notFound
  | other
  deriving DecidableEq, Repr

/-- A return value with the text of its `Error`. -/
structure Return where
  code : Code
  text : String
  deriving DecidableEq, Repr

def Return.ok (ret : Return) : Bool := ret.code = .success

/-- The returns after which a list is still read. -/
def Return.tolerated (ret : Return) : Bool :=
  ret.code = .success || ret.code = .notSupported || ret.code = .notFound

structure ProcessUtilizationSample where
  pid : ℕ
  timeStamp : ℕ
  smUtil : ℕ
  memUtil : ℕ
  encUtil : ℕ
  decUtil : ℕ
  deriving DecidableEq, Repr

structure ProcessInfo where
  pid : ℕ
  usedGpuMemory : ℕ
  deriving DecidableEq, Repr

/-- What NVML answers about one device in one poll. -/
structure Device where
  handle : Return
  uuid : String × Return
  minorNumber : ℤ × Return
  memoryTotal : ℕ × Return
  processUtilization : List ProcessUtilizationSample × Return
  computeRunningProcesses : List ProcessInfo × Return
  graphicsRunningProcesses : List ProcessInfo × Return

/-- What NVML answers in one poll; the devices are in index order. -/
structure Answers where
  deviceGetCount : Return
  devices : List Device

/-- A device that answers everything. -/
def sampleDevice (samples : List ProcessUtilizationSample) (compute graphics : List ProcessInfo) :
    Device where
  handle := ⟨.success, ""⟩
  uuid := ("GPU-0", ⟨.success, ""⟩)
  minorNumber := (0, ⟨.success, ""⟩)
  memoryTotal := (80, ⟨.success, ""⟩)
  processUtilization := (samples, ⟨.success, ""⟩)
  computeRunningProcesses := (compute, ⟨.success, ""⟩)
  graphicsRunningProcesses := (graphics, ⟨.success, ""⟩)

end NVML

open NVML (Return ProcessUtilizationSample ProcessInfo Device Answers)

def nvmlValueNotAvailable : ℕ := 2 ^ 64 - 1

structure GpuProcessKey where
  gpuUUID : String
  pid : ℕ
  deriving DecidableEq, Repr

/-- An entry of the join, with the timestamp that only the collector sees. -/
structure JoinedMetric extends GPUProcessMetric where
  processUtilizationTimestamp : ℕ
  deriving DecidableEq, Repr

def JoinedMetric.zero : JoinedMetric := ⟨⟨0, "", 0, 0, 0⟩, 0⟩

abbrev Joined := FiniteMap GpuProcessKey JoinedMetric

section Join

def shouldSkipProcessUtilizationSample (sample : ProcessUtilizationSample)
    (lastSeenTimestamp : ℕ) : Bool :=
  sample.pid = 0 || sample.smUtil > 100 || sample.memUtil > 100 || sample.encUtil > 100 ||
    sample.decUtil > 100 || sample.timeStamp ≤ lastSeenTimestamp

variable (joined : Joined) (uuid : String) (index : ℤ)

/-- What an accepted sample writes over the entry of its process. -/
def joinSample (metric : JoinedMetric) (sample : ProcessUtilizationSample) : JoinedMetric :=
  { metric with
    pid := sample.pid
    gpuUUID := uuid
    gpuIndex := index
    smUtilizationPercent := sample.smUtil
    processUtilizationTimestamp := sample.timeStamp }

/-- The join with the accepted samples, these samples as they are logged, and the error. -/
def collectProcessUtilization (lastSeenTimestamp : ℕ)
    (answer : List ProcessUtilizationSample × Return) :
    Joined × List ProcessUtilizationSample × Option String :=
  if !answer.2.tolerated then
    (joined, [], some ("get process utilization for GPU " ++ uuid ++ ": " ++ answer.2.text))
  else
    let accepted := answer.1.filter fun sample =>
      !shouldSkipProcessUtilizationSample sample lastSeenTimestamp
    (joined.accumulate (fun sample => ⟨uuid, sample.pid⟩) (fun _ => .zero) (joinSample uuid index)
      accepted, accepted, none)

/-- What a listed process writes over its entry: memory only ever grows. -/
def joinProcess (metric : JoinedMetric) (process : ProcessInfo) : JoinedMetric :=
  { metric with
    pid := process.pid
    gpuUUID := uuid
    gpuIndex := index
    usedGPUMemoryBytes :=
      if process.usedGpuMemory ≠ nvmlValueNotAvailable ∧
          process.usedGpuMemory > metric.usedGPUMemoryBytes then
        process.usedGpuMemory
      else metric.usedGPUMemoryBytes }

def mergeRunningProcesses (answer : List ProcessInfo × Return) : Joined × Option String :=
  if !answer.2.tolerated then (joined, some answer.2.text)
  else
    (joined.accumulate (fun process => ⟨uuid, process.pid⟩) (fun _ => .zero)
      (joinProcess uuid index) answer.1, none)

/-- Without the compute processes the graphics processes are not read. -/
def collectProcessMemory (device : Device) : Joined × Option String :=
  match mergeRunningProcesses joined uuid index device.computeRunningProcesses with
  | (joined, some err) => (joined, some ("get compute processes for GPU " ++ uuid ++ ": " ++ err))
  | (joined, none) =>
    match mergeRunningProcesses joined uuid index device.graphicsRunningProcesses with
    | (joined, some err) =>
      (joined, some ("get graphics processes for GPU " ++ uuid ++ ": " ++ err))
    | (joined, none) => (joined, none)

end Join

section Collect

/-- The UUID of a device is asked for once. -/
def deviceUUID (cache : FiniteMap ℤ String) (index : ℤ) (device : Device) :
    Except String String × FiniteMap ℤ String :=
  let cached := (cache.lookup index).getD ""
  if cached ≠ "" then (.ok cached, cache)
  else if !device.uuid.2.ok then
    (.error ("get NVML device " ++ GoStrconv.formatInt index ++ " UUID: " ++ device.uuid.2.text),
      cache)
  else (.ok device.uuid.1, cache.insert index device.uuid.1)

/-- The variables of the loop over the devices. `accepted` are the samples it has logged, each
with the UUID of its device. -/
structure Pass where
  joined : Joined
  accepted : List (String × ProcessUtilizationSample)
  cache : FiniteMap ℤ String
  deviceUUIDs : FiniteMap ℤ String
  deviceMinorToNVMLIndex : FiniteMap ℤ ℤ
  deviceTotalMemory : FiniteMap ℤ ℕ
  errs : List String

/-- One iteration of the loop. -/
def collectDevice (lastSeenTimestamp : ℕ) (index : ℤ) (device : Device) (pass : Pass) : Pass :=
  if !device.handle.ok then
    { pass with
      errs := pass.errs ++
        ["get NVML device " ++ GoStrconv.formatInt index ++ ": " ++ device.handle.text] }
  else
    match deviceUUID pass.cache index device with
    | (.error err, cache) => { pass with cache := cache, errs := pass.errs ++ [err] }
    | (.ok uuid, cache) =>
      let minorErr : Option String :=
        if device.minorNumber.2.ok then none
        else some ("get minor number for GPU " ++ uuid ++ ": " ++ device.minorNumber.2.text)
      let totalErr : Option String :=
        if device.memoryTotal.2.ok then none
        else some ("get memory info for GPU " ++ uuid ++ ": " ++ device.memoryTotal.2.text)
      let utilization := collectProcessUtilization pass.joined uuid index lastSeenTimestamp
        device.processUtilization
      let memory := collectProcessMemory utilization.1 uuid index device
      { joined := memory.1
        accepted := pass.accepted ++ utilization.2.1.map fun sample => (uuid, sample)
        cache := cache
        deviceUUIDs := pass.deviceUUIDs.insert index uuid
        deviceMinorToNVMLIndex :=
          if device.minorNumber.2.ok then
            pass.deviceMinorToNVMLIndex.insert device.minorNumber.1 index
          else pass.deviceMinorToNVMLIndex
        deviceTotalMemory :=
          if device.memoryTotal.2.ok then pass.deviceTotalMemory.insert index device.memoryTotal.1
          else pass.deviceTotalMemory
        errs := pass.errs ++ minorErr.toList ++ totalErr.toList ++ utilization.2.2.toList ++
          memory.2.toList }

def collectDevices (lastSeenTimestamp : ℕ) : ℕ → List Device → Pass → Pass
  | _, [], pass => pass
  | index, device :: devices, pass =>
    collectDevices lastSeenTimestamp (index + 1) devices
      (collectDevice lastSeenTimestamp index device pass)

/-- `time.Time{}`. -/
def zeroTime : ℤ := -62135596800 * 10 ^ 9

/-- `uint64(t.UnixMicro())`. -/
def unixMicro (t : ℤ) : ℕ := (t / 1000 % 2 ^ 64).toNat

/-- `nvmlProcessCollector`, with what its device errors say. -/
structure NVMLProcessCollector where
  snapshot : GPUProcessSnapshot
  deviceErrors : List String
  interval : ℤ
  lastPollTime : ℤ
  deviceUUIDs : FiniteMap ℤ String

namespace NVMLProcessCollector

def newNVMLProcessCollector (init : Return) (interval : ℤ) : Except String NVMLProcessCollector :=
  if init.code ≠ .success ∧ init.code ≠ .alreadyInitialized then
    .error ("initialize NVML: " ++ init.text)
  else .ok ⟨⟨[], ∅, ∅, ∅⟩, [], interval, zeroTime, ∅⟩

/-- The cut-off for samples of a poll: the time of the poll before it. -/
def lastSeenTimestamp (c : NVMLProcessCollector) (now : ℤ) : ℕ :=
  unixMicro (if c.lastPollTime = zeroTime then now - c.interval else c.lastPollTime)

/-- The collector after a poll, and the samples the poll accepted. -/
def collect (c : NVMLProcessCollector) (now : ℤ) (nvml : Answers) :
    NVMLProcessCollector × List (String × ProcessUtilizationSample) :=
  if !nvml.deviceGetCount.ok then
    -- the previous snapshot is kept, but its samples' cut-off moves on
    ({ c with lastPollTime := now }, [])
  else
    let pass := collectDevices (c.lastSeenTimestamp now) 0 nvml.devices
      ⟨∅, [], c.deviceUUIDs, ∅, ∅, ∅, []⟩
    let snapshot : GPUProcessSnapshot :=
      { processes := pass.joined.pairs.map (·.2.toGPUProcessMetric)
        deviceUUIDs := pass.deviceUUIDs
        deviceMinorToNVMLIndex := pass.deviceMinorToNVMLIndex
        deviceTotalMemoryBytes := pass.deviceTotalMemory }
    (⟨snapshot, pass.errs, c.interval, now, pass.cache⟩, pass.accepted)

/-- A collector that has not polled yet. -/
def sampleCollector : NVMLProcessCollector := ⟨⟨[], ∅, ∅, ∅⟩, [], 5 * 10 ^ 9, zeroTime, ∅⟩

example : newNVMLProcessCollector ⟨.success, ""⟩ (5 * 10 ^ 9) = .ok sampleCollector := rfl

@[simp] theorem lastPollTime_collect (c : NVMLProcessCollector) (now : ℤ) (nvml : Answers) :
    (c.collect now nvml).1.lastPollTime = now := by
  unfold collect
  split_ifs <;> rfl

end NVMLProcessCollector

end Collect

section Accepted

variable {lastSeenTimestamp : ℕ}

theorem lt_timeStamp_of_accepted {sample : ProcessUtilizationSample}
    (h : shouldSkipProcessUtilizationSample sample lastSeenTimestamp = false) :
    lastSeenTimestamp < sample.timeStamp := by
  simp only [shouldSkipProcessUtilizationSample, Bool.or_eq_false_iff, decide_eq_false_iff_not,
    not_le] at h
  exact h.2

theorem collectProcessUtilization_accepted {joined : Joined} {uuid : String} {index : ℤ}
    {answer : List ProcessUtilizationSample × Return} {sample : ProcessUtilizationSample}
    (h : sample ∈ (collectProcessUtilization joined uuid index lastSeenTimestamp answer).2.1) :
    sample ∈ answer.1 ∧ shouldSkipProcessUtilizationSample sample lastSeenTimestamp = false := by
  unfold collectProcessUtilization at h
  split_ifs at h
  · simp at h
  · simpa using h

theorem collectDevice_accepted {index : ℤ} {device : Device} {pass : Pass}
    {entry : String × ProcessUtilizationSample}
    (h : entry ∈ (collectDevice lastSeenTimestamp index device pass).accepted) :
    entry ∈ pass.accepted ∨
      (entry.2 ∈ device.processUtilization.1 ∧
        shouldSkipProcessUtilizationSample entry.2 lastSeenTimestamp = false) := by
  unfold collectDevice at h
  split at h
  · exact .inl h
  · split at h
    · exact .inl h
    · rcases List.mem_append.mp h with hold | hnew
      · exact .inl hold
      · obtain ⟨sample, hsample, rfl⟩ := List.mem_map.mp hnew
        exact .inr (collectProcessUtilization_accepted hsample)

theorem collectDevices_accepted {devices : List Device} {index : ℕ} {pass : Pass}
    {entry : String × ProcessUtilizationSample}
    (h : entry ∈ (collectDevices lastSeenTimestamp index devices pass).accepted) :
    entry ∈ pass.accepted ∨
      ((∃ device ∈ devices, entry.2 ∈ device.processUtilization.1) ∧
        shouldSkipProcessUtilizationSample entry.2 lastSeenTimestamp = false) := by
  induction devices generalizing index pass with
  | nil => exact .inl h
  | cons device devices ih =>
    rcases ih h with hfirst | ⟨⟨other, hother, hmem⟩, hkept⟩
    · rcases collectDevice_accepted hfirst with hold | ⟨hmem, hkept⟩
      · exact .inl hold
      · exact .inr ⟨⟨device, List.mem_cons_self, hmem⟩, hkept⟩
    · exact .inr ⟨⟨other, List.mem_cons_of_mem _ hother, hmem⟩, hkept⟩

theorem NVMLProcessCollector.collect_accepted {c : NVMLProcessCollector} {now : ℤ}
    {nvml : Answers} {entry : String × ProcessUtilizationSample}
    (h : entry ∈ (c.collect now nvml).2) :
    (∃ device ∈ nvml.devices, entry.2 ∈ device.processUtilization.1) ∧
      c.lastSeenTimestamp now < entry.2.timeStamp := by
  unfold collect at h
  split_ifs at h
  · simp at h
  · rcases collectDevices_accepted h with hnone | ⟨hreturned, hkept⟩
    · simp at hnone
    · exact ⟨hreturned, lt_timeStamp_of_accepted hkept⟩

end Accepted

end GpuFractioning.Metricsd
