import GpuFractioning.Mapping.ContainerStore
import GpuFractioning.Metricsd.Types

/-!
# The metrics engine

`metricsd/internal/metrics/engine.go`: one collect joins the GPU processes that
NVML reports with the recorded containers and publishes a snapshot. What the
engine learns about the devices, and the samples of the averaging window,
persist from one collect to the next. Percentages are exact rationals.
-/

namespace GpuFractioning.Metricsd

open Mapping

def maxSMUtilPercent : ℚ := 100

/-- Stands in for an unknown fraction. -/
def fullGPUFraction : ℚ := 1

def bytesPerMiB : ℚ := 1024 * 1024

/-- The view of the container mapping that one collect works on. A process is only
ever attributed to a container of that view. -/
structure PodSource where
  store : ContainerStore
  resolveProcess : GPUProcessMetric → Option ContainerInfo
  resolved_mem : ∀ process info, resolveProcess process = some info →
    info ∈ ContainerStore.activeContainers store

namespace PodSource

def activeContainers (pods : PodSource) : List ContainerInfo :=
  ContainerStore.activeContainers pods.store

def activePodUIDs (pods : PodSource) : Finset String := ContainerStore.activePodUIDs pods.store

end PodSource

structure Engine where
  smUtilWindowSize : ℕ
  smUtilBuf : FiniteMap PodGPUKey (List ℚ)
  deviceUUIDs : FiniteMap ℤ String
  minorToNVMLIndex : FiniteMap ℤ ℤ
  deviceTotalMemoryBytes : FiniteMap ℤ ℕ
  snapshot : Snapshot

/-- `newMetricsController`, with both durations in nanoseconds. -/
def newMetricsController (interval smUtilWindow : ℤ) : Engine :=
  { smUtilWindowSize :=
      if interval > 0 ∧ smUtilWindow > interval then (smUtilWindow / interval).toNat else 1
    smUtilBuf := ∅
    deviceUUIDs := ∅
    minorToNVMLIndex := ∅
    deviceTotalMemoryBytes := ∅
    snapshot := ⟨[], none⟩ }

section RequestedMemory

abbrev RequestedMemory := FiniteMap PodGPUKey (FiniteMap String ℤ)

/-- Counted once per container, however many processes it has. -/
def recordRequestedMemory (memByKey : RequestedMemory) (key : PodGPUKey) (containerID : String)
    (memMiB : ℤ) : RequestedMemory :=
  if memMiB ≤ 0 ∨ containerID = "" then memByKey
  else memByKey.insert key (((memByKey.lookup key).getD ∅).insert containerID memMiB)

/-- The sum is an `int64`. -/
def sumRequestedMemory (byContainer : FiniteMap String ℤ) : ℤ :=
  byContainer.pairs.foldl (fun sum entry => (sum + entry.2).bmod (2 ^ 64)) 0

end RequestedMemory

section ObservedDevices

def podDeviceUUIDKey (key : PodGPUKey) : String :=
  key.namespace_ ++ "/" ++ key.podUID ++ "/uuid/" ++ key.gpuUUID

def podDeviceIndexKey (key : PodGPUKey) : String :=
  key.namespace_ ++ "/" ++ key.podUID ++ "/index/" ++ GoStrconv.formatInt key.gpuIndex

def observePodDevice (observed : Finset String) (key : PodGPUKey) : Finset String :=
  insert (podDeviceIndexKey key)
    (if key.gpuUUID ≠ "" then insert (podDeviceUUIDKey key) observed else observed)

def gpuObservedForPodDevice (observed : Finset String) (key : PodGPUKey) : Bool :=
  (key.gpuUUID ≠ "" ∧ podDeviceUUIDKey key ∈ observed) ∨ podDeviceIndexKey key ∈ observed

end ObservedDevices

def idlePodGPUMetric (key : PodGPUKey) : PodGPUMetric :=
  { namespace_ := key.namespace_
    pod := key.pod
    podUID := key.podUID
    gpuUUID := key.gpuUUID
    gpuIndex := key.gpuIndex
    memoryBytes := 0
    smUtilizationPercent := 0
    requestedGPUFraction := 0
    smUtilizationPercentNormalized := 0 }

/-- The key under which a process of a container is counted. -/
def processKey (container : ContainerInfo) (process : GPUProcessMetric) : PodGPUKey :=
  { namespace_ := container.namespace_
    pod := container.pod
    podUID := container.podUID
    gpuUUID := process.gpuUUID
    gpuIndex := process.gpuIndex }

def normalizedSMUtil (smUtil fraction : ℚ) : ℚ :=
  let fraction := if fraction = 0 then fullGPUFraction else fraction
  let normalized := smUtil / fraction
  if normalized > maxSMUtilPercent then maxSMUtilPercent else normalized

def normalizeSMUtil (metrics : List PodGPUMetric) : List PodGPUMetric :=
  metrics.map fun m =>
    { m with
      smUtilizationPercentNormalized :=
        normalizedSMUtil m.smUtilizationPercent m.requestedGPUFraction }

/-- The tables `enrich` fills. -/
structure Enrichment where
  byPodGPU : FiniteMap PodGPUKey PodGPUMetric
  observedPodDevices : Finset String
  memByKey : RequestedMemory
  unmatched : ℕ

namespace Enrichment

def empty : Enrichment := ⟨∅, ∅, ∅, 0⟩

/-- One round of the loop over the GPU processes. -/
def addProcess (pods : PodSource) (acc : Enrichment) (process : GPUProcessMetric) : Enrichment :=
  if process.pid = 0 then acc
  else
    match pods.resolveProcess process with
    | none => { acc with unmatched := acc.unmatched + 1 }
    | some container =>
      let key := processKey container process
      let metric := (acc.byPodGPU.lookup key).getD (idlePodGPUMetric key)
      { acc with
        byPodGPU := acc.byPodGPU.insert key
          { metric with
            -- a `uint64` sum
            memoryBytes := (metric.memoryBytes + process.usedGPUMemoryBytes) % 2 ^ 64
            smUtilizationPercent := metric.smUtilizationPercent + process.smUtilizationPercent }
        observedPodDevices := observePodDevice acc.observedPodDevices key
        memByKey := recordRequestedMemory acc.memByKey key container.containerID
          container.requestedMemoryMiB }

/-- One round of the loop over the devices of the active containers. -/
def addIdle (idleKey : ContainerInfo → GPUDevice → Option PodGPUKey) (acc : Enrichment)
    (entry : ContainerInfo × GPUDevice) : Enrichment :=
  match idleKey entry.1 entry.2 with
  | none => acc
  | some key =>
    let acc := { acc with
      memByKey := recordRequestedMemory acc.memByKey key entry.1.containerID
        entry.1.requestedMemoryMiB }
    if (acc.byPodGPU.lookup key).isSome ∨ gpuObservedForPodDevice acc.observedPodDevices key then
      acc
    else { acc with byPodGPU := acc.byPodGPU.insert key (idlePodGPUMetric key) }

end Enrichment

/-- Every active container with each of its devices, in the order they are visited. -/
def PodSource.devices (pods : PodSource) : List (ContainerInfo × GPUDevice) :=
  pods.activeContainers.flatMap fun container =>
    container.gpuDevices.map fun device => (container, device)

namespace Engine

def rememberDeviceUUIDs (e : Engine) (deviceUUIDs : FiniteMap ℤ String) : Engine :=
  { e with
    deviceUUIDs := FiniteMap.assignAll (FiniteMap.filter (fun _ uuid => uuid ≠ "") deviceUUIDs)
      e.deviceUUIDs }

def rememberMinorToNVMLIndex (e : Engine) (minorToNVML : FiniteMap ℤ ℤ) : Engine :=
  { e with minorToNVMLIndex := FiniteMap.assignAll minorToNVML e.minorToNVMLIndex }

def rememberDeviceTotalMemory (e : Engine) (deviceTotalMemory : FiniteMap ℤ ℕ) : Engine :=
  { e with
    deviceTotalMemoryBytes := FiniteMap.assignAll
      (FiniteMap.filter (fun _ total => total ≠ 0) deviceTotalMemory) e.deviceTotalMemoryBytes }

def remember (e : Engine) (nvml : GPUProcessSnapshot) : Engine :=
  ((e.rememberDeviceUUIDs nvml.deviceUUIDs).rememberMinorToNVMLIndex
    nvml.deviceMinorToNVMLIndex).rememberDeviceTotalMemory nvml.deviceTotalMemoryBytes

def indexForUUID (e : Engine) (uuid : String) : Option ℤ :=
  (e.deviceUUIDs.pairs.find? fun entry => entry.2 = uuid).map Prod.fst

/-- The Linux minor of a device, which old records keep in the index field. -/
def recordedMinor (device : GPUDevice) : ℤ :=
  if device.minorNumber = 0 ∧ device.index ≠ 0 then device.index else device.minorNumber

/-- The key of the series a device has while no process uses it. -/
def idlePodGPUKey (e : Engine) (container : ContainerInfo) (device : GPUDevice) :
    Option PodGPUKey :=
  let key (uuid : String) (index : ℤ) : PodGPUKey :=
    { namespace_ := container.namespace_
      pod := container.pod
      podUID := container.podUID
      gpuUUID := uuid
      gpuIndex := index }
  if device.uuid ≠ "" then
    -- the UUID is known: recover the NVML index
    some (key device.uuid ((e.indexForUUID device.uuid).getD device.index))
  else if e.minorToNVMLIndex.keys ≠ [] then
    -- a node with a GPU driver: minor number, then NVML index, then UUID
    match e.minorToNVMLIndex.lookup (recordedMinor device) with
    | none => none
    | some nvmlIdx => some (key ((e.deviceUUIDs.lookup nvmlIdx).getD "") nvmlIdx)
  else
    -- no mapping from minors: the index is taken as the NVML index
    some (key ((e.deviceUUIDs.lookup device.index).getD "") device.index)

def gpuFraction (e : Engine) (gpuIndex : ℤ) (requestedMiB : ℤ) : ℚ :=
  if requestedMiB ≤ 0 then 0
  else
    let totalBytes := (e.deviceTotalMemoryBytes.lookup gpuIndex).getD 0
    if totalBytes = 0 then 0 else requestedMiB * bytesPerMiB / totalBytes

def enrichment (e : Engine) (processes : List GPUProcessMetric) (pods : PodSource) : Enrichment :=
  pods.devices.foldl (Enrichment.addIdle e.idlePodGPUKey)
    (processes.foldl (Enrichment.addProcess pods) Enrichment.empty)

/-- The metrics, and the number of processes no pod was found for. -/
def enrich (e : Engine) (processes : List GPUProcessMetric) (pods : PodSource) :
    List PodGPUMetric × ℕ :=
  let acc := e.enrichment processes pods
  (acc.byPodGPU.pairs.map fun entry =>
    { entry.2 with
      smUtilizationPercent :=
        if entry.2.smUtilizationPercent > maxSMUtilPercent then maxSMUtilPercent
        else entry.2.smUtilizationPercent
      requestedGPUFraction := e.gpuFraction entry.1.gpuIndex
        (sumRequestedMemory ((acc.memByKey.lookup entry.1).getD ∅)) },
    acc.unmatched)

/-- The sample joins the window of its series, whose average is returned. -/
def pushSample (e : Engine) (key : PodGPUKey) (sample : ℚ) : Engine × ℚ :=
  let buf := (e.smUtilBuf.lookup key).getD [] ++ [sample]
  let buf :=
    if buf.length > e.smUtilWindowSize then buf.drop (buf.length - e.smUtilWindowSize) else buf
  ({ e with smUtilBuf := e.smUtilBuf.insert key buf }, buf.sum / buf.length)

def pushSamples : Engine → List PodGPUMetric → Engine × List PodGPUMetric
  | e, [] => (e, [])
  | e, m :: metrics =>
    let (e, average) := e.pushSample m.key m.smUtilizationPercent
    let (e, averaged) := pushSamples e metrics
    (e, { m with smUtilizationPercent := average } :: averaged)

/-- Averages over the window; the windows of series that are gone are dropped. -/
def windowedSMUtil (e : Engine) (metrics : List PodGPUMetric) : Engine × List PodGPUMetric :=
  let (e, averaged) := e.pushSamples metrics
  ({ e with
    smUtilBuf := FiniteMap.filter (fun key _ => key ∈ metrics.map PodGPUMetric.key) e.smUtilBuf },
    averaged)

def setSnapshot (e : Engine) (metrics : List PodGPUMetric) (activePodUIDs : Finset String) :
    Engine :=
  { e with snapshot := ⟨metrics, some activePodUIDs⟩ }

/-- NVML is only asked when some container is active. -/
def collect (e : Engine) (pods : PodSource) (nvml : GPUProcessSnapshot) : Engine :=
  if pods.activeContainers = [] then e.setSnapshot [] pods.activePodUIDs
  else
    let e := e.remember nvml
    let metrics := (e.enrich nvml.processes pods).1
    let (e, metrics) := if e.smUtilWindowSize > 1 then e.windowedSMUtil metrics else (e, metrics)
    e.setSnapshot (normalizeSMUtil metrics) pods.activePodUIDs

end Engine

section Keys

/-- Where a series of a collect can come from. -/
def Engine.Sourced (e : Engine) (processes : List GPUProcessMetric) (pods : PodSource)
    (key : PodGPUKey) : Prop :=
  (∃ process ∈ processes, process.pid ≠ 0 ∧
    ∃ container, pods.resolveProcess process = some container ∧
      key = processKey container process) ∨
  ∃ entry ∈ pods.devices, e.idlePodGPUKey entry.1 entry.2 = some key

/-- Metrics are stored under their own key, and only under keys in `S`. -/
def Enrichment.KeyedIn (S : PodGPUKey → Prop) (acc : Enrichment) : Prop :=
  ∀ key m, acc.byPodGPU.lookup key = some m → m.key = key ∧ S key

theorem idlePodGPUKey_pod {e : Engine} {container : ContainerInfo} {device : GPUDevice}
    {key : PodGPUKey} (h : e.idlePodGPUKey container device = some key) :
    key.namespace_ = container.namespace_ ∧ key.pod = container.pod ∧
      key.podUID = container.podUID := by
  unfold Engine.idlePodGPUKey at h
  dsimp only at h
  split_ifs at h
  · cases h
    exact ⟨rfl, rfl, rfl⟩
  · split at h
    · cases h
    · cases h
      exact ⟨rfl, rfl, rfl⟩
  · cases h
    exact ⟨rfl, rfl, rfl⟩

theorem idlePodGPUMetric_key (key : PodGPUKey) : (idlePodGPUMetric key).key = key := rfl

variable {S : PodGPUKey → Prop} {acc : Enrichment}

theorem Enrichment.KeyedIn.insert (h : acc.KeyedIn S) {m : PodGPUMetric} {key : PodGPUKey}
    (hm : m.key = key) (hkey : S key) {observed : Finset String} {memByKey : RequestedMemory}
    {unmatched : ℕ} :
    Enrichment.KeyedIn S ⟨acc.byPodGPU.insert key m, observed, memByKey, unmatched⟩ := by
  intro key' m' hlookup
  rw [FiniteMap.lookup_insert] at hlookup
  split_ifs at hlookup with heq
  · cases hlookup
    exact ⟨heq ▸ hm, heq ▸ hkey⟩
  · exact h key' m' hlookup

theorem Enrichment.KeyedIn.addProcess {pods : PodSource} (h : acc.KeyedIn S)
    {process : GPUProcessMetric}
    (hkey : ∀ container, process.pid ≠ 0 → pods.resolveProcess process = some container →
      S (processKey container process)) :
    (acc.addProcess pods process).KeyedIn S := by
  unfold Enrichment.addProcess
  split_ifs with hpid
  · exact h
  · cases hres : pods.resolveProcess process with
    | none => exact h
    | some container =>
      refine h.insert ?_ (hkey container hpid hres)
      cases hlookup : acc.byPodGPU.lookup (processKey container process) with
      | none => exact idlePodGPUMetric_key _
      | some m => exact (h _ m hlookup).1

theorem Enrichment.KeyedIn.addIdle {idleKey : ContainerInfo → GPUDevice → Option PodGPUKey}
    (h : acc.KeyedIn S) {entry : ContainerInfo × GPUDevice}
    (hkey : ∀ key, idleKey entry.1 entry.2 = some key → S key) :
    (acc.addIdle idleKey entry).KeyedIn S := by
  unfold Enrichment.addIdle
  cases hidle : idleKey entry.1 entry.2 with
  | none => exact h
  | some key =>
    dsimp only
    split_ifs
    · exact h
    · exact h.insert (idlePodGPUMetric_key key) (hkey key hidle)

theorem enrichment_keyedIn (e : Engine) (processes : List GPUProcessMetric) (pods : PodSource) :
    (e.enrichment processes pods).KeyedIn (e.Sourced processes pods) := by
  refine List.foldlRecOn _ _ ?_ fun acc hacc entry hentry =>
    hacc.addIdle fun key hkey => Or.inr ⟨entry, hentry, hkey⟩
  refine List.foldlRecOn _ _ ?_ fun acc hacc process hprocess =>
    hacc.addProcess fun container hpid hres =>
      Or.inl ⟨process, hprocess, hpid, container, hres, rfl⟩
  intro key m hlookup
  simp [Enrichment.empty] at hlookup

theorem sourced_of_mem_enrich {e : Engine} {processes : List GPUProcessMetric} {pods : PodSource}
    {m : PodGPUMetric} (hm : m ∈ (e.enrich processes pods).1) : e.Sourced processes pods m.key := by
  obtain ⟨⟨key, m'⟩, hentry, rfl⟩ := List.mem_map.mp hm
  obtain ⟨hkey, hsource⟩ :=
    enrichment_keyedIn e processes pods key m' (FiniteMap.mem_pairs.mp hentry)
  rw [← hkey] at hsource
  exact hsource

theorem enrich_keys (e : Engine) (processes : List GPUProcessMetric) (pods : PodSource) :
    (e.enrich processes pods).1.map PodGPUMetric.key =
      (e.enrichment processes pods).byPodGPU.pairs.map Prod.fst := by
  simp only [Engine.enrich, List.map_map]
  refine List.map_congr_left ?_
  rintro ⟨key, m⟩ hentry
  exact (enrichment_keyedIn e processes pods key m (FiniteMap.mem_pairs.mp hentry)).1

theorem mem_enrich_keys {e : Engine} {processes : List GPUProcessMetric} {pods : PodSource}
    {key : PodGPUKey} :
    key ∈ (e.enrich processes pods).1.map PodGPUMetric.key ↔
      ((e.enrichment processes pods).byPodGPU.lookup key).isSome = true := by
  simp only [enrich_keys, List.mem_map, Prod.exists, exists_and_right, exists_eq_right,
    FiniteMap.mem_pairs, Option.isSome_iff_exists]

theorem enrich_keys_nodup (e : Engine) (processes : List GPUProcessMetric) (pods : PodSource) :
    ((e.enrich processes pods).1.map PodGPUMetric.key).Nodup := by
  rw [enrich_keys]
  exact FiniteMap.nodup_map_fst_pairs _

theorem pushSamples_keys (e : Engine) (metrics : List PodGPUMetric) :
    (e.pushSamples metrics).2.map PodGPUMetric.key = metrics.map PodGPUMetric.key := by
  induction metrics generalizing e with
  | nil => rfl
  | cons m metrics ih =>
    simp only [Engine.pushSamples, List.map_cons, ih]
    rfl

theorem pushSamples_frame (e : Engine) (metrics : List PodGPUMetric) :
    ∃ buf, (e.pushSamples metrics).1 = { e with smUtilBuf := buf } := by
  induction metrics generalizing e with
  | nil => exact ⟨e.smUtilBuf, rfl⟩
  | cons m metrics ih => exact ih (e.pushSample m.key m.smUtilizationPercent).1

theorem windowedSMUtil_frame (e : Engine) (metrics : List PodGPUMetric) :
    ∃ buf, (e.windowedSMUtil metrics).1 = { e with smUtilBuf := buf } := by
  obtain ⟨buf, hbuf⟩ := pushSamples_frame e metrics
  refine ⟨FiniteMap.filter (fun key _ => key ∈ metrics.map PodGPUMetric.key) buf, ?_⟩
  simp only [Engine.windowedSMUtil, hbuf]

theorem normalizeSMUtil_keys (metrics : List PodGPUMetric) :
    (normalizeSMUtil metrics).map PodGPUMetric.key = metrics.map PodGPUMetric.key := by
  rw [normalizeSMUtil, List.map_map]
  rfl

end Keys

section Remember

variable (e : Engine) (nvml : GPUProcessSnapshot)

theorem remember_deviceUUIDs (index : ℤ) :
    (e.remember nvml).deviceUUIDs.lookup index =
      ((nvml.deviceUUIDs.lookup index).filter fun uuid => uuid ≠ "").or
        (e.deviceUUIDs.lookup index) := by
  simp only [Engine.remember, Engine.rememberDeviceTotalMemory, Engine.rememberMinorToNVMLIndex,
    Engine.rememberDeviceUUIDs, FiniteMap.lookup_assignAll, FiniteMap.lookup_filter]

end Remember

section Collect

variable (e : Engine) (pods : PodSource) (nvml : GPUProcessSnapshot)

theorem collect_keys (h : pods.activeContainers ≠ []) :
    (e.collect pods nvml).snapshot.metrics.map PodGPUMetric.key =
      ((e.remember nvml).enrich nvml.processes pods).1.map PodGPUMetric.key := by
  rw [Engine.collect, if_neg h]
  dsimp only [Engine.setSnapshot]
  rw [normalizeSMUtil_keys]
  split_ifs
  · exact pushSamples_keys _ _
  · rfl

theorem collect_keys_nodup :
    ((e.collect pods nvml).snapshot.metrics.map PodGPUMetric.key).Nodup := by
  by_cases h : pods.activeContainers = []
  · simp [Engine.collect, h, Engine.setSnapshot]
  · rw [collect_keys e pods nvml h]
    exact enrich_keys_nodup _ _ _

/-- Of what it knows about the devices, a collect changes only what NVML tells. -/
theorem collect_frame :
    ∃ buf snapshot, e.collect pods nvml =
      { (if pods.activeContainers = [] then e else e.remember nvml) with
        smUtilBuf := buf, snapshot := snapshot } := by
  unfold Engine.collect
  split_ifs
  · exact ⟨_, _, rfl⟩
  · dsimp only
    split_ifs
    · obtain ⟨buf, hbuf⟩ := windowedSMUtil_frame (e.remember nvml)
        ((e.remember nvml).enrich nvml.processes pods).1
      rw [Engine.setSnapshot, hbuf]
      exact ⟨_, _, rfl⟩
    · exact ⟨_, _, rfl⟩

theorem collect_activePodUIDs :
    (e.collect pods nvml).snapshot.activePodUIDs = some pods.activePodUIDs := by
  unfold Engine.collect
  split_ifs <;> rfl

variable {e pods nvml}

theorem sourced_of_mem_collect {m : PodGPUMetric}
    (hm : m ∈ (e.collect pods nvml).snapshot.metrics) :
    (e.remember nvml).Sourced nvml.processes pods m.key := by
  by_cases h : pods.activeContainers = []
  · simp [Engine.collect, h, Engine.setSnapshot] at hm
  · have hkey := List.mem_map_of_mem (f := PodGPUMetric.key) hm
    rw [collect_keys e pods nvml h] at hkey
    obtain ⟨m', hm', heq⟩ := List.mem_map.mp hkey
    rw [← heq]
    exact sourced_of_mem_enrich hm'

theorem exists_container_of_mem_collect {m : PodGPUMetric}
    (hm : m ∈ (e.collect pods nvml).snapshot.metrics) :
    ∃ container ∈ pods.activeContainers, m.namespace_ = container.namespace_ ∧
      m.pod = container.pod ∧ m.podUID = container.podUID := by
  rcases sourced_of_mem_collect hm with ⟨process, -, -, container, hres, hkey⟩ | ⟨entry, hmem, hkey⟩
  · simp only [PodGPUMetric.key, processKey, PodGPUKey.mk.injEq] at hkey
    exact ⟨container, pods.resolved_mem process container hres, hkey.1, hkey.2.1, hkey.2.2.1⟩
  · obtain ⟨container, hcontainer, hdevice⟩ := List.mem_flatMap.mp hmem
    obtain ⟨device, -, rfl⟩ := List.mem_map.mp hdevice
    have hpod := idlePodGPUKey_pod hkey
    exact ⟨container, hcontainer, hpod⟩

end Collect

end GpuFractioning.Metricsd
