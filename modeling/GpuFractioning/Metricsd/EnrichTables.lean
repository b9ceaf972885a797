import GpuFractioning.Lib.GoString
import GpuFractioning.Lib.Grouping
import GpuFractioning.Metricsd.Engine

/-!
# What the loops of `enrich` leave in their tables

The processes that are attributed to a container and the devices that the
engine locates are listed once, and each table is described by a pass over
these lists.
-/

namespace GpuFractioning.Metricsd

open Mapping

section ObservedKeys

/-- No part of the key that stands before a slash has one. -/
def PodGPUKey.SlashFree (key : PodGPUKey) : Prop :=
  '/' ∉ key.namespace_.toList ∧ '/' ∉ key.podUID.toList

def PodGPUKey.SamePod (key key' : PodGPUKey) : Prop :=
  key.namespace_ = key'.namespace_ ∧ key.podUID = key'.podUID

/-- The keys are about one GPU of one pod, by a UUID that is known or by the index. -/
def PodGPUKey.SameDevice (key key' : PodGPUKey) : Prop :=
  key.SamePod key' ∧
    (key'.gpuUUID ≠ "" ∧ key.gpuUUID = key'.gpuUUID ∨ key.gpuIndex = key'.gpuIndex)

variable {key key' : PodGPUKey}

theorem podDevice_inj (h : key.SlashFree) (h' : key'.SlashFree) {rest rest' : String} :
    key.namespace_ ++ "/" ++ key.podUID ++ "/" ++ rest =
        key'.namespace_ ++ "/" ++ key'.podUID ++ "/" ++ rest' ↔
      key.SamePod key' ∧ rest = rest' := by
  have hsplit (k : PodGPUKey) (rest : String) : k.namespace_ ++ "/" ++ k.podUID ++ "/" ++ rest =
      k.namespace_ ++ String.singleton '/' ++ (k.podUID ++ String.singleton '/' ++ rest) := by
    rw [← String.toList_inj]
    simp
  rw [hsplit, hsplit, GoString.append_separator_inj h.1 h'.1,
    GoString.append_separator_inj h.2 h'.2, PodGPUKey.SamePod, and_assoc]

theorem podDeviceUUIDKey_eq (key : PodGPUKey) : podDeviceUUIDKey key =
    key.namespace_ ++ "/" ++ key.podUID ++ "/" ++ ("uuid/" ++ key.gpuUUID) := by
  rw [← String.toList_inj]
  simp [podDeviceUUIDKey]

theorem podDeviceIndexKey_eq (key : PodGPUKey) : podDeviceIndexKey key =
    key.namespace_ ++ "/" ++ key.podUID ++ "/" ++
      ("index/" ++ GoStrconv.formatInt key.gpuIndex) := by
  rw [← String.toList_inj]
  simp [podDeviceIndexKey]

theorem podDeviceUUIDKey_inj (h : key.SlashFree) (h' : key'.SlashFree) :
    podDeviceUUIDKey key = podDeviceUUIDKey key' ↔
      key.SamePod key' ∧ key.gpuUUID = key'.gpuUUID := by
  rw [podDeviceUUIDKey_eq, podDeviceUUIDKey_eq, podDevice_inj h h']
  simp

theorem podDeviceIndexKey_inj (h : key.SlashFree) (h' : key'.SlashFree) :
    podDeviceIndexKey key = podDeviceIndexKey key' ↔
      key.SamePod key' ∧ key.gpuIndex = key'.gpuIndex := by
  rw [podDeviceIndexKey_eq, podDeviceIndexKey_eq, podDevice_inj h h']
  constructor
  · rintro ⟨hpod, hindex⟩
    exact ⟨hpod, GoStrconv.formatInt_injective (by simpa using hindex)⟩
  · rintro ⟨hpod, hindex⟩
    rw [hindex]
    exact ⟨hpod, rfl⟩

theorem podDeviceUUIDKey_ne (h : key.SlashFree) (h' : key'.SlashFree) :
    podDeviceUUIDKey key ≠ podDeviceIndexKey key' := by
  rw [podDeviceUUIDKey_eq, podDeviceIndexKey_eq, ne_eq, podDevice_inj h h']
  rintro ⟨-, hrest⟩
  have hhead := congrArg (fun s : String => s.toList.head?) hrest
  simp at hhead

theorem mem_observed {keys : List PodGPUKey} {observed : Finset String} {text : String} :
    text ∈ keys.foldl observePodDevice observed ↔
      text ∈ observed ∨ ∃ key ∈ keys, text = podDeviceIndexKey key ∨
        key.gpuUUID ≠ "" ∧ text = podDeviceUUIDKey key := by
  induction keys generalizing observed with
  | nil => simp
  | cons key keys ih =>
    rw [List.foldl_cons, ih, observePodDevice]
    by_cases huuid : key.gpuUUID = "" <;> simp [huuid, or_assoc, or_left_comm]

theorem gpuObservedForPodDevice_iff {keys : List PodGPUKey} (hkeys : ∀ k ∈ keys, k.SlashFree)
    (hkey : key.SlashFree) :
    gpuObservedForPodDevice (keys.foldl observePodDevice ∅) key = true ↔
      ∃ k ∈ keys, k.SameDevice key := by
  simp only [gpuObservedForPodDevice, decide_eq_true_eq, mem_observed, Finset.notMem_empty,
    false_or]
  constructor
  · rintro (⟨huuid, k, hk, hindex | ⟨-, htext⟩⟩ | ⟨k, hk, htext | ⟨-, huuid⟩⟩)
    · exact absurd hindex (podDeviceUUIDKey_ne hkey (hkeys k hk))
    · obtain ⟨hpod, hsame⟩ := (podDeviceUUIDKey_inj (hkeys k hk) hkey).mp htext.symm
      exact ⟨k, hk, hpod, Or.inl ⟨huuid, hsame⟩⟩
    · obtain ⟨hpod, hsame⟩ := (podDeviceIndexKey_inj (hkeys k hk) hkey).mp htext.symm
      exact ⟨k, hk, hpod, Or.inr hsame⟩
    · exact absurd huuid.symm (podDeviceUUIDKey_ne (hkeys k hk) hkey)
  · rintro ⟨k, hk, hpod, ⟨huuid, hsame⟩ | hsame⟩
    · refine Or.inl ⟨huuid, k, hk, Or.inr ⟨hsame ▸ huuid, ?_⟩⟩
      exact ((podDeviceUUIDKey_inj (hkeys k hk) hkey).mpr ⟨hpod, hsame⟩).symm
    · refine Or.inr ⟨k, hk, Or.inl ?_⟩
      exact ((podDeviceIndexKey_inj (hkeys k hk) hkey).mpr ⟨hpod, hsame⟩).symm

end ObservedKeys

section Tables

/-- The processes that count, each with its container. -/
def PodSource.attributed (pods : PodSource) (processes : List GPUProcessMetric) :
    List (ContainerInfo × GPUProcessMetric) :=
  processes.filterMap fun process =>
    if process.pid = 0 then none
    else (pods.resolveProcess process).map fun container => (container, process)

/-- The devices that are found, each with its container. -/
def Engine.located (e : Engine) (pods : PodSource) : List (PodGPUKey × ContainerInfo) :=
  pods.devices.filterMap fun entry =>
    (e.idlePodGPUKey entry.1 entry.2).map fun key => (key, entry.1)

/-- What a process adds to the metric of its key. -/
def PodGPUMetric.add (metric : PodGPUMetric) (process : GPUProcessMetric) : PodGPUMetric :=
  { metric with
    memoryBytes := (metric.memoryBytes + process.usedGPUMemoryBytes) % 2 ^ 64
    smUtilizationPercent := metric.smUtilizationPercent + process.smUtilizationPercent }

/-- A loop of requests for memory. -/
def recordAll (requests : List (PodGPUKey × ContainerInfo)) (memByKey : RequestedMemory) :
    RequestedMemory :=
  requests.foldl (fun mem request =>
    recordRequestedMemory mem request.1 request.2.containerID request.2.requestedMemoryMiB) memByKey

theorem foldl_addProcess (pods : PodSource) (processes : List GPUProcessMetric)
    (acc : Enrichment) :
    let attributed := pods.attributed processes
    let after := processes.foldl (Enrichment.addProcess pods) acc
    after.byPodGPU = FiniteMap.accumulate (fun a => processKey a.1 a.2) idlePodGPUMetric
        (fun metric a => metric.add a.2) attributed acc.byPodGPU ∧
      after.observedPodDevices =
        (attributed.map fun a => processKey a.1 a.2).foldl observePodDevice acc.observedPodDevices ∧
      after.memByKey =
        recordAll (attributed.map fun a => (processKey a.1 a.2, a.1)) acc.memByKey := by
  induction processes generalizing acc with
  | nil => exact ⟨rfl, rfl, rfl⟩
  | cons process processes ih =>
    have hstep := ih (acc.addProcess pods process)
    dsimp only [List.foldl_cons] at hstep ⊢
    obtain ⟨hmetrics, hobserved, hmemory⟩ := hstep
    rw [hmetrics, hobserved, hmemory]
    by_cases hpid : process.pid = 0
    · simp [PodSource.attributed, Enrichment.addProcess, hpid]
    · cases hres : pods.resolveProcess process with
      | none => simp [PodSource.attributed, Enrichment.addProcess, hpid, hres]
      | some container =>
        simp only [PodSource.attributed, Enrichment.addProcess, hpid, hres, if_false,
          List.filterMap_cons, Option.map_some]
        exact ⟨rfl, rfl, rfl⟩

theorem foldl_addIdle (e : Engine) (entries : List (ContainerInfo × GPUDevice))
    (acc : Enrichment) :
    let located := entries.filterMap fun entry =>
      (e.idlePodGPUKey entry.1 entry.2).map fun key => (key, entry.1)
    let after := entries.foldl (Enrichment.addIdle e.idlePodGPUKey) acc
    after.byPodGPU = (located.map Prod.fst).foldl (fun m key =>
        if (m.lookup key).isSome ∨ gpuObservedForPodDevice acc.observedPodDevices key then m
        else m.insert key (idlePodGPUMetric key)) acc.byPodGPU ∧
      after.memByKey = recordAll located acc.memByKey := by
  induction entries generalizing acc with
  | nil => exact ⟨rfl, rfl⟩
  | cons entry entries ih =>
    have hstep := ih (acc.addIdle e.idlePodGPUKey entry)
    dsimp only [List.foldl_cons] at hstep ⊢
    obtain ⟨hmetrics, hmemory⟩ := hstep
    rw [hmetrics, hmemory]
    cases hkey : e.idlePodGPUKey entry.1 entry.2 with
    | none => simp [Enrichment.addIdle, hkey]
    | some key =>
      by_cases hkept : (acc.byPodGPU.lookup key).isSome ∨
          gpuObservedForPodDevice acc.observedPodDevices key
      · simp [Enrichment.addIdle, hkey, hkept, recordAll]
      · simp [Enrichment.addIdle, hkey, hkept, recordAll]

/-- The attributed processes that are counted under one key. -/
def PodSource.processesOf (pods : PodSource) (processes : List GPUProcessMetric)
    (key : PodGPUKey) : List (ContainerInfo × GPUProcessMetric) :=
  (pods.attributed processes).filter fun a => processKey a.1 a.2 = key

/-- A device of a pod that some attributed process is on. -/
def PodSource.observed (pods : PodSource) (processes : List GPUProcessMetric) (key : PodGPUKey) :
    Bool :=
  gpuObservedForPodDevice
    (((pods.attributed processes).map fun a => processKey a.1 a.2).foldl observePodDevice ∅) key

/-- Whom the memory of which key is requested by, in the order it is recorded. -/
def Engine.requests (e : Engine) (processes : List GPUProcessMetric) (pods : PodSource) :
    List (PodGPUKey × ContainerInfo) :=
  ((pods.attributed processes).map fun a => (processKey a.1 a.2, a.1)) ++ e.located pods

/-- A key has the sum of its processes; without any, an idle device that is not observed
has an empty metric. -/
theorem lookup_enrichment (e : Engine) (processes : List GPUProcessMetric) (pods : PodSource)
    (key : PodGPUKey) :
    (e.enrichment processes pods).byPodGPU.lookup key =
      if pods.processesOf processes key ≠ [] then
        some ((pods.processesOf processes key).foldl (fun metric a => metric.add a.2)
          (idlePodGPUMetric key))
      else if key ∈ (e.located pods).map Prod.fst ∧ ¬pods.observed processes key = true then
        some (idlePodGPUMetric key)
      else none := by
  obtain ⟨hmetrics, hobserved, -⟩ := foldl_addProcess pods processes Enrichment.empty
  obtain ⟨hidle, -⟩ := foldl_addIdle e pods.devices
    (processes.foldl (Enrichment.addProcess pods) Enrichment.empty)
  rw [Engine.enrichment, hidle, FiniteMap.lookup_foldl_addMissing _
    (fun k => pods.observed processes k = true) idlePodGPUMetric, hmetrics,
    FiniteMap.lookup_accumulate]
  · change Option.or (if pods.processesOf processes key = [] then _ else _) _ = _
    by_cases hprocesses : pods.processesOf processes key = []
    · rw [if_pos hprocesses, if_neg (not_not.mpr hprocesses)]
      rfl
    · rw [if_neg hprocesses, if_pos hprocesses]
      rfl
  · intro m k
    rw [hobserved]
    rfl

theorem enrichment_memByKey (e : Engine) (processes : List GPUProcessMetric) (pods : PodSource) :
    (e.enrichment processes pods).memByKey = recordAll (e.requests processes pods) ∅ := by
  obtain ⟨-, -, hmemory⟩ := foldl_addProcess pods processes Enrichment.empty
  obtain ⟨-, hidle⟩ := foldl_addIdle e pods.devices
    (processes.foldl (Enrichment.addProcess pods) Enrichment.empty)
  rw [Engine.enrichment, hidle, hmemory, Engine.requests, recordAll, recordAll, recordAll,
    List.foldl_append]
  rfl

theorem recordAll_eq_accumulate (requests : List (PodGPUKey × ContainerInfo))
    (memByKey : RequestedMemory) :
    recordAll requests memByKey =
      FiniteMap.accumulate Prod.fst (fun _ => ∅)
        (fun inner r => inner.insert r.2.containerID r.2.requestedMemoryMiB)
        (requests.filter fun r => 0 < r.2.requestedMemoryMiB ∧ r.2.containerID ≠ "") memByKey := by
  rw [FiniteMap.accumulate, List.foldl_filter, recordAll]
  congr 1
  funext mem request
  unfold recordRequestedMemory
  by_cases hamount : request.2.requestedMemoryMiB ≤ 0
  · simp [hamount]
  · by_cases hid : request.2.containerID = "" <;> simp [hamount, hid, not_le.mp hamount]

theorem requested_lookup (requests : List (PodGPUKey × ContainerInfo)) (key : PodGPUKey) :
    ((recordAll requests ∅).lookup key).getD ∅ =
      FiniteMap.insertAll (fun r => r.2.containerID) (fun r => r.2.requestedMemoryMiB)
        ((requests.filter fun r => 0 < r.2.requestedMemoryMiB ∧ r.2.containerID ≠ "").filter
          (·.1 = key)) ∅ := by
  rw [recordAll_eq_accumulate, FiniteMap.lookup_accumulate]
  split_ifs with hnone
  · rw [hnone]
    rfl
  · rfl

theorem foldl_add (attributed : List (ContainerInfo × GPUProcessMetric)) (metric : PodGPUMetric)
    (hbytes : metric.memoryBytes < 2 ^ 64) :
    attributed.foldl (fun metric a => metric.add a.2) metric =
      { metric with
        memoryBytes :=
          (metric.memoryBytes + (attributed.map fun a => a.2.usedGPUMemoryBytes).sum) % 2 ^ 64
        smUtilizationPercent := metric.smUtilizationPercent +
          (attributed.map fun a => (a.2.smUtilizationPercent : ℚ)).sum } := by
  induction attributed generalizing metric with
  | nil =>
    simp only [List.foldl_nil, List.map_nil, List.sum_nil, add_zero, Nat.mod_eq_of_lt hbytes]
  | cons a attributed ih =>
    rw [List.foldl_cons, ih (metric.add a.2) (Nat.mod_lt _ (by decide))]
    simp [PodGPUMetric.add, add_assoc]

end Tables

section Attribution

/-- The process counts, and it is one of the container. -/
def PodSource.Attributes (pods : PodSource) (processes : List GPUProcessMetric)
    (container : ContainerInfo) (process : GPUProcessMetric) : Prop :=
  process ∈ processes ∧ process.pid ≠ 0 ∧ pods.resolveProcess process = some container

variable {processes : List GPUProcessMetric} {pods : PodSource}

theorem mem_attributed {container : ContainerInfo} {process : GPUProcessMetric} :
    (container, process) ∈ pods.attributed processes ↔
      pods.Attributes processes container process := by
  simp only [PodSource.attributed, PodSource.Attributes, List.mem_filterMap]
  constructor
  · rintro ⟨process', hmem, hres⟩
    by_cases hpid : process'.pid = 0
    · simp [hpid] at hres
    · rw [if_neg hpid] at hres
      obtain ⟨container', hcontainer, heq⟩ := Option.map_eq_some_iff.mp hres
      cases heq
      exact ⟨hmem, hpid, hcontainer⟩
  · rintro ⟨hmem, hpid, hres⟩
    exact ⟨process, hmem, by simp [hpid, hres]⟩

theorem PodSource.Attributes.active {container : ContainerInfo} {process : GPUProcessMetric}
    (h : pods.Attributes processes container process) : container ∈ pods.activeContainers :=
  pods.resolved_mem process container h.2.2

theorem processesOf_ne_nil {key : PodGPUKey} :
    pods.processesOf processes key ≠ [] ↔
      ∃ container process, pods.Attributes processes container process ∧
        processKey container process = key := by
  simp only [PodSource.processesOf, ne_eq, List.filter_eq_nil_iff, Prod.forall, mem_attributed,
    decide_eq_true_eq, not_forall, not_not, exists_prop]

theorem observed_iff (hslash : ∀ container ∈ pods.activeContainers,
      '/' ∉ container.namespace_.toList ∧ '/' ∉ container.podUID.toList)
    {key : PodGPUKey} (hkey : key.SlashFree) :
    pods.observed processes key = true ↔
      ∃ container process, pods.Attributes processes container process ∧
        (processKey container process).SameDevice key := by
  unfold PodSource.observed
  rw [gpuObservedForPodDevice_iff ?_ hkey]
  · simp only [List.mem_map, Prod.exists, mem_attributed]
    constructor
    · rintro ⟨_, ⟨container, process, hattributed, rfl⟩, hsame⟩
      exact ⟨container, process, hattributed, hsame⟩
    · rintro ⟨container, process, hattributed, hsame⟩
      exact ⟨_, ⟨container, process, hattributed, rfl⟩, hsame⟩
  · intro k hk
    obtain ⟨⟨container, process⟩, hmem, rfl⟩ := List.mem_map.mp hk
    exact hslash container (mem_attributed.mp hmem).active

end Attribution

end GpuFractioning.Metricsd
