import GpuFractioning.Metricsd.Collects
import GpuFractioning.Metricsd.EnrichTables

/-!
# A reference for `enrich`

What a collect should report, without tables and without an order of
iteration: which series there are, and what each of them sums up.
-/

namespace GpuFractioning.Metricsd

open Mapping

section Reference

/-- Every UUID is remembered for one index only. -/
def Engine.UUIDsDistinct (e : Engine) : Prop :=
  ∀ i j uuid, e.deviceUUIDs.lookup i = some uuid → e.deviceUUIDs.lookup j = some uuid → i = j

/-- The UUID and the NVML index of a recorded device, where it has them. -/
def Engine.Locates (e : Engine) (device : GPUDevice) (uuid : String) (index : ℤ) : Prop :=
  if device.uuid ≠ "" then
    uuid = device.uuid ∧
      (e.deviceUUIDs.lookup index = some uuid ∨
        (∀ i, e.deviceUUIDs.lookup i ≠ some uuid) ∧ index = device.index)
  else if e.minorToNVMLIndex.keys ≠ [] then
    e.minorToNVMLIndex.lookup (recordedMinor device) = some index ∧
      uuid = (e.deviceUUIDs.lookup index).getD ""
  else index = device.index ∧ uuid = (e.deviceUUIDs.lookup index).getD ""

/-- The key under which a device of a container is idle. -/
def Engine.IdleKey (e : Engine) (container : ContainerInfo) (device : GPUDevice)
    (key : PodGPUKey) : Prop :=
  key.namespace_ = container.namespace_ ∧ key.pod = container.pod ∧
    key.podUID = container.podUID ∧ e.Locates device key.gpuUUID key.gpuIndex

/-- Active containers that can be told apart by their IDs, of pods that can be told apart by
their names. -/
structure PodSource.Identified (pods : PodSource) : Prop where
  distinct : (pods.activeContainers.map ContainerInfo.containerID).Nodup
  nonempty : ∀ container ∈ pods.activeContainers, container.containerID ≠ ""
  slashFree : ∀ container ∈ pods.activeContainers,
    '/' ∉ container.namespace_.toList ∧ '/' ∉ container.podUID.toList

variable (e : Engine) (processes : List GPUProcessMetric) (pods : PodSource)

/-- A series is that of an attributed process, or of an idle device whose pod has no
attributed process on the same UUID or the same index. -/
def Engine.HasSeries (key : PodGPUKey) : Prop :=
  (∃ container process, pods.Attributes processes container process ∧
    processKey container process = key) ∨
  (∃ container ∈ pods.activeContainers, ∃ device ∈ container.gpuDevices,
    e.IdleKey container device key) ∧
    ¬∃ container process, pods.Attributes processes container process ∧
      (processKey container process).SameDevice key

/-- The container has an attributed process under the key or a device whose idle key it is. -/
def Engine.Uses (key : PodGPUKey) (container : ContainerInfo) : Prop :=
  (∃ process, pods.Attributes processes container process ∧ processKey container process = key) ∨
    ∃ device ∈ container.gpuDevices, e.IdleKey container device key

open Classical in
/-- The memory that the containers under a key request, each counted once. -/
noncomputable def Engine.requestedMiB (key : PodGPUKey) : ℤ :=
  ((pods.activeContainers.filter fun container =>
    e.Uses processes pods key container ∧ 0 < container.requestedMemoryMiB).map
      ContainerInfo.requestedMemoryMiB).sum

/-- The processes that count under a key. -/
def PodSource.counted (key : PodGPUKey) : List GPUProcessMetric :=
  processes.filter fun process => process.pid ≠ 0 ∧
    (pods.resolveProcess process).map (processKey · process) = some key

noncomputable def Engine.referenceMetric (key : PodGPUKey) : PodGPUMetric :=
  { idlePodGPUMetric key with
    memoryBytes :=
      ((pods.counted processes key).map GPUProcessMetric.usedGPUMemoryBytes).sum % 2 ^ 64
    smUtilizationPercent := min 100
      ((pods.counted processes key).map fun p => (p.smUtilizationPercent : ℚ)).sum
    requestedGPUFraction :=
      let total := (e.deviceTotalMemoryBytes.lookup key.gpuIndex).getD 0
      if total = 0 then 0 else e.requestedMiB processes pods key * 2 ^ 20 / total }

end Reference

section Locating

variable {e : Engine}

theorem indexForUUID_eq_some (hdistinct : e.UUIDsDistinct) {uuid : String} {i : ℤ} :
    e.indexForUUID uuid = some i ↔ e.deviceUUIDs.lookup i = some uuid := by
  unfold Engine.indexForUUID
  rw [Option.map_eq_some_iff]
  constructor
  · rintro ⟨entry, hentry, rfl⟩
    have huuid : entry.2 = uuid := by simpa using List.find?_some hentry
    rw [← huuid]
    exact FiniteMap.mem_pairs.mp (List.mem_of_find?_eq_some hentry)
  · intro hi
    cases hfind : e.deviceUUIDs.pairs.find? fun entry => entry.2 = uuid with
    | none =>
      exact absurd (List.find?_eq_none.mp hfind (i, uuid) (FiniteMap.mem_pairs.mpr hi)) (by simp)
    | some entry =>
      have huuid : entry.2 = uuid := by simpa using List.find?_some hfind
      have hentry : e.deviceUUIDs.lookup entry.1 = some uuid :=
        huuid ▸ FiniteMap.mem_pairs.mp (List.mem_of_find?_eq_some hfind)
      exact ⟨entry, rfl, hdistinct _ _ _ hentry hi⟩

theorem indexForUUID_eq_none {uuid : String} :
    e.indexForUUID uuid = none ↔ ∀ i, e.deviceUUIDs.lookup i ≠ some uuid := by
  unfold Engine.indexForUUID
  rw [Option.map_eq_none_iff, List.find?_eq_none]
  constructor
  · intro h i hi
    exact absurd (h (i, uuid) (FiniteMap.mem_pairs.mpr hi)) (by simp)
  · rintro h ⟨i, uuid'⟩ hentry
    simp only [decide_eq_true_eq]
    rintro rfl
    exact h i (FiniteMap.mem_pairs.mp hentry)

theorem some_key_eq_iff {container : ContainerInfo} {uuid : String} {index : ℤ} {key : PodGPUKey}
    {located : Prop} (hlocated : uuid = key.gpuUUID ∧ index = key.gpuIndex ↔ located) :
    (some (⟨container.namespace_, container.pod, container.podUID, uuid, index⟩ : PodGPUKey) =
        some key) ↔
      key.namespace_ = container.namespace_ ∧ key.pod = container.pod ∧
        key.podUID = container.podUID ∧ located := by
  obtain ⟨ns, pod, uid, uuid', index'⟩ := key
  rw [← hlocated, Option.some.injEq, PodGPUKey.mk.injEq, eq_comm, @eq_comm _ container.pod,
    @eq_comm _ container.podUID]

/-- With distinct UUIDs the order in which they are searched does not matter. -/
theorem idlePodGPUKey_eq_some (hdistinct : e.UUIDsDistinct) {container : ContainerInfo}
    {device : GPUDevice} {key : PodGPUKey} :
    e.idlePodGPUKey container device = some key ↔ e.IdleKey container device key := by
  unfold Engine.idlePodGPUKey Engine.IdleKey Engine.Locates
  dsimp only
  by_cases huuid : device.uuid = ""
  · rw [if_neg (not_not.mpr huuid), if_neg (not_not.mpr huuid)]
    by_cases hminors : e.minorToNVMLIndex.keys = []
    · rw [if_neg (not_not.mpr hminors), if_neg (not_not.mpr hminors)]
      apply some_key_eq_iff
      constructor
      · rintro ⟨huuid', hindex⟩
        exact ⟨hindex.symm, hindex ▸ huuid'.symm⟩
      · rintro ⟨hindex, huuid'⟩
        exact ⟨hindex ▸ huuid'.symm, hindex.symm⟩
    · rw [if_pos hminors, if_pos hminors]
      cases hminor : e.minorToNVMLIndex.lookup (Engine.recordedMinor device) with
      | none => simp
      | some nvmlIdx =>
        apply some_key_eq_iff
        constructor
        · rintro ⟨huuid', hindex⟩
          exact ⟨congrArg some hindex, hindex ▸ huuid'.symm⟩
        · rintro ⟨hindex, huuid'⟩
          cases hindex
          exact ⟨huuid'.symm, rfl⟩
  · rw [if_pos huuid, if_pos huuid]
    apply some_key_eq_iff
    rw [eq_comm]
    refine and_congr_right fun hkey => ?_
    rw [hkey]
    cases hindex : e.indexForUUID device.uuid with
    | none =>
      have hunknown := indexForUUID_eq_none.mp hindex
      constructor
      · intro h
        exact Or.inr ⟨hunknown, h.symm⟩
      · rintro (hknown | ⟨-, h⟩)
        · exact absurd hknown (hunknown _)
        · exact h.symm
    | some i =>
      have hi := (indexForUUID_eq_some hdistinct).mp hindex
      constructor
      · rintro rfl
        exact Or.inl hi
      · rintro (hknown | ⟨hunknown, -⟩)
        · exact hdistinct _ _ _ hi hknown
        · exact absurd hi (hunknown i)

end Locating

section Agreement

variable {e : Engine} {processes : List GPUProcessMetric} {pods : PodSource}

theorem mem_located (hdistinct : e.UUIDsDistinct) {key : PodGPUKey} {container : ContainerInfo} :
    (key, container) ∈ e.located pods ↔ container ∈ pods.activeContainers ∧
      ∃ device ∈ container.gpuDevices, e.IdleKey container device key := by
  simp only [Engine.located, PodSource.devices, List.mem_filterMap, List.mem_flatMap, List.mem_map]
  constructor
  · rintro ⟨entry, ⟨container', hcontainer, device, hdevice, rfl⟩, hkey⟩
    obtain ⟨key', hkey', heq⟩ := Option.map_eq_some_iff.mp hkey
    cases heq
    exact ⟨hcontainer, device, hdevice, (idlePodGPUKey_eq_some hdistinct).mp hkey'⟩
  · rintro ⟨hcontainer, device, hdevice, hkey⟩
    refine ⟨(container, device), ⟨container, hcontainer, device, hdevice, rfl⟩, ?_⟩
    rw [(idlePodGPUKey_eq_some hdistinct).mpr hkey]
    rfl

theorem mem_requests (hdistinct : e.UUIDsDistinct) {key : PodGPUKey} {container : ContainerInfo} :
    (key, container) ∈ e.requests processes pods ↔
      container ∈ pods.activeContainers ∧ e.Uses processes pods key container := by
  simp only [Engine.requests, List.mem_append, mem_located hdistinct, List.mem_map, Engine.Uses]
  constructor
  · rintro (⟨⟨container', process⟩, hmem, heq⟩ | ⟨hactive, hdevice⟩)
    · cases heq
      have hattributed := mem_attributed.mp hmem
      exact ⟨hattributed.active, Or.inl ⟨process, hattributed, rfl⟩⟩
    · exact ⟨hactive, Or.inr hdevice⟩
  · rintro ⟨hactive, ⟨process, hattributed, rfl⟩ | hdevice⟩
    · exact Or.inl ⟨(container, process), mem_attributed.mpr hattributed, rfl⟩
    · exact Or.inr ⟨hactive, hdevice⟩

theorem map_snd_processesOf (pods : PodSource) (processes : List GPUProcessMetric)
    (key : PodGPUKey) :
    (pods.processesOf processes key).map Prod.snd = pods.counted processes key := by
  induction processes with
  | nil => rfl
  | cons process processes ih =>
    unfold PodSource.processesOf PodSource.attributed PodSource.counted at ih ⊢
    by_cases hpid : process.pid = 0
    · simpa [hpid] using ih
    · cases hres : pods.resolveProcess process with
      | none => simpa [hpid, hres] using ih
      | some container =>
        by_cases hkey : processKey container process = key
        · simpa [hpid, hres, hkey] using ih
        · simpa [hpid, hres, hkey] using ih

theorem mem_map_fst_located (hdistinct : e.UUIDsDistinct) {key : PodGPUKey} :
    key ∈ (e.located pods).map Prod.fst ↔
      ∃ container ∈ pods.activeContainers, ∃ device ∈ container.gpuDevices,
        e.IdleKey container device key := by
  simp only [List.mem_map, Prod.exists, exists_and_right, exists_eq_right, mem_located hdistinct]

theorem isSome_lookup_enrichment (hdistinct : e.UUIDsDistinct) (hpods : pods.Identified)
    {key : PodGPUKey} :
    ((e.enrichment processes pods).byPodGPU.lookup key).isSome = true ↔
      e.HasSeries processes pods key := by
  rw [lookup_enrichment, Engine.HasSeries, ← processesOf_ne_nil, ← mem_map_fst_located hdistinct]
  by_cases hprocesses : pods.processesOf processes key = []
  · rw [if_neg (not_not.mpr hprocesses)]
    by_cases hlocated : key ∈ (e.located pods).map Prod.fst
    · obtain ⟨container, hactive, _, _, hidle⟩ := (mem_map_fst_located hdistinct).mp hlocated
      have hslash : key.SlashFree := by
        rw [PodGPUKey.SlashFree, hidle.1, hidle.2.2.1]
        exact hpods.slashFree container hactive
      rw [← observed_iff hpods.slashFree hslash]
      by_cases hobserved : pods.observed processes key = true <;>
        simp [hprocesses, hlocated, hobserved]
    · simp [hprocesses, hlocated]
  · simp [hprocesses]

theorem requestedMiB_nonneg (e : Engine) (processes : List GPUProcessMetric) (pods : PodSource)
    (key : PodGPUKey) : 0 ≤ e.requestedMiB processes pods key := by
  classical
  refine List.sum_nonneg fun amount hamount => ?_
  obtain ⟨container, hcontainer, rfl⟩ := List.mem_map.mp hamount
  have hkept := (List.mem_filter.mp hcontainer).2
  exact (of_decide_eq_true hkept).2.le

open Classical in
/-- The containers whose memory counts under a key. -/
noncomputable def Engine.requesters (e : Engine) (processes : List GPUProcessMetric)
    (pods : PodSource) (key : PodGPUKey) : List ContainerInfo :=
  pods.activeContainers.filter fun container =>
    e.Uses processes pods key container ∧ 0 < container.requestedMemoryMiB

/-- The requests that are recorded under a key, a container possibly more than once. -/
def Engine.requestsOf (e : Engine) (processes : List GPUProcessMetric) (pods : PodSource)
    (key : PodGPUKey) : List (PodGPUKey × ContainerInfo) :=
  ((e.requests processes pods).filter fun r =>
    0 < r.2.requestedMemoryMiB ∧ r.2.containerID ≠ "").filter (·.1 = key)

theorem mem_requestsOf (hdistinct : e.UUIDsDistinct) (hpods : pods.Identified) {key : PodGPUKey}
    {r : PodGPUKey × ContainerInfo} :
    r ∈ e.requestsOf processes pods key ↔
      r.1 = key ∧ r.2 ∈ e.requesters processes pods key := by
  obtain ⟨k, container⟩ := r
  simp only [Engine.requestsOf, Engine.requesters, List.mem_filter, decide_eq_true_eq,
    mem_requests hdistinct]
  constructor
  · rintro ⟨⟨⟨hactive, huses⟩, hpos, -⟩, rfl⟩
    exact ⟨rfl, hactive, huses, hpos⟩
  · rintro ⟨rfl, hactive, huses, hpos⟩
    exact ⟨⟨⟨hactive, huses⟩, hpos, hpods.nonempty container hactive⟩, rfl⟩

theorem pairs_requestsOf_perm (hdistinct : e.UUIDsDistinct) (hpods : pods.Identified)
    (key : PodGPUKey) :
    (FiniteMap.insertAll (fun r => r.2.containerID) (fun r => r.2.requestedMemoryMiB)
        (e.requestsOf processes pods key) ∅).pairs.Perm
      ((e.requesters processes pods key).map fun c => (c.containerID, c.requestedMemoryMiB)) := by
  have hagree : ∀ r ∈ e.requestsOf processes pods key, ∀ r' ∈ e.requestsOf processes pods key,
      r.2.containerID = r'.2.containerID → r.2.requestedMemoryMiB = r'.2.requestedMemoryMiB := by
    intro r hr r' hr' hid
    have hactive := (List.mem_filter.mp ((mem_requestsOf hdistinct hpods).mp hr).2).1
    have hactive' := (List.mem_filter.mp ((mem_requestsOf hdistinct hpods).mp hr').2).1
    rw [List.inj_on_of_nodup_map hpods.distinct hactive hactive' hid]
  refine FiniteMap.pairs_perm ?_ ?_
  · refine List.Nodup.of_map Prod.fst ?_
    rw [List.map_map]
    exact (List.filter_sublist.map ContainerInfo.containerID).nodup hpods.distinct
  · intro id amount
    rw [FiniteMap.lookup_insertAll_eq_some hagree, List.mem_map]
    constructor
    · rintro ⟨r, hr, rfl, rfl⟩
      exact ⟨r.2, ((mem_requestsOf hdistinct hpods).mp hr).2, rfl⟩
    · rintro ⟨container, hcontainer, heq⟩
      cases heq
      exact ⟨(key, container), (mem_requestsOf hdistinct hpods).mpr ⟨rfl, hcontainer⟩, rfl, rfl⟩

theorem sumRequestedMemory_eq (hdistinct : e.UUIDsDistinct) (hpods : pods.Identified)
    {key : PodGPUKey} (hsum : e.requestedMiB processes pods key < 2 ^ 63) :
    sumRequestedMemory (((e.enrichment processes pods).memByKey.lookup key).getD ∅) =
      e.requestedMiB processes pods key := by
  let table := FiniteMap.insertAll (fun r : PodGPUKey × ContainerInfo => r.2.containerID)
    (fun r => r.2.requestedMemoryMiB) (e.requestsOf processes pods key) ∅
  have htotal : (table.pairs.map Prod.snd).sum = e.requestedMiB processes pods key := by
    rw [((pairs_requestsOf_perm hdistinct hpods key).map Prod.snd).sum_eq, List.map_map]
    rfl
  have hnonneg := requestedMiB_nonneg e processes pods key
  rw [enrichment_memByKey, requested_lookup]
  change sumRequestedMemory table = _
  have hwrapped := Int.foldl_bmod_add Prod.snd (2 ^ 64) table.pairs 0
  rw [Int.zero_bmod, zero_add, htotal] at hwrapped
  rw [sumRequestedMemory, hwrapped]
  exact Int.bmod_eq_of_le (by omega) (by omega)

theorem gpuFraction_of_nonneg (e : Engine) (index : ℤ) {requested : ℤ} (h : 0 ≤ requested) :
    e.gpuFraction index requested =
      let total := (e.deviceTotalMemoryBytes.lookup index).getD 0
      if total = 0 then 0 else (requested : ℚ) * 2 ^ 20 / total := by
  have hunit : bytesPerMiB = 2 ^ 20 := by norm_num [bytesPerMiB]
  unfold Engine.gpuFraction
  dsimp only
  rw [hunit]
  split_ifs with hnone htotal
  · rfl
  · rw [le_antisymm hnone h]
    simp
  · rfl
  · rfl

theorem reported_eq_reference (hdistinct : e.UUIDsDistinct) (hpods : pods.Identified)
    {key : PodGPUKey} (hsum : e.requestedMiB processes pods key < 2 ^ 63) {metric : PodGPUMetric}
    (hmetric : (e.enrichment processes pods).byPodGPU.lookup key = some metric) :
    { metric with
      smUtilizationPercent :=
        if metric.smUtilizationPercent > maxSMUtilPercent then maxSMUtilPercent
        else metric.smUtilizationPercent
      requestedGPUFraction := e.gpuFraction key.gpuIndex (sumRequestedMemory
        (((e.enrichment processes pods).memByKey.lookup key).getD ∅)) } =
      e.referenceMetric processes pods key := by
  have hfold : metric = (pods.processesOf processes key).foldl (fun metric a => metric.add a.2)
      (idlePodGPUMetric key) := by
    rw [lookup_enrichment] at hmetric
    split_ifs at hmetric with hprocesses
    · exact (Option.some.inj hmetric).symm
    · rw [not_not.mp hprocesses]
      exact (Option.some.inj hmetric).symm
  have hempty : (idlePodGPUMetric key).memoryBytes < 2 ^ 64 := Nat.two_pow_pos 64
  have hcounted {α : Type} (f : GPUProcessMetric → α) :
      (pods.processesOf processes key).map (fun a => f a.2) =
        (pods.counted processes key).map f := by
    rw [← map_snd_processesOf, List.map_map]
    rfl
  rw [sumRequestedMemory_eq hdistinct hpods hsum,
    gpuFraction_of_nonneg e _ (requestedMiB_nonneg e processes pods key), hfold,
    foldl_add _ _ hempty, hcounted GPUProcessMetric.usedGPUMemoryBytes,
    hcounted fun p => (p.smUtilizationPercent : ℚ)]
  simp only [idlePodGPUMetric, zero_add, Engine.referenceMetric, maxSMUtilPercent]
  congr 1
  split_ifs with hover
  · exact (min_eq_left hover.le).symm
  · exact (min_eq_right (not_lt.mp hover)).symm

/-- The metrics of `enrich` are those of the reference, one for each of its series. -/
theorem enrich_eq_reference (hdistinct : e.UUIDsDistinct) (hpods : pods.Identified)
    (hsum : ∀ key, e.requestedMiB processes pods key < 2 ^ 63) :
    (∀ m, m ∈ (e.enrich processes pods).1 ↔
      e.HasSeries processes pods m.key ∧ m = e.referenceMetric processes pods m.key) ∧
    ((e.enrich processes pods).1.map PodGPUMetric.key).Nodup := by
  refine ⟨fun m => ?_, enrich_keys_nodup e processes pods⟩
  unfold Engine.enrich
  simp only [List.mem_map, Prod.exists, FiniteMap.mem_pairs]
  constructor
  · rintro ⟨key, metric, hmetric, rfl⟩
    rw [reported_eq_reference hdistinct hpods (hsum key) hmetric]
    have hsome : ((e.enrichment processes pods).byPodGPU.lookup key).isSome = true := by
      rw [hmetric]
      rfl
    exact ⟨(isSome_lookup_enrichment hdistinct hpods).mp hsome, rfl⟩
  · rintro ⟨hseries, heq⟩
    obtain ⟨metric, hmetric⟩ := Option.isSome_iff_exists.mp
      ((isSome_lookup_enrichment hdistinct hpods).mpr hseries)
    refine ⟨m.key, metric, hmetric, ?_⟩
    rw [reported_eq_reference hdistinct hpods (hsum m.key) hmetric]
    exact heq.symm

/-- One container on a node whose second GPU has no known UUID. -/
def trainer : ContainerInfo :=
  { containerID := "c1"
    container := "trainer"
    pod := "train"
    namespace_ := "ml"
    podUID := "p1"
    cgroupPath := "/kubepods/p1/c1"
    gpuDevices := [⟨0, 1, ""⟩]
    requestedMemoryMiB := 512 }

def trainerProcess : GPUProcessMetric := ⟨7, "", 0, 2048, 30⟩

def trainerSource : PodSource := .single trainer 7

/-- A 1 GiB GPU, of which only the total and the minor are known. -/
def minorOnlyEngine : Engine :=
  { newMetricsController 0 0 with
    minorToNVMLIndex := (∅ : FiniteMap ℤ ℤ).insert 1 1
    deviceTotalMemoryBytes := (∅ : FiniteMap ℤ ℕ).insert 1 (2 ^ 30) }

theorem trainerSource_identified : trainerSource.Identified where
  distinct := by decide
  nonempty := by decide
  slashFree := by decide

theorem minorOnlyEngine_distinct : minorOnlyEngine.UUIDsDistinct := by
  intro i j uuid hi
  cases hi

theorem trainer_requestedMiB (processes : List GPUProcessMetric) (key : PodGPUKey) :
    minorOnlyEngine.requestedMiB processes trainerSource key < 2 ^ 63 := by
  classical
  unfold Engine.requestedMiB
  rw [trainerSource, PodSource.activeContainers_single, List.filter_singleton]
  cases decide (minorOnlyEngine.Uses processes (.single trainer 7) key trainer ∧
      0 < trainer.requestedMemoryMiB) with
  | false => decide
  | true => decide

/-- A process without a UUID and an idle device without a UUID are two series of the pod. -/
theorem unknown_uuids_do_not_suppress :
    minorOnlyEngine.UUIDsDistinct ∧ trainerSource.Identified ∧
      (∀ key, minorOnlyEngine.requestedMiB [trainerProcess] trainerSource key < 2 ^ 63) ∧
      ∃ key ∈ (minorOnlyEngine.enrich [trainerProcess] trainerSource).1.map PodGPUMetric.key,
        (¬∃ container process,
          trainerSource.Attributes [trainerProcess] container process ∧
            processKey container process = key) ∧
        ∃ container process, trainerSource.Attributes [trainerProcess] container process ∧
          (processKey container process).SamePod key ∧ process.gpuUUID = key.gpuUUID := by
  refine ⟨minorOnlyEngine_distinct, trainerSource_identified, trainer_requestedMiB _, ?_⟩
  refine ⟨⟨"ml", "train", "p1", "", 1⟩, by decide, ?_, trainer, trainerProcess,
    ⟨by decide, by decide, rfl⟩, ⟨rfl, rfl⟩, rfl⟩
  rintro ⟨container, process, ⟨hmem, -, -⟩, hkey⟩
  cases List.mem_singleton.mp hmem
  have hindex : (0 : ℤ) = 1 := congrArg PodGPUKey.gpuIndex hkey
  exact absurd hindex (by decide)

theorem enrich_eq_reference_trainer :
    (∀ m, m ∈ (minorOnlyEngine.enrich [trainerProcess] trainerSource).1 ↔
      minorOnlyEngine.HasSeries [trainerProcess] trainerSource m.key ∧
        m = minorOnlyEngine.referenceMetric [trainerProcess] trainerSource m.key) ∧
    ((minorOnlyEngine.enrich [trainerProcess] trainerSource).1.map PodGPUMetric.key).Nodup :=
  enrich_eq_reference minorOnlyEngine_distinct trainerSource_identified (trainer_requestedMiB _)

end Agreement

end GpuFractioning.Metricsd
