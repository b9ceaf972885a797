import GpuFractioning.Metricsd.Collects
import GpuFractioning.Metricsd.EnrichTables

/-!
# One series for each pod and GPU

Records that fractiond writes name a device by its minor number. However the
learned maps and the processes of a snapshot combine, a pod has one series for
each index, and every device that can be located has a series.
-/

namespace GpuFractioning.Metricsd

open Mapping

/-- A record of the device with this minor number, in the field of its own or, as old records
have it, in the field of the index. -/
def RecordsMinor (device : GPUDevice) (minor : ℤ) : Prop :=
  device = ⟨0, minor, ""⟩ ∨ device = ⟨minor, 0, ""⟩

theorem RecordsMinor.recordedMinor {device : GPUDevice} {minor : ℤ}
    (h : RecordsMinor device minor) : Engine.recordedMinor device = minor := by
  rcases h with rfl | rfl
  · simp [Engine.recordedMinor]
  · by_cases hminor : minor = 0 <;> simp [Engine.recordedMinor, hminor]

theorem RecordsMinor.uuid {device : GPUDevice} {minor : ℤ} (h : RecordsMinor device minor) :
    device.uuid = "" := by
  rcases h with rfl | rfl <;> rfl

/-- The processes carry the UUIDs of the snapshot, the records minor numbers, and a pod has one
name. -/
structure Cycle.Regular (cycle : Cycle) : Prop where
  processes : ∀ process ∈ cycle.nvml.processes, process.gpuUUID ≠ "" ∧
    cycle.nvml.deviceUUIDs.lookup process.gpuIndex = some process.gpuUUID
  records : ∀ container ∈ cycle.pods.activeContainers, ∀ device ∈ container.gpuDevices,
    ∃ minor, RecordsMinor device minor
  names : ∀ container ∈ cycle.pods.activeContainers, ∀ other ∈ cycle.pods.activeContainers,
    container.podUID = other.podUID →
      container.namespace_ = other.namespace_ ∧ container.pod = other.pod
  slashFree : ∀ container ∈ cycle.pods.activeContainers,
    '/' ∉ container.namespace_.toList ∧ '/' ∉ container.podUID.toList

/-- What a snapshot has of the active containers, as far as their devices were located. -/
structure Engine.Covers (e : Engine) (pods : PodSource) : Prop where
  unique : (e.snapshot.metrics.map fun m => (m.namespace_, m.podUID, m.gpuIndex)).Nodup
  active : ∀ m ∈ e.snapshot.metrics, ∃ container ∈ pods.activeContainers,
    m.namespace_ = container.namespace_ ∧ m.pod = container.pod ∧ m.podUID = container.podUID
  complete : ∀ container ∈ pods.activeContainers, ∀ device ∈ container.gpuDevices,
    ∀ minor index, RecordsMinor device minor → e.minorToNVMLIndex.lookup minor = some index →
      ∃ m ∈ e.snapshot.metrics, m.namespace_ = container.namespace_ ∧ m.pod = container.pod ∧
        m.podUID = container.podUID ∧
        (m.gpuIndex = index ∨
          ∃ uuid, uuid ≠ "" ∧ e.deviceUUIDs.lookup index = some uuid ∧ m.gpuUUID = uuid)

section Keys

variable {e : Engine} {cycle : Cycle}

theorem gpuUUID_of_idlePodGPUKey {container : ContainerInfo} {device : GPUDevice}
    {key : PodGPUKey} (hrecord : device.uuid = "")
    (hkey : e.idlePodGPUKey container device = some key) :
    key.gpuUUID = (e.deviceUUIDs.lookup key.gpuIndex).getD "" := by
  unfold Engine.idlePodGPUKey at hkey
  dsimp only at hkey
  rw [if_neg (not_not.mpr hrecord)] at hkey
  by_cases hminors : e.minorToNVMLIndex.keys = []
  · rw [if_neg (not_not.mpr hminors)] at hkey
    cases hkey
    rfl
  · rw [if_pos hminors] at hkey
    cases hminor : e.minorToNVMLIndex.lookup (Engine.recordedMinor device) with
    | none =>
      rw [hminor] at hkey
      cases hkey
    | some index =>
      rw [hminor] at hkey
      cases hkey
      rfl

theorem idlePodGPUKey_of_minor {container : ContainerInfo} {device : GPUDevice} {minor index : ℤ}
    (hminor : RecordsMinor device minor) (hindex : e.minorToNVMLIndex.lookup minor = some index) :
    e.idlePodGPUKey container device = some
      { namespace_ := container.namespace_
        pod := container.pod
        podUID := container.podUID
        gpuUUID := (e.deviceUUIDs.lookup index).getD ""
        gpuIndex := index } := by
  have hminors : e.minorToNVMLIndex.keys ≠ [] := by
    have hmem : minor ∈ e.minorToNVMLIndex :=
      AList.lookup_isSome.mp (by rw [hindex]; rfl)
    exact List.ne_nil_of_mem (AList.mem_keys.mp hmem)
  unfold Engine.idlePodGPUKey
  rw [if_neg (not_not.mpr hminor.uuid), if_pos hminors, hminor.recordedMinor, hindex]

theorem mem_devices {pods : PodSource} {container : ContainerInfo} {device : GPUDevice} :
    (container, device) ∈ pods.devices ↔
      container ∈ pods.activeContainers ∧ device ∈ container.gpuDevices := by
  simp only [PodSource.devices, List.mem_flatMap, List.mem_map, Prod.mk.injEq]
  constructor
  · rintro ⟨container', hcontainer, device', hdevice, rfl, rfl⟩
    exact ⟨hcontainer, hdevice⟩
  · rintro ⟨hcontainer, hdevice⟩
    exact ⟨container, hcontainer, device, hdevice, rfl, rfl⟩

theorem gpuUUID_of_sourced (hregular : cycle.Regular) {key : PodGPUKey}
    (hkey : (e.remember cycle.nvml).Sourced cycle.nvml.processes cycle.pods key) :
    key.gpuUUID = ((e.remember cycle.nvml).deviceUUIDs.lookup key.gpuIndex).getD "" := by
  rcases hkey with ⟨process, hprocess, -, container, -, rfl⟩ | ⟨⟨container, device⟩, hentry, hkey⟩
  · obtain ⟨hne, hlookup⟩ := hregular.processes process hprocess
    change process.gpuUUID = ((e.remember cycle.nvml).deviceUUIDs.lookup process.gpuIndex).getD ""
    rw [remember_deviceUUIDs, hlookup, Option.filter_some_pos (by simpa using hne)]
    rfl
  · obtain ⟨hcontainer, hdevice⟩ := mem_devices.mp hentry
    obtain ⟨minor, hminor⟩ := hregular.records container hcontainer device hdevice
    exact gpuUUID_of_idlePodGPUKey hminor.uuid hkey

theorem exists_container_of_sourced {processes : List GPUProcessMetric} {pods : PodSource}
    {key : PodGPUKey} (hkey : e.Sourced processes pods key) :
    ∃ container ∈ pods.activeContainers, key.namespace_ = container.namespace_ ∧
      key.pod = container.pod ∧ key.podUID = container.podUID := by
  rcases hkey with ⟨process, -, -, container, hres, rfl⟩ | ⟨⟨container, device⟩, hentry, hkey⟩
  · exact ⟨container, pods.resolved_mem process container hres, rfl, rfl, rfl⟩
  · exact ⟨container, (mem_devices.mp hentry).1, idlePodGPUKey_pod hkey⟩

theorem sourced_inj (hregular : cycle.Regular) {key key' : PodGPUKey}
    (hkey : (e.remember cycle.nvml).Sourced cycle.nvml.processes cycle.pods key)
    (hkey' : (e.remember cycle.nvml).Sourced cycle.nvml.processes cycle.pods key')
    (huid : key.podUID = key'.podUID) (hindex : key.gpuIndex = key'.gpuIndex) : key = key' := by
  have huuid : key.gpuUUID = key'.gpuUUID := by
    rw [gpuUUID_of_sourced hregular hkey, gpuUUID_of_sourced hregular hkey', hindex]
  obtain ⟨container, hcontainer, hns, hpod, hpodUID⟩ := exists_container_of_sourced hkey
  obtain ⟨other, hother, hns', hpod', hpodUID'⟩ := exists_container_of_sourced hkey'
  obtain ⟨hsameNs, hsamePod⟩ := hregular.names container hcontainer other hother
    (by rw [← hpodUID, huid, hpodUID'])
  obtain ⟨ns, pod, uid, uuid, index⟩ := key
  obtain ⟨ns', pod', uid', uuid', index'⟩ := key'
  simp only at huid hindex huuid hns hpod hns' hpod'
  rw [PodGPUKey.mk.injEq]
  exact ⟨by rw [hns, hns', hsameNs], by rw [hpod, hpod', hsamePod], huid, huuid, hindex⟩

/-- A located device has a series of its own, or its pod has one on the same index or UUID. -/
theorem exists_series_of_located (hregular : cycle.Regular) {container : ContainerInfo}
    {device : GPUDevice} {key : PodGPUKey} (hcontainer : container ∈ cycle.pods.activeContainers)
    (hdevice : device ∈ container.gpuDevices)
    (hkey : e.idlePodGPUKey container device = some key) :
    ∃ series ∈ (e.enrich cycle.nvml.processes cycle.pods).1.map PodGPUMetric.key,
      series.SameDevice key := by
  have hself : key.SameDevice key := ⟨⟨rfl, rfl⟩, Or.inr rfl⟩
  have hlocated : key ∈ (e.located cycle.pods).map Prod.fst := by
    refine List.mem_map.mpr ⟨(key, container), List.mem_filterMap.mpr ?_, rfl⟩
    exact ⟨(container, device), mem_devices.mpr ⟨hcontainer, hdevice⟩, by rw [hkey]; rfl⟩
  have hslash : key.SlashFree := by
    obtain ⟨hns, -, huid⟩ := idlePodGPUKey_pod hkey
    rw [PodGPUKey.SlashFree, hns, huid]
    exact hregular.slashFree container hcontainer
  simp only [mem_enrich_keys, lookup_enrichment]
  by_cases hprocesses : cycle.pods.processesOf cycle.nvml.processes key = []
  · by_cases hobserved : cycle.pods.observed cycle.nvml.processes key = true
    · obtain ⟨other, process, hattributed, hsame⟩ :=
        (observed_iff hregular.slashFree hslash).mp hobserved
      have hcounted : cycle.pods.processesOf cycle.nvml.processes (processKey other process) ≠ [] :=
        processesOf_ne_nil.mpr ⟨other, process, hattributed, rfl⟩
      exact ⟨processKey other process, by rw [if_pos hcounted]; rfl, hsame⟩
    · refine ⟨key, ?_, hself⟩
      rw [if_neg (not_not.mpr hprocesses), if_pos ⟨hlocated, hobserved⟩]
      rfl
  · refine ⟨key, ?_, hself⟩
    rw [if_pos hprocesses]
    rfl

end Keys

section Coverage

variable (e : Engine) {cycle : Cycle}

theorem step_podIndex_nodup (hregular : cycle.Regular) :
    ((e.step cycle).snapshot.metrics.map fun m => (m.namespace_, m.podUID, m.gpuIndex)).Nodup := by
  have hpairs : (e.step cycle).snapshot.metrics.map
      (fun m => (m.namespace_, m.podUID, m.gpuIndex)) =
      ((e.step cycle).snapshot.metrics.map PodGPUMetric.key).map
        fun key => (key.namespace_, key.podUID, key.gpuIndex) := by
    rw [List.map_map]
    rfl
  rw [hpairs]
  refine (collect_keys_nodup e cycle.pods cycle.nvml).map_on ?_
  intro key hkey key' hkey' heq
  obtain ⟨m, hm, rfl⟩ := List.mem_map.mp hkey
  obtain ⟨m', hm', rfl⟩ := List.mem_map.mp hkey'
  simp only [Prod.mk.injEq] at heq
  exact sourced_inj hregular (sourced_of_mem_collect hm) (sourced_of_mem_collect hm') heq.2.1
    heq.2.2

theorem exists_metric_of_minor (hregular : cycle.Regular) {container : ContainerInfo}
    (hcontainer : container ∈ cycle.pods.activeContainers) {device : GPUDevice}
    (hdevice : device ∈ container.gpuDevices) {minor index : ℤ}
    (hminor : RecordsMinor device minor)
    (hindex : (e.remember cycle.nvml).minorToNVMLIndex.lookup minor = some index) :
    ∃ m ∈ (e.step cycle).snapshot.metrics, m.namespace_ = container.namespace_ ∧
      m.pod = container.pod ∧ m.podUID = container.podUID ∧
      (m.gpuIndex = index ∨ ∃ uuid, uuid ≠ "" ∧
        (e.remember cycle.nvml).deviceUUIDs.lookup index = some uuid ∧ m.gpuUUID = uuid) := by
  obtain ⟨series, hseries, ⟨hns, huid⟩, hdevice⟩ := exists_series_of_located hregular
    hcontainer hdevice (idlePodGPUKey_of_minor hminor hindex)
  rw [← collect_keys e cycle.pods cycle.nvml (List.ne_nil_of_mem hcontainer)] at hseries
  obtain ⟨m, hm, rfl⟩ := List.mem_map.mp hseries
  obtain ⟨other, hother, -, hpod, hpodUID⟩ := exists_container_of_mem_collect hm
  have hname := hregular.names other hother container hcontainer (hpodUID ▸ huid)
  refine ⟨m, hm, hns, hpod.trans hname.2, huid, ?_⟩
  rcases hdevice with ⟨hne, huuid⟩ | hsame
  · right
    cases hlookup : (e.remember cycle.nvml).deviceUUIDs.lookup index with
    | none => simp [hlookup] at hne
    | some uuid =>
      rw [hlookup] at hne huuid
      exact ⟨uuid, hne, rfl, huuid⟩
  · exact Or.inl hsame

theorem covers_step (hregular : cycle.Regular) : (e.step cycle).Covers cycle.pods where
  unique := step_podIndex_nodup e hregular
  active m hm := exists_container_of_mem_collect hm
  complete := by
    intro container hcontainer device hdevice minor index hminor hindex
    obtain ⟨buf, snapshot, hframe⟩ := collect_frame e cycle.pods cycle.nvml
    rw [if_neg (List.ne_nil_of_mem hcontainer)] at hframe
    have hminors : (e.step cycle).minorToNVMLIndex = (e.remember cycle.nvml).minorToNVMLIndex := by
      rw [Engine.step, hframe]
    have huuids : (e.step cycle).deviceUUIDs = (e.remember cycle.nvml).deviceUUIDs := by
      rw [Engine.step, hframe]
    rw [hminors] at hindex
    rw [huuids]
    exact exists_metric_of_minor e hregular hcontainer hdevice hminor hindex

end Coverage

end GpuFractioning.Metricsd
