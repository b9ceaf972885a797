import GpuFractioning.Metricsd.ExporterRuns

/-!
# Placeholder series

Records identify a device by its minor number. Until NVML has reported, the
engine can resolve neither its index nor its UUID and publishes a placeholder
with an empty UUID, under the index field of the record. Once the device is
resolved the exporter drops the placeholder it finds under the index of the
metric, which is the NVML index.
-/

namespace GpuFractioning.Metricsd

open Mapping

/-- Every device NVML reports comes with its minor number, index and UUID. A
collection that reports nothing is complete in this sense too. -/
structure GPUProcessSnapshot.Complete (nvml : GPUProcessSnapshot) : Prop where
  devices : ∀ minor index, nvml.deviceMinorToNVMLIndex.lookup minor = some index →
    ∃ uuid, uuid ≠ "" ∧ nvml.deviceUUIDs.lookup index = some uuid
  processes : ∀ process ∈ nvml.processes, process.gpuUUID ≠ ""

/-- The records carry minor numbers and nothing else about their devices. -/
def PodSource.ByMinor (pods : PodSource) : Prop :=
  ∀ entry ∈ pods.devices, entry.2.index = 0 ∧ entry.2.uuid = ""

/-- Collects and observes in any order. -/
inductive MetricsState.Reachable (interval smUtilWindow : ℤ) : MetricsState → Prop where
  | new : Reachable interval smUtilWindow (new interval smUtilWindow)
  | collect {s : MetricsState} {pods : PodSource} {nvml : GPUProcessSnapshot}
      (hs : Reachable interval smUtilWindow s) (hpods : pods.ByMinor) (hnvml : nvml.Complete) :
      Reachable interval smUtilWindow (s.collect pods nvml)
  | observe {s : MetricsState} {snapshot : Snapshot} (hs : Reachable interval smUtilWindow s)
      (hsnapshot : snapshot ∈ s.published) : Reachable interval smUtilWindow (s.observe snapshot)

/-- The pod has an exported series without a GPU UUID. -/
def Placeholder (gauges : Gauges) (namespace_ podUID : String) : Prop :=
  ∃ g l, (gauges g).lookup l ≠ none ∧ l.namespace_ = namespace_ ∧ l.podUUID = podUID ∧
    l.gpuUUID = ""

section Engine

/-- The engine knows the UUID of every device it knows the minor number of. -/
def Engine.Resolves (e : Engine) : Prop :=
  ∀ minor index, e.minorToNVMLIndex.lookup minor = some index →
    ∃ uuid, uuid ≠ "" ∧ e.deviceUUIDs.lookup index = some uuid

theorem Engine.Resolves.remember {e : Engine} (h : e.Resolves) {nvml : GPUProcessSnapshot}
    (hnvml : nvml.Complete) : (e.remember nvml).Resolves := by
  intro minor index hminor
  simp only [Engine.remember, Engine.rememberDeviceTotalMemory, Engine.rememberMinorToNVMLIndex,
    FiniteMap.lookup_assignAll] at hminor
  rw [remember_deviceUUIDs]
  cases hnew : nvml.deviceMinorToNVMLIndex.lookup minor with
  | some index' =>
    rw [hnew, Option.some_or] at hminor
    cases hminor
    obtain ⟨uuid, hne, huuid⟩ := hnvml.devices minor index hnew
    exact ⟨uuid, hne, by simp [huuid, hne]⟩
  | none =>
    rw [hnew, Option.none_or] at hminor
    obtain ⟨uuid, hne, huuid⟩ := h minor index hminor
    cases hf : (nvml.deviceUUIDs.lookup index).filter fun uuid => uuid ≠ "" with
    | none => exact ⟨uuid, hne, huuid⟩
    | some uuid' =>
      have hne' := (Option.filter_eq_some_iff.mp hf).2
      exact ⟨uuid', by simpa using hne', rfl⟩

theorem Engine.Resolves.collect {e : Engine} (h : e.Resolves) (pods : PodSource)
    {nvml : GPUProcessSnapshot} (hnvml : nvml.Complete) : (e.collect pods nvml).Resolves := by
  obtain ⟨buf, snapshot, heq⟩ := collect_frame e pods nvml
  rw [heq]
  split_ifs
  · exact h
  · exact h.remember hnvml

theorem Engine.Resolves.idlePodGPUKey {e : Engine} (h : e.Resolves) {container : ContainerInfo}
    {device : GPUDevice} (hdevice : device.index = 0 ∧ device.uuid = "") {key : PodGPUKey}
    (hkey : e.idlePodGPUKey container device = some key) (huuid : key.gpuUUID = "") :
    key.gpuIndex = 0 := by
  unfold Engine.idlePodGPUKey at hkey
  simp only [hdevice.2, ne_eq, not_true_eq_false, if_false] at hkey
  split_ifs at hkey
  · cases hkey
    exact hdevice.1
  · cases hminor : e.minorToNVMLIndex.lookup (Engine.recordedMinor device) with
    | none => simp [hminor] at hkey
    | some index =>
      obtain ⟨uuid, hne, hlookup⟩ := h _ index hminor
      simp only [hminor, hlookup, Option.getD_some, Option.some.injEq] at hkey
      rw [← hkey] at huuid
      exact absurd huuid hne

/-- What an observe can rely on in a published snapshot. -/
structure Snapshot.Collected (snapshot : Snapshot) : Prop where
  active : ∀ m ∈ snapshot.metrics, ∃ uids, snapshot.activePodUIDs = some uids ∧
    (m.podUID ∈ uids ↔ m.podUID ≠ "")
  unresolved : ∀ m ∈ snapshot.metrics, m.gpuUUID = "" → m.gpuIndex = 0

theorem Engine.Resolves.collected {e : Engine} (h : e.Resolves) {pods : PodSource}
    (hpods : pods.ByMinor) {nvml : GPUProcessSnapshot} (hnvml : nvml.Complete) :
    (e.collect pods nvml).snapshot.Collected where
  active m hm := by
    obtain ⟨container, hcontainer, -, -, huid⟩ := exists_container_of_mem_collect hm
    obtain ⟨containerID, hlookup⟩ := ContainerStore.mem_activeContainers.mp hcontainer
    refine ⟨pods.activePodUIDs, collect_activePodUIDs e pods nvml, ?_⟩
    rw [PodSource.activePodUIDs, ContainerStore.mem_activePodUIDs]
    exact ⟨fun hmem => hmem.1, fun hne => ⟨hne, containerID, container, hlookup, huid.symm⟩⟩
  unresolved m hm huuid := by
    rcases sourced_of_mem_collect hm with
      ⟨process, hprocess, -, container, -, hkey⟩ | ⟨entry, hentry, hkey⟩
    · have hproc : m.gpuUUID = process.gpuUUID := congrArg PodGPUKey.gpuUUID hkey
      exact absurd (hproc ▸ huuid) (hnvml.processes process hprocess)
    · exact (h.remember hnvml).idlePodGPUKey (hpods entry hentry) hkey huuid

end Engine

section Exporter

theorem Shows.placeholder_iff {known : FiniteMap PodGPUKey Labels} {s : Gauges} {v : Series}
    (h : Shows known s v) {namespace_ podUID : String} :
    Placeholder s namespace_ podUID ↔
      ∃ key : PodGPUKey, v key ≠ none ∧ key.namespace_ = namespace_ ∧ key.podUID = podUID ∧
        key.gpuUUID = "" := by
  constructor
  · rintro ⟨g, l, hl, hns, huid, huuid⟩
    obtain ⟨key, rfl⟩ := h.labelled g l hl
    rw [h.gauge] at hl
    exact ⟨key, by simpa using hl, hns, huid, huuid⟩
  · rintro ⟨key, hv, hns, huid, huuid⟩
    exact ⟨.memoryBytes, key.labels, by simpa [h.gauge] using hv, hns, huid, huuid⟩

variable {snapshot : Snapshot} {namespace_ podUID : String}

/-- A placeholder of a pod whose metrics are all resolved survives an observe
unless the pod is gone or a metric takes its index. -/
theorem observe_placeholder {v : Series} {key : PodGPUKey} (hns : key.namespace_ = namespace_)
    (huid : key.podUID = podUID) (huuid : key.gpuUUID = "")
    (hresolved : ∀ m ∈ snapshot.metrics, m.namespace_ = namespace_ → m.podUID = podUID →
      m.gpuUUID ≠ "") :
    v.observe snapshot key ≠ none ↔
      v key ≠ none ∧ Series.keeps snapshot.activePodUIDs key = true ∧
        ∀ m ∈ snapshot.metrics, m.namespace_ = namespace_ → m.podUID = podUID →
          m.gpuIndex ≠ key.gpuIndex := by
  subst hns huid
  have hkey : ∀ m ∈ snapshot.metrics, m.key ≠ key := by
    rintro m hm rfl
    exact hresolved m hm rfl rfl huuid
  have hsup : (snapshot.metrics.any fun m => Plan.supersedes m.key key) = true ↔
      ∃ m ∈ snapshot.metrics, m.namespace_ = key.namespace_ ∧ m.podUID = key.podUID ∧
        m.gpuIndex = key.gpuIndex := by
    simp only [List.any_eq_true, supersedes_iff]
    refine exists_congr fun m => and_congr_right fun hm => ⟨?_, ?_⟩
    · rintro ⟨-, hns, huid, -, hindex⟩
      exact ⟨hns.symm, huid.symm, hindex.symm⟩
    · rintro ⟨hns, huid, hindex⟩
      exact ⟨hresolved m hm hns huid, hns.symm, huid.symm, huuid, hindex.symm⟩
  rw [Series.observe, foldl_observeMetric_of_ne hkey, Series.reset]
  split_ifs with hany hkeep
  · obtain ⟨m, hm, hns, huid, hindex⟩ := hsup.mp hany
    simp only [ne_eq, not_true_eq_false, false_iff]
    rintro ⟨-, -, hall⟩
    exact hall m hm hns huid hindex
  · have hall := not_iff_not.mpr hsup |>.mp hany
    push Not at hall
    simpa [hkeep] using fun _ => hall
  · simp [hkeep]

end Exporter

section Runs

/-- Placeholders are published and exported under index 0 only. -/
structure MetricsState.Inv (s : MetricsState) : Prop where
  engine : s.engine.Resolves
  published : ∀ snapshot ∈ s.published, snapshot.Collected
  exported : ∃ v, Shows s.runtime.knownLabels s.runtime.gauges v ∧
    ∀ key : PodGPUKey, v key ≠ none → key.gpuUUID = "" → key.gpuIndex = 0

theorem MetricsState.Inv.collect {s : MetricsState} (h : s.Inv) {pods : PodSource}
    (hpods : pods.ByMinor) {nvml : GPUProcessSnapshot} (hnvml : nvml.Complete) :
    (s.collect pods nvml).Inv where
  engine := h.engine.collect pods hnvml
  published snapshot hmem := by
    rcases List.mem_cons.mp hmem with rfl | hmem
    · exact h.engine.collected hpods hnvml
    · exact h.published snapshot hmem
  exported := h.exported

theorem MetricsState.Inv.observe {s : MetricsState} (h : s.Inv) {snapshot : Snapshot}
    (hmem : snapshot ∈ s.published) : (s.observe snapshot).Inv where
  engine := h.engine
  published := h.published
  exported := by
    obtain ⟨v, hshows, hindex⟩ := h.exported
    refine ⟨v.observe snapshot, hshows.observe snapshot, ?_⟩
    intro key hkey huuid
    rcases foldl_observeMetric_mem hkey with hv | ⟨m, hm, rfl⟩
    · refine hindex key ?_ huuid
      intro hnone
      simp [Series.reset, hnone] at hv
    · exact (h.published snapshot hmem).unresolved m hm huuid

theorem MetricsState.Reachable.inv {interval smUtilWindow : ℤ} {s : MetricsState}
    (hs : Reachable interval smUtilWindow s) : s.Inv := by
  induction hs with
  | new =>
    refine ⟨?_, ?_, ⟨_, shows_new, by simp⟩⟩
    · intro minor index h
      simp [MetricsState.new, newMetricsController] at h
    · intro snapshot hmem
      rw [List.mem_singleton.mp hmem]
      exact ⟨by simp [newMetricsController], by simp [newMetricsController]⟩
  | collect _ hpods hnvml ih => exact ih.collect hpods hnvml
  | observe _ hmem ih => exact ih.observe hmem

variable {interval smUtilWindow : ℤ} {s : MetricsState} {snapshot : Snapshot}
  {namespace_ podUID : String}

/-- An observe in which all metrics of a pod are resolved leaves no placeholder of
the pod if and only if there was none before, or one of its GPUs has index 0 (or
the pod has no UID, in which case its series go at every observe). -/
theorem placeholder_dropped_iff (hs : MetricsState.Reachable interval smUtilWindow s)
    (hmem : snapshot ∈ s.published)
    (hsome : ∃ m ∈ snapshot.metrics, m.namespace_ = namespace_ ∧ m.podUID = podUID)
    (hresolved : ∀ m ∈ snapshot.metrics, m.namespace_ = namespace_ → m.podUID = podUID →
      m.gpuUUID ≠ "") :
    ¬ Placeholder (s.observe snapshot).runtime.gauges namespace_ podUID ↔
      (Placeholder s.runtime.gauges namespace_ podUID → podUID ≠ "" →
        ∃ m ∈ snapshot.metrics, m.namespace_ = namespace_ ∧ m.podUID = podUID ∧
          m.gpuIndex = 0) := by
  obtain ⟨v, hshows, hindex⟩ := hs.inv.exported
  have hshows' := hshows.observe snapshot
  have hkeeps : ∀ key : PodGPUKey, key.podUID = podUID →
      (Series.keeps snapshot.activePodUIDs key = true ↔ podUID ≠ "") := by
    intro key hkey
    obtain ⟨m, hm, -, huid⟩ := hsome
    obtain ⟨uids, huids, hactive⟩ := (hs.inv.published snapshot hmem).active m hm
    rw [huids, ← huid, ← hactive, huid, ← hkey]
    simp [Series.keeps]
  rw [MetricsState.observe, hshows'.placeholder_iff, hshows.placeholder_iff]
  constructor
  · rintro hnone ⟨key, hv, hns, huid, huuid⟩ hne
    by_contra hno
    push Not at hno
    refine hnone ⟨key, ?_, hns, huid, huuid⟩
    rw [observe_placeholder hns huid huuid hresolved, hindex key hv huuid]
    exact ⟨hv, (hkeeps key huid).mpr hne, hno⟩
  · rintro hdropped ⟨key, hkey, hns, huid, huuid⟩
    obtain ⟨hv, hkeep, hall⟩ := (observe_placeholder hns huid huuid hresolved).mp hkey
    obtain ⟨m, hm, hmns, hmuid, hzero⟩ :=
      hdropped ⟨key, hv, hns, huid, huuid⟩ ((hkeeps key huid).mp hkeep)
    exact hall m hm hmns hmuid (by rw [hzero, hindex key hv huuid])

end Runs

section EarlyScrape

/-- An idle container on the device with minor number 1. -/
def idleContainer : ContainerInfo :=
  ⟨"c1", "", "job", "team", "u1", "", [⟨0, 1, ""⟩], 1024⟩

def idlePods : PodSource where
  store := ContainerStore.replace [idleContainer]
  resolveProcess _ := none
  resolved_mem := by simp

def nothingReported : GPUProcessSnapshot := ⟨[], ∅, ∅, ∅⟩

/-- One device with minor number 1 and the given NVML index. -/
def deviceReported (index : ℤ) : GPUProcessSnapshot :=
  ⟨[], AList.insert index "GPU-a" ∅, AList.insert 1 index ∅, ∅⟩

/-- A collect before NVML has reported, a scrape, and a collect after it has. -/
def earlyScrape (index : ℤ) : MetricsState :=
  let s := (MetricsState.new 1 1).collect idlePods nothingReported
  (s.observe s.engine.snapshot).collect idlePods (deviceReported index)

theorem earlyScrape_reachable (index : ℤ) : MetricsState.Reachable 1 1 (earlyScrape index) := by
  have hpods : idlePods.ByMinor := by unfold PodSource.ByMinor; decide
  have hnothing : nothingReported.Complete := ⟨by simp [nothingReported], by simp [nothingReported]⟩
  have hdevice : (deviceReported index).Complete := by
    refine ⟨?_, by simp [deviceReported]⟩
    intro minor index' h
    refine ⟨"GPU-a", by decide, ?_⟩
    simp only [deviceReported, FiniteMap.lookup_insert, AList.lookup_empty] at h ⊢
    split_ifs at h
    rw [Option.some.inj h, if_pos rfl]
  refine .collect (.observe (.collect .new hpods hnothing) ?_) hpods hdevice
  exact List.mem_cons_self

/-- The placeholder of a device that turns out to have index 1 stays exported
beside the device's own series. -/
theorem second_gpu_keeps_placeholder :
    let s := earlyScrape 1
    MetricsState.Reachable 1 1 s ∧ s.engine.snapshot ∈ s.published ∧
      (∃ m ∈ s.engine.snapshot.metrics, m.namespace_ = "team" ∧ m.podUID = "u1") ∧
      (∀ m ∈ s.engine.snapshot.metrics, m.gpuUUID ≠ "") ∧
      Placeholder (s.observe s.engine.snapshot).runtime.gauges "team" "u1" := by
  refine ⟨earlyScrape_reachable 1, List.mem_cons_self, by decide, by decide, ?_⟩
  exact ⟨.memoryBytes, ⟨"team", "job", "u1", "", "0"⟩, by decide, rfl, rfl, rfl⟩

/-- A device with index 0 takes the place of its placeholder. -/
theorem placeholder_dropped_first_gpu :
    let s := earlyScrape 0
    Placeholder s.runtime.gauges "team" "u1" ∧
      ¬ Placeholder (s.observe s.engine.snapshot).runtime.gauges "team" "u1" := by
  intro s
  refine ⟨⟨.memoryBytes, ⟨"team", "job", "u1", "", "0"⟩, by decide, rfl, rfl, rfl⟩, ?_⟩
  refine (placeholder_dropped_iff (earlyScrape_reachable 0) List.mem_cons_self ?_ ?_).mpr ?_
  · decide
  · decide
  · exact fun _ _ => by decide

end EarlyScrape

end GpuFractioning.Metricsd
