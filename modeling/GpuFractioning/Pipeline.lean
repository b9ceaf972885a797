import GpuFractioning.Fractiond.EventQueue
import GpuFractioning.Metricsd.CgroupAttribution
import GpuFractioning.Metricsd.EnrichReference
import GpuFractioning.Metricsd.ExporterRuns
import GpuFractioning.Metricsd.NVMLSnapshots
import GpuFractioning.Metricsd.SeriesCoverage

/-!
# From the callbacks of the runtime to the exported series

fractiond turns the callbacks of the runtime into files of the mapping
directory, metricsd reads them and joins them with what NVML and `/proc` say
into the series it exports. The two processes share nothing but the directory.
-/

namespace GpuFractioning

open Mapping Fractiond Metricsd

section Attribution

/-- Some path of the process's cgroup file has the ID. -/
def Metricsd.ProcCgroupResolver.names (r : ProcCgroupResolver)
    (readFile : String → Except String String) (process : GPUProcessMetric)
    (containerID : String) : Bool :=
  match r.cgroupPaths readFile process.pid with
  | .error _ => false
  | .ok paths => paths.any (GoString.contains · containerID)

variable {records : List ContainerInfo} {r : ProcCgroupResolver}
  {readFile : String → Except String String} {process : GPUProcessMetric}

theorem attributed_paths {s : ContainerStore}
    (hplain : ∀ container ∈ ContainerStore.activeContainers s,
      container.cgroupPath = "" ∧ PlainID container.containerID) (paths : List String) :
    ∀ order : RangeOrder s, Attributed (ContainerStore.activeContainers s) paths
      (matchCgroupPaths order paths) := by
  induction paths with
  | nil => exact fun order => .inl ⟨rfl, rfl⟩
  | cons path paths ih =>
    intro order
    refine attributed_cons order ?_ (ih order.later)
    intro container hcontainer
    obtain ⟨hpath, hid⟩ := hplain container hcontainer
    exact cgroupPathMatchesContainer_iff hpath hid path

theorem resolveProcess_eq_some_iff
    (hrecords : ∀ record ∈ records, record.cgroupPath = "" ∧ PlainID record.containerID)
    (hdistinct : (records.map ContainerInfo.containerID).Nodup)
    (hone : ∀ record ∈ records, ∀ other ∈ records,
      r.names readFile process record.containerID = true →
      r.names readFile process other.containerID = true → record = other)
    (order : GPUProcessMetric → RangeOrder (ContainerStore.replace records))
    {info : ContainerInfo} :
    (snapshot r readFile records order).resolveProcess process = some info ↔
      info ∈ records ∧ r.names readFile process info.containerID = true := by
  have hmem : ∀ container, container ∈ ContainerStore.activeContainers
      (ContainerStore.replace records) ↔ container ∈ records := fun container =>
    mem_activeContainers_replace (fun record hrecord => (hrecords record hrecord).2.1) hdistinct
  simp only [snapshot, resolveProcess]
  cases hpaths : r.cgroupPaths readFile process.pid with
  | error err => simp [ProcCgroupResolver.names, hpaths]
  | ok paths =>
    have hnames : ∀ containerID, r.names readFile process containerID = true ↔
        ∃ path ∈ paths, GoString.contains path containerID = true := by
      intro containerID
      simp [ProcCgroupResolver.names, hpaths]
    have hattributed := (attributed_paths (fun container hcontainer =>
      hrecords container ((hmem container).mp hcontainer)) paths (order process)).of_mem_iff hmem
    dsimp only
    constructor
    · intro hinfo
      rcases hattributed with ⟨-, hnone⟩ | ⟨path, container, hfind, hcontainer, hoccurs, hsome⟩
      · rw [hnone] at hinfo
        cases hinfo
      · rw [hsome] at hinfo
        cases hinfo
        exact ⟨hcontainer, (hnames _).mpr ⟨path, List.mem_of_find?_eq_some hfind, hoccurs⟩⟩
    · rintro ⟨hinfo, hnamed⟩
      refine hattributed.eq_some_of_only hinfo ((hnames _).mp hnamed) ?_
      intro other hother hoccurs
      exact hone other hother info hinfo ((hnames _).mpr hoccurs) hnamed

end Attribution

section Memory

/-- The processes on a GPU whose cgroup files name a container of the pod. -/
def podProcesses (r : ProcCgroupResolver) (readFile : String → Except String String)
    (records : List ContainerInfo) (processes : List GPUProcessMetric) (podUID : String)
    (gpuIndex : ℤ) : List GPUProcessMetric :=
  processes.filter fun process => process.pid ≠ 0 ∧ process.gpuIndex = gpuIndex ∧
    records.any fun info => info.podUID = podUID ∧ r.names readFile process info.containerID

variable {e : Engine} {pods : PodSource} {nvml : GPUProcessSnapshot}

theorem pushSamples_memory (e : Engine) (metrics : List PodGPUMetric) :
    (e.pushSamples metrics).2.map (fun m => (m.key, m.memoryBytes)) =
      metrics.map fun m => (m.key, m.memoryBytes) := by
  induction metrics generalizing e with
  | nil => rfl
  | cons m metrics ih =>
    simp only [Engine.pushSamples, List.map_cons, ih]
    rfl

theorem collect_memory (h : pods.activeContainers ≠ []) :
    (e.collect pods nvml).snapshot.metrics.map (fun m => (m.key, m.memoryBytes)) =
      ((e.remember nvml).enrich nvml.processes pods).1.map fun m => (m.key, m.memoryBytes) := by
  rw [Engine.collect, if_neg h]
  dsimp only [Engine.setSnapshot]
  rw [normalizeSMUtil, List.map_map]
  split_ifs
  · exact pushSamples_memory _ _
  · rfl

/-- The memory of a published series is that of the processes counted under its key. -/
theorem memory_of_mem_collect {m : PodGPUMetric}
    (hm : m ∈ (e.collect pods nvml).snapshot.metrics) :
    m.memoryBytes =
      ((pods.counted nvml.processes m.key).map GPUProcessMetric.usedGPUMemoryBytes).sum %
        2 ^ 64 := by
  have hactive : pods.activeContainers ≠ [] := by
    obtain ⟨container, hcontainer, -⟩ := exists_container_of_mem_collect hm
    exact List.ne_nil_of_mem hcontainer
  have hentry : (m.key, m.memoryBytes) ∈ ((e.remember nvml).enrich nvml.processes pods).1.map
      fun m => (m.key, m.memoryBytes) := by
    rw [← collect_memory hactive]
    exact List.mem_map_of_mem hm
  obtain ⟨m', hm', heq⟩ := List.mem_map.mp hentry
  obtain ⟨hkey, hmemory⟩ := Prod.mk.inj heq
  obtain ⟨⟨key, metric⟩, hpair, rfl⟩ := List.mem_map.mp hm'
  have hlookup := FiniteMap.mem_pairs.mp hpair
  have hfiled : metric.key = key :=
    (enrichment_keyedIn (e.remember nvml) nvml.processes pods key metric hlookup).1
  have hkey' : key = m.key := hfiled.symm.trans hkey
  have hfold : metric = (pods.processesOf nvml.processes key).foldl
      (fun metric a => metric.add a.2) (idlePodGPUMetric key) := by
    rw [lookup_enrichment] at hlookup
    split_ifs at hlookup with hprocesses
    · exact (Option.some.inj hlookup).symm
    · rw [not_not.mp hprocesses]
      exact (Option.some.inj hlookup).symm
  rw [← hmemory, ← hkey', hfold, foldl_add _ _ (Nat.two_pow_pos 64), ← map_snd_processesOf,
    List.map_map]
  simp [idlePodGPUMetric, Function.comp_def]

theorem remember_minorToNVMLIndex (e : Engine) (nvml : GPUProcessSnapshot) (minor : ℤ) :
    (e.remember nvml).minorToNVMLIndex.lookup minor =
      (nvml.deviceMinorToNVMLIndex.lookup minor).or (e.minorToNVMLIndex.lookup minor) := by
  simp only [Engine.remember, Engine.rememberDeviceTotalMemory, Engine.rememberMinorToNVMLIndex,
    Engine.rememberDeviceUUIDs, FiniteMap.lookup_assignAll]

theorem exists_metric_of_resolved {process : GPUProcessMetric} {info : ContainerInfo}
    (hprocess : process ∈ nvml.processes) (hpid : process.pid ≠ 0)
    (hinfo : pods.resolveProcess process = some info) :
    ∃ m ∈ (e.collect pods nvml).snapshot.metrics, m.key = processKey info process := by
  have hactive := pods.resolved_mem process info hinfo
  have hkey : processKey info process ∈
      (e.collect pods nvml).snapshot.metrics.map PodGPUMetric.key := by
    rw [collect_keys e pods nvml (List.ne_nil_of_mem hactive), mem_enrich_keys, lookup_enrichment,
      if_pos (processesOf_ne_nil.mpr ⟨info, process, ⟨hprocess, hpid, hinfo⟩, rfl⟩)]
    rfl
  obtain ⟨m, hm, hkey⟩ := List.mem_map.mp hkey
  exact ⟨m, hm, hkey⟩

end Memory

section Records

variable [ParseQuantity] {cfg : Config} {live : List Sandboxed} {d : MapDir}

/-- Containers and pods that can be told apart by the names they have in Kubernetes. -/
structure Identified (records : List ContainerInfo) : Prop where
  distinct : (records.map ContainerInfo.containerID).Nodup
  plain : ∀ info ∈ records, PlainID info.containerID
  podUID : ∀ info ∈ records, info.podUID ≠ "" ∧ '/' ∉ info.podUID.toList
  namespace_ : ∀ info ∈ records, '/' ∉ info.namespace_.toList
  pods : ∀ info ∈ records, ∀ other ∈ records, info.podUID = other.podUID →
    info.namespace_ = other.namespace_ ∧ info.pod = other.pod

theorem due_eq_some_iff (hdistinct : ((recordsOf cfg live).map ContainerInfo.containerID).Nodup)
    {containerID : String} {info : ContainerInfo} :
    due cfg live containerID = some info ↔
      info ∈ recordsOf cfg live ∧ info.containerID = containerID := by
  have hreverse : ((recordsOf cfg live).reverse.map ContainerInfo.containerID).Nodup := by
    rw [List.map_reverse, List.nodup_reverse]
    exact hdistinct
  rw [due, KeyedList.find?_eq_some_iff ContainerInfo.containerID hreverse, List.mem_reverse]

theorem mem_activeContainers_of_tracks (htracks : Tracks cfg live d)
    (hdistinct : ((recordsOf cfg live).map ContainerInfo.containerID).Nodup)
    {info : ContainerInfo} :
    info ∈ Reader.activeContainers d ↔ ∃ i ∈ recordsOf cfg live, i.recorded = info := by
  simp only [Reader.activeContainers, ContainerStore.mem_activeContainers, htracks _,
    Option.map_eq_some_iff, due_eq_some_iff hdistinct]
  constructor
  · rintro ⟨containerID, i, ⟨hi, -⟩, hrecorded⟩
    exact ⟨i, hi, hrecorded⟩
  · rintro ⟨i, hi, hrecorded⟩
    exact ⟨i.containerID, i, ⟨hi, rfl⟩, hrecorded⟩

omit [ParseQuantity] in
theorem nodup_activeContainers (d : MapDir) :
    ((Reader.activeContainers d).map ContainerInfo.containerID).Nodup := by
  have hkeys : (Reader.activeContainers d).map ContainerInfo.containerID =
      (Reader.store d).pairs.map Prod.fst := by
    rw [Reader.activeContainers, ContainerStore.activeContainers, List.map_map]
    refine List.map_congr_left ?_
    rintro ⟨containerID, info⟩ hentry
    have hlookup := FiniteMap.mem_pairs.mp hentry
    rw [Reader.lookup_store] at hlookup
    exact Reader.readable_containerID hlookup
  rw [hkeys]
  exact FiniteMap.nodup_map_fst_pairs _

omit [ParseQuantity] in
theorem recordsMinor_of_mem_collectDevices {devices : List LinuxDevice} {seen : List ℤ}
    {device : GPUDevice} (h : device ∈ GpuDevices.collectDevices seen devices) :
    RecordsMinor device device.minorNumber := by
  induction devices generalizing seen with
  | nil => cases h
  | cons node devices ih =>
    unfold GpuDevices.collectDevices at h
    split at h
    · exact ih h
    · split_ifs at h
      · exact ih h
      · rcases List.mem_cons.mp h with rfl | h
        · exact .inl rfl
        · exact ih h

theorem recordsMinor_of_mem {info : ContainerInfo} (hinfo : info ∈ recordsOf cfg live)
    {device : GPUDevice} (hdevice : device ∈ info.gpuDevices) :
    RecordsMinor device device.minorNumber := by
  obtain ⟨⟨pod, ctr⟩, -, hyield⟩ := List.mem_filterMap.mp hinfo
  simp only [Adapter.container] at hyield
  split_ifs at hyield
  split at hyield
  · cases hyield
  · cases hyield
    simp only [GpuDevices.fromContainer] at hdevice
    split at hdevice
    · cases hdevice
    · exact recordsMinor_of_mem_collectDevices hdevice

end Records

section Export

variable [ParseQuantity] {cfg : Config} {live : List Sandboxed} {d : MapDir}
  (htracks : Tracks cfg live d) (hrecords : Identified (recordsOf cfg live))
  {r : ProcCgroupResolver} {readFile : String → Except String String}
  {order : GPUProcessMetric → RangeOrder (ContainerStore.replace (Reader.activeContainers d))}
  {nvml : GPUProcessSnapshot} (hnvml : nvml.Named)

include htracks hrecords

theorem plain_of_mem {info : ContainerInfo} (hinfo : info ∈ Reader.activeContainers d) :
    info.cgroupPath = "" ∧ PlainID info.containerID := by
  obtain ⟨i, hi, rfl⟩ := (mem_activeContainers_of_tracks htracks hrecords.distinct).mp hinfo
  exact ⟨rfl, hrecords.plain i hi⟩

theorem mem_source {info : ContainerInfo} :
    info ∈ (snapshot r readFile (Reader.activeContainers d) order).activeContainers ↔
      ∃ i ∈ recordsOf cfg live, i.recorded = info := by
  rw [← mem_activeContainers_of_tracks htracks hrecords.distinct]
  refine mem_activeContainers_replace ?_ (nodup_activeContainers d)
  exact fun record hrecord => (plain_of_mem htracks hrecords hrecord).2.1

include hnvml

theorem regular_source :
    (⟨snapshot r readFile (Reader.activeContainers d) order, nvml⟩ : Cycle).Regular where
  processes := hnvml.processes
  records := by
    intro container hcontainer device hdevice
    obtain ⟨i, hi, rfl⟩ := (mem_source htracks hrecords).mp hcontainer
    exact ⟨_, recordsMinor_of_mem hi hdevice⟩
  names := by
    intro container hcontainer other hother huid
    obtain ⟨i, hi, rfl⟩ := (mem_source htracks hrecords).mp hcontainer
    obtain ⟨j, hj, rfl⟩ := (mem_source htracks hrecords).mp hother
    exact hrecords.pods i hi j hj huid
  slashFree := by
    intro container hcontainer
    obtain ⟨i, hi, rfl⟩ := (mem_source htracks hrecords).mp hcontainer
    exact ⟨hrecords.namespace_ i hi, (hrecords.podUID i hi).2⟩

theorem wellFormed_collect (e : Engine) :
    (e.collect (snapshot r readFile (Reader.activeContainers d) order)
      nvml).snapshot.WellFormed where
  distinct := collect_keys_nodup e _ _
  oneIndex := by
    have hregular : (⟨snapshot r readFile (Reader.activeContainers d) order, nvml⟩ :
      Cycle).Regular := regular_source htracks hrecords hnvml
    refine (List.pairwise_map.mp (covers_step e hregular).unique).imp ?_
    rintro m m' hne ⟨hns, huid, hindex⟩
    exact hne (by rw [hns, huid, hindex])
  active := by
    refine ⟨_, collect_activePodUIDs e _ _, ?_⟩
    intro m hm
    obtain ⟨container, hcontainer, -, -, huid⟩ := exists_container_of_mem_collect hm
    obtain ⟨i, hi, rfl⟩ := (mem_source htracks hrecords).mp hcontainer
    obtain ⟨containerID, hlookup⟩ := ContainerStore.mem_activeContainers.mp hcontainer
    rw [huid]
    exact ContainerStore.mem_activePodUIDs.mpr
      ⟨(hrecords.podUID i hi).1, containerID, _, hlookup, rfl⟩

variable (hone : ∀ process ∈ nvml.processes,
  ∀ info ∈ recordsOf cfg live, ∀ other ∈ recordsOf cfg live,
    r.names readFile process info.containerID = true →
    r.names readFile process other.containerID = true → info = other)

include hone

omit hnvml in
theorem resolveProcess_source {process : GPUProcessMetric} (hprocess : process ∈ nvml.processes)
    {container : ContainerInfo} :
    (snapshot r readFile (Reader.activeContainers d) order).resolveProcess process =
        some container ↔
      ∃ info ∈ recordsOf cfg live, info.recorded = container ∧
        r.names readFile process info.containerID = true := by
  have hmem : ∀ info, info ∈ Reader.activeContainers d ↔
      ∃ i ∈ recordsOf cfg live, i.recorded = info :=
    fun _ => mem_activeContainers_of_tracks htracks hrecords.distinct
  rw [resolveProcess_eq_some_iff (fun record => plain_of_mem htracks hrecords)
    (nodup_activeContainers d), hmem]
  · constructor
    · rintro ⟨⟨info, hinfo, rfl⟩, hnamed⟩
      exact ⟨info, hinfo, rfl, hnamed⟩
    · rintro ⟨info, hinfo, rfl, hnamed⟩
      exact ⟨⟨info, hinfo, rfl⟩, hnamed⟩
  · intro record hrecord other hother hnamed hnamed'
    obtain ⟨i, hi, rfl⟩ := (hmem record).mp hrecord
    obtain ⟨j, hj, rfl⟩ := (hmem other).mp hother
    rw [hone process hprocess i hi j hj hnamed hnamed']

/-- Under the key of a process are counted the processes of its pod on its GPU. -/
theorem counted_source {process : GPUProcessMetric} (hprocess : process ∈ nvml.processes)
    {info : ContainerInfo} (hinfo : info ∈ recordsOf cfg live) :
    (snapshot r readFile (Reader.activeContainers d) order).counted nvml.processes
        (processKey info process) =
      podProcesses r readFile (recordsOf cfg live) nvml.processes info.podUID
        process.gpuIndex := by
  refine List.filter_congr ?_
  intro p hp
  rw [decide_eq_decide]
  refine and_congr_right fun _ => ?_
  simp only [Option.map_eq_some_iff, resolveProcess_source htracks hrecords hone hp,
    List.any_eq_true, decide_eq_true_eq]
  constructor
  · rintro ⟨_, ⟨i, hi, rfl, hnamed⟩, hkey⟩
    have huid : i.podUID = info.podUID := congrArg PodGPUKey.podUID hkey
    exact ⟨congrArg PodGPUKey.gpuIndex hkey, i, hi, huid, hnamed⟩
  · rintro ⟨hindex, i, hi, huid, hnamed⟩
    refine ⟨_, ⟨i, hi, rfl, hnamed⟩, ?_⟩
    obtain ⟨hns, hpod⟩ := hrecords.pods i hi info hinfo huid
    have huuid : p.gpuUUID = process.gpuUUID := by
      have hlookup := (hnvml.processes p hp).2
      rw [hindex, (hnvml.processes process hprocess).2] at hlookup
      exact (Option.some.inj hlookup).symm
    rw [processKey, processKey, PodGPUKey.mk.injEq]
    exact ⟨hns, hpod, huid, huuid, hindex⟩

omit hnvml in
theorem memory_of_no_process (e : Engine) {scraped : List Snapshot} {l : Labels}
    (hwellFormed : (e.collect (snapshot r readFile (Reader.activeContainers d) order)
      nvml).snapshot.WellFormed)
    (hl : ((Runtime.observeAll (scraped ++ [(e.collect (snapshot r readFile
      (Reader.activeContainers d) order) nvml).snapshot])).gauges .memoryBytes).lookup l ≠ none)
    (hnone : ∀ info ∈ recordsOf cfg live, ∀ process ∈ nvml.processes, process.pid ≠ 0 →
      r.names readFile process info.containerID = true → (processKey info process).labels ≠ l) :
    ((Runtime.observeAll (scraped ++ [(e.collect (snapshot r readFile
      (Reader.activeContainers d) order) nvml).snapshot])).gauges .memoryBytes).lookup l =
        some 0 := by
  rcases exported_cases hwellFormed scraped hl with ⟨m, hm, rfl⟩ | ⟨key, -, -, hzero⟩
  · have hcounted : (snapshot r readFile (Reader.activeContainers d) order).counted nvml.processes
        m.key = [] := by
      refine List.filter_eq_nil_iff.mpr ?_
      intro process hprocess
      rw [decide_eq_true_eq]
      rintro ⟨hpid, hkey⟩
      obtain ⟨container, hresolved, hkey⟩ := Option.map_eq_some_iff.mp hkey
      obtain ⟨info, hinfo, rfl, hnamed⟩ :=
        (resolveProcess_source htracks hrecords hone hprocess).mp hresolved
      exact hnone info hinfo process hprocess hpid hnamed (congrArg PodGPUKey.labels hkey)
    have hmemory : m.memoryBytes = 0 := by
      rw [memory_of_mem_collect hm, hcounted]
      rfl
    rw [gauge_of_metric hwellFormed scraped hm, PodGPUMetric.value, hmemory,
      GoFloat.ofNat_eq_self (Nat.zero_le _), Nat.cast_zero]
  · exact hzero

end Export

section Pipeline

variable [ParseQuantity] {cfg : Config} {d : MapDir} {before later : List PluginAction}
  {pods : List PodSandbox} {ctrs : List Container} {q : EventQueue}
  {init : NVML.Return} {interval : ℤ} {c : NVMLProcessCollector} {polls : List Poll}

/-- Once fractiond has come to the end of its queue, a collect of metricsd and the scrape after
it export what belongs to the live containers: no series of another pod is left, whatever was
exported before; the memory of a process counts for the pod whose container its cgroup file
names, together with that of the pod's other processes on the GPU and no others; a series that
no process belongs to reads zero; and every GPU of a live container that NVML has located has a
series of its pod. -/
theorem exported_series_are_of_live_containers
    (h : Resynced cfg d before pods ctrs later q) (hidle : q.Idle)
    (hrecords : Identified (recordsOf cfg h.live))
    (hc : NVMLProcessCollector.newNVMLProcessCollector init interval = .ok c)
    (hdevices : ∀ poll ∈ polls, ∀ device ∈ poll.nvml.devices, device.Identifies)
    (r : ProcCgroupResolver) (readFile : String → Except String String)
    (order : GPUProcessMetric →
      RangeOrder (ContainerStore.replace (Reader.activeContainers q.store)))
    (hone : ∀ process ∈ (c.run polls).snapshot.processes,
      ∀ info ∈ recordsOf cfg h.live, ∀ other ∈ recordsOf cfg h.live,
        r.names readFile process info.containerID = true →
        r.names readFile process other.containerID = true → info = other)
    (e : Engine) (scraped : List Snapshot) :
    let records := recordsOf cfg h.live
    let nvml := (c.run polls).snapshot
    let source := snapshot r readFile (Reader.activeContainers q.store) order
    let gauges := (Runtime.observeAll (scraped ++ [(e.collect source nvml).snapshot])).gauges
    (∀ g l, (gauges g).lookup l ≠ none → ∃ info ∈ records, info.podUID = l.podUUID) ∧
    (∀ info ∈ records, ∀ process ∈ nvml.processes, process.pid ≠ 0 →
      r.names readFile process info.containerID = true →
      (gauges .memoryBytes).lookup (processKey info process).labels =
        some (GoFloat.ofNat (((podProcesses r readFile records nvml.processes info.podUID
          process.gpuIndex).map GPUProcessMetric.usedGPUMemoryBytes).sum % 2 ^ 64))) ∧
    (∀ l, (gauges .memoryBytes).lookup l ≠ none →
      (∀ info ∈ records, ∀ process ∈ nvml.processes, process.pid ≠ 0 →
        r.names readFile process info.containerID = true →
        (processKey info process).labels ≠ l) →
      (gauges .memoryBytes).lookup l = some 0) ∧
    ∀ info ∈ records, ∀ device ∈ info.gpuDevices, ∀ index,
      nvml.deviceMinorToNVMLIndex.lookup device.minorNumber = some index →
      ∃ l : Labels, (∀ g, (gauges g).lookup l ≠ none) ∧ l.podUUID = info.podUID ∧
        (l.gpu = GoStrconv.formatInt index ∨ nvml.deviceUUIDs.lookup index = some l.gpuUUID) := by
  intro records nvml source gauges
  have htracks := h.tracks hidle
  have hnvml := NVMLProcessCollector.named_run hc hdevices
  have hwellFormed : (e.collect source nvml).snapshot.WellFormed :=
    wellFormed_collect htracks hrecords hnvml e
  refine ⟨?_, ?_, ?_, ?_⟩
  · intro g l hl
    obtain ⟨uids, huids, hmem⟩ := exported_active hwellFormed scraped hl
    rw [collect_activePodUIDs] at huids
    cases huids
    obtain ⟨-, containerID, info, hlookup, huid⟩ := ContainerStore.mem_activePodUIDs.mp hmem
    obtain ⟨i, hi, rfl⟩ := (mem_source htracks hrecords).mp
      (ContainerStore.mem_activeContainers.mpr ⟨containerID, hlookup⟩)
    exact ⟨i, hi, huid⟩
  · intro info hinfo process hprocess hpid hnamed
    have hresolved : source.resolveProcess process = some info.recorded :=
      (resolveProcess_source htracks hrecords hone hprocess).mpr ⟨info, hinfo, rfl, hnamed⟩
    obtain ⟨m, hm, hkey⟩ := exists_metric_of_resolved (e := e) hprocess hpid hresolved
    have hkey' : m.key = processKey info process := hkey
    rw [← hkey', gauge_of_metric hwellFormed scraped hm, PodGPUMetric.value,
      memory_of_mem_collect hm, hkey', counted_source htracks hrecords hnvml hone hprocess hinfo]
  · intro l hl hnone
    exact memory_of_no_process htracks hrecords hone e hwellFormed hl hnone
  · intro info hinfo device hdevice index hindex
    have hregular : (⟨source, nvml⟩ : Cycle).Regular := regular_source htracks hrecords hnvml
    have hactive : info.recorded ∈ source.activeContainers :=
      (mem_source htracks hrecords).mpr ⟨info, hinfo, rfl⟩
    obtain ⟨uuid, hne, huuid⟩ := hnvml.minors _ _ hindex
    have hremembered : (e.remember nvml).deviceUUIDs.lookup index = some uuid := by
      rw [remember_deviceUUIDs, huuid, Option.filter_some_pos (by simpa using hne)]
      rfl
    obtain ⟨m, hm, -, -, huid, hgpu⟩ := exists_metric_of_minor e hregular hactive hdevice
      (recordsMinor_of_mem hinfo hdevice)
      (by rw [remember_minorToNVMLIndex, hindex, Option.some_or])
    refine ⟨m.key.labels, ?_, huid, ?_⟩
    · intro g
      rw [gauge_of_metric hwellFormed scraped hm]
      exact Option.some_ne_none _
    · rcases hgpu with rfl | ⟨text, -, htext, huuid'⟩
      · exact .inl rfl
      · rw [hremembered] at htext
        exact .inr (huuid.trans (htext.trans (congrArg some huuid'.symm)))

end Pipeline

def trainerRecord : ContainerInfo :=
  { containerID := "c1"
    container := "trainer"
    pod := "job"
    namespace_ := "team"
    podUID := "u1"
    cgroupPath := ""
    gpuDevices := []
    requestedMemoryMiB := 1024 }

/-- One process of the trainer, and one whose cgroup file cannot be read. -/
def trainerPoll : Poll :=
  ⟨10 ^ 18, ⟨⟨.success, ""⟩, [NVML.sampleDevice [] [⟨7, 2048⟩, ⟨9, 512⟩] []]⟩⟩

def trainerCgroups (path : String) : Except String String :=
  if path = "/proc/7/cgroup" then .ok "0::/kubepods/pod-u1/cri-c1.scope\n" else .error "gone"

theorem recordsOf_trainer :
    letI := gibQuantities
    recordsOf defaultConfig (liveAfter defaultConfig
      [.synchronize [trainerPod] [sidecarContainer, trainerContainer]]) = [trainerRecord] := by
  decide

theorem trainerRecord_identified : Identified [trainerRecord] where
  distinct := by decide
  plain := by decide
  podUID := by decide
  namespace_ := by decide
  pods := by decide

theorem exported_series_are_of_live_containers_trainer :
    letI := gibQuantities
    let sync : Callback := .synchronize [trainerPod] [sidecarContainer, trainerContainer]
    let nvml := (NVMLProcessCollector.sampleCollector.run [trainerPoll]).snapshot
    ∃ q, EventQueue.run defaultConfig (.new leftoverDir) [.callback sync, .take, .finish] =
        some q ∧
      let source := snapshot (newProcCgroupResolver "") trainerCgroups
        (Reader.activeContainers q.store) fun _ => RangeOrder.asStored _
      ((Runtime.observeAll ([] ++
        [((newMetricsController 5 0).collect source nvml).snapshot])).gauges .memoryBytes).lookup
          ⟨"team", "job", "u1", "GPU-0", "0"⟩ = some 2048 := by
  let inst : ParseQuantity := gibQuantities
  obtain ⟨q, hrun, hresynced, hidle⟩ := exists_resynced_trainer
  refine ⟨q, hrun, ?_⟩
  have hlive : recordsOf defaultConfig hresynced.live = [trainerRecord] := recordsOf_trainer
  have hnew : NVMLProcessCollector.newNVMLProcessCollector ⟨.success, ""⟩ (5 * 10 ^ 9) =
    .ok NVMLProcessCollector.sampleCollector := rfl
  have hdevices : ∀ poll ∈ [trainerPoll], ∀ device ∈ poll.nvml.devices, device.Identifies := by
    decide
  obtain ⟨-, hmemory, -, -⟩ := exported_series_are_of_live_containers hresynced hidle
    (hlive ▸ trainerRecord_identified) hnew hdevices (newProcCgroupResolver "") trainerCgroups
    (fun _ => RangeOrder.asStored _) (by rw [hlive]; decide) (newMetricsController 5 0) []
  rw [hlive] at hmemory
  have hvalue := hmemory trainerRecord (List.mem_singleton_self _) ⟨7, "GPU-0", 0, 2048, 0⟩
    (by decide) (by decide) (by decide)
  have hsum : ((podProcesses (newProcCgroupResolver "") trainerCgroups [trainerRecord]
      (NVMLProcessCollector.sampleCollector.run [trainerPoll]).snapshot.processes "u1" 0).map
        GPUProcessMetric.usedGPUMemoryBytes).sum % 2 ^ 64 = 2048 := by
    decide
  have hsmall := GoFloat.ofNat_eq_self (by decide : 2048 ≤ 2 ^ 53)
  exact hvalue.trans (congrArg some ((congrArg GoFloat.ofNat hsum).trans (by simpa using hsmall)))

end GpuFractioning
