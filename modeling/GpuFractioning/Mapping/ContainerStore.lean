import GpuFractioning.Lib.FiniteMap
import GpuFractioning.Lib.GoString

/-!
# The in-memory container-to-pod mapping

`ContainerInfo`, `GPUDevice` and `ContainerStore` of
`common/mapping/store/container_store.go`. Containers are keyed by their raw
ID; deletion also removes every stored ID with the same normal form. The
locks of the source guard single calls and leave no trace in the values.
-/

namespace GpuFractioning.Mapping

structure GPUDevice where
  index : ℤ
  minorNumber : ℤ
  uuid : String
  deriving DecidableEq, Repr

structure ContainerInfo where
  containerID : String
  container : String
  pod : String
  namespace_ : String
  podUID : String
  cgroupPath : String
  gpuDevices : List GPUDevice
  requestedMemoryMiB : ℤ
  deriving DecidableEq, Repr

/-- `normalizeContainerID`: outer white space, scheme and outer slashes are dropped. -/
def normalizeContainerID (containerID : String) : String :=
  let containerID := GoString.trimSpace containerID
  if containerID = "" then ""
  else GoString.trim '/' (GoString.afterLast "://" containerID)

abbrev ContainerStore := FiniteMap String ContainerInfo

namespace ContainerStore

/-- `Replace`: a new table, in which a later entry with the same ID wins. -/
def replace (containers : List ContainerInfo) : ContainerStore :=
  containers.foldl (fun next container =>
    if container.containerID = "" then next else next.insert container.containerID container) ∅

def upsert (s : ContainerStore) (container : ContainerInfo) : ContainerStore :=
  if container.containerID = "" then s else s.insert container.containerID container

/-- `Delete`: the exact ID, then every stored ID with the same normal form. -/
def delete (s : ContainerStore) (containerID : String) : ContainerStore :=
  if containerID = "" then s
  else
    let s := s.erase containerID
    let normalized := normalizeContainerID containerID
    if normalized = "" then s
    else FiniteMap.filter (fun storedID _ => decide (normalizeContainerID storedID ≠ normalized)) s

def activeContainers (s : ContainerStore) : List ContainerInfo := s.pairs.map Prod.snd

/-- The pod UIDs present in the mapping; containers without one are ignored. -/
def activePodUIDs (s : ContainerStore) : Finset String :=
  ((activeContainers s).map ContainerInfo.podUID).toFinset.filter (· ≠ "")

theorem replace_eq_insertAll (containers : List ContainerInfo) :
    replace containers = FiniteMap.insertAll ContainerInfo.containerID id
      (containers.filter fun container => container.containerID ≠ "") ∅ := by
  rw [FiniteMap.insertAll, List.foldl_filter, replace]
  congr 1
  funext next container
  by_cases h : container.containerID = "" <;> simp [h]

theorem lookup_replace (containers : List ContainerInfo) (containerID : String) :
    (replace containers).lookup containerID =
      if containerID = "" then none
      else containers.reverse.find? fun container => container.containerID = containerID := by
  rw [replace_eq_insertAll, FiniteMap.lookup_insertAll, ← List.filter_reverse, List.find?_filter]
  simp only [AList.lookup_empty, Option.or_none, Option.map_id_fun, id_eq]
  split_ifs with h
  · rw [List.find?_eq_none]
    intro container _
    simp only [h, decide_eq_true_eq, not_and]
    exact fun hne he => hne he
  · congr 1
    funext container
    by_cases he : container.containerID = containerID <;> simp [he, h]

theorem lookup_replace_of_mem_iff {containers : List ContainerInfo}
    {f : String → Option ContainerInfo}
    (hid : ∀ containerID info, f containerID = some info → info.containerID = containerID)
    (hempty : f "" = none) (hmem : ∀ info, info ∈ containers ↔ f info.containerID = some info)
    (containerID : String) : (replace containers).lookup containerID = f containerID := by
  rw [lookup_replace]
  split_ifs with h
  · rw [h, hempty]
  · cases hf : containers.reverse.find? fun container => container.containerID = containerID with
    | some info =>
      have hkey : info.containerID = containerID := by simpa using List.find?_some hf
      rw [← hkey, (hmem info).mp (List.mem_reverse.mp (List.mem_of_find?_eq_some hf))]
    | none =>
      cases hl : f containerID with
      | none => rfl
      | some info =>
        have hkey := hid containerID info hl
        have hin := List.mem_reverse.mpr ((hmem info).mpr (hkey.symm ▸ hl))
        exact absurd hkey (by simpa using List.find?_eq_none.mp hf info hin)

theorem lookup_upsert (s : ContainerStore) (container : ContainerInfo) (containerID : String)
    (h : container.containerID ≠ "") :
    (upsert s container).lookup containerID =
      if containerID = container.containerID then some container else s.lookup containerID := by
  rw [upsert, if_neg h, FiniteMap.lookup_insert]

theorem mem_activeContainers {s : ContainerStore} {info : ContainerInfo} :
    info ∈ activeContainers s ↔ ∃ containerID, s.lookup containerID = some info := by
  simp only [activeContainers, List.mem_map, Prod.exists, exists_eq_right]
  exact exists_congr fun containerID => FiniteMap.mem_pairs

theorem mem_activePodUIDs {s : ContainerStore} {uid : String} :
    uid ∈ activePodUIDs s ↔
      uid ≠ "" ∧ ∃ containerID info, s.lookup containerID = some info ∧ info.podUID = uid := by
  simp only [activePodUIDs, Finset.mem_filter, List.mem_toFinset, List.mem_map,
    mem_activeContainers]
  constructor
  · rintro ⟨⟨info, ⟨containerID, h⟩, hu⟩, hne⟩
    exact ⟨hne, containerID, info, h, hu⟩
  · rintro ⟨hne, containerID, info, h, hu⟩
    exact ⟨⟨info, ⟨containerID, h⟩, hu⟩, hne⟩

end ContainerStore

end GpuFractioning.Mapping
