import GpuFractioning.Mapping.Reader
import GpuFractioning.Mapping.Writer

/-!
# The mapping, and two stores that implement it

What both stores are for is a partial function from container IDs to records,
changed by `Update`s. The in-memory store implements it on its lookups, the
mapping directory on what a scan finds, each for updates whose IDs are bare.
The file-backed store therefore refines the in-memory one, up to the two fields
a record does not carry.
-/

namespace GpuFractioning.Mapping

open FileSystem

/-- The calls of the interface `store.Writer`. -/
inductive Update where
  | upsert (info : ContainerInfo)
  | delete (containerID : String)
  | replace (containers : List ContainerInfo)
  deriving DecidableEq, Repr

abbrev ContainerMap := String → Option ContainerInfo

namespace Update

/-- The intended effect of an update. -/
def apply : Update → ContainerMap → ContainerMap
  | upsert info, m => Function.update m info.containerID (some info)
  | delete containerID, m => Function.update m containerID none
  | replace containers, _ => fun containerID =>
    containers.reverse.find? fun info => info.containerID = containerID

def onStore : Update → ContainerStore → ContainerStore
  | upsert info, s => s.upsert info
  | delete containerID, s => s.delete containerID
  | replace containers, _ => ContainerStore.replace containers

def onDir : Update → Prog FileData Unit
  | upsert info => Writer.upsert info
  | delete containerID => Writer.delete containerID
  | replace containers => Writer.replace containers

/-- The update as the record files keep it. -/
def recorded : Update → Update
  | upsert info => upsert info.recorded
  | delete containerID => delete containerID
  | replace containers => replace (containers.map ContainerInfo.recorded)

def containerIDs : Update → List String
  | upsert info => [info.containerID]
  | delete containerID => [containerID]
  | replace containers => containers.map ContainerInfo.containerID

/-- Every ID the update mentions is bare. -/
def Bare (u : Update) : Prop := ∀ containerID ∈ u.containerIDs, Mapping.Bare containerID

instance (u : Update) : Decidable u.Bare := inferInstanceAs (Decidable (∀ _ ∈ _, _))

theorem find?_map_recorded (containers : List ContainerInfo) (containerID : String) :
    (containers.map ContainerInfo.recorded).reverse.find?
        (fun info => info.containerID = containerID) =
      (containers.reverse.find? fun info => info.containerID = containerID).map
        ContainerInfo.recorded := by
  rw [← List.map_reverse, List.find?_map]
  rfl

theorem recorded_apply (u : Update) (m : ContainerMap) (containerID : String) :
    u.recorded.apply (fun id => (m id).map ContainerInfo.recorded) containerID =
      (u.apply m containerID).map ContainerInfo.recorded := by
  cases u with
  | upsert info => by_cases h : containerID = info.containerID <;> simp [recorded, apply, h]
  | delete id => by_cases h : containerID = id <;> simp [recorded, apply, h]
  | replace containers => exact find?_map_recorded containers containerID

end Update

section InMemory

/-- Every key of the in-memory store is bare. -/
def BareKeys (s : ContainerStore) : Prop := ∀ containerID info,
  s.lookup containerID = some info → Bare containerID

theorem lookup_delete {s : ContainerStore} (hs : BareKeys s) {containerID : String}
    (h : Bare containerID) (containerID' : String) :
    (s.delete containerID).lookup containerID' =
      if containerID' = containerID then none else s.lookup containerID' := by
  have hnorm := normalizeContainerID_of_bare h
  simp only [ContainerStore.delete, h.nonempty, hnorm, if_false]
  rw [FiniteMap.lookup_filter, FiniteMap.lookup_erase]
  split_ifs with heq
  · rfl
  · cases hl : s.lookup containerID' with
    | none => rfl
    | some info => simp [normalizeContainerID_of_bare (hs containerID' info hl), heq]

theorem lookup_onStore {s : ContainerStore} (hs : BareKeys s) {u : Update} (hu : u.Bare)
    (containerID : String) : (u.onStore s).lookup containerID = u.apply s.lookup containerID := by
  cases u with
  | upsert info =>
    have hbare : Bare info.containerID := hu _ (by simp [Update.containerIDs])
    simp only [Update.onStore, Update.apply, ContainerStore.lookup_upsert _ _ _ hbare.nonempty,
      Function.update_apply]
  | delete id =>
    simp only [Update.onStore, Update.apply, Function.update_apply]
    exact lookup_delete hs (hu _ (by simp [Update.containerIDs])) containerID
  | replace containers =>
    simp only [Update.onStore, Update.apply, ContainerStore.lookup_replace]
    split_ifs with h
    · symm
      rw [List.find?_eq_none]
      intro info hinfo heq
      have hbare := hu info.containerID (List.mem_map_of_mem (List.mem_reverse.mp hinfo))
      exact hbare.nonempty ((of_decide_eq_true heq).trans h)
    · rfl

theorem bareKeys_onStore {s : ContainerStore} (hs : BareKeys s) {u : Update} (hu : u.Bare) :
    BareKeys (u.onStore s) := by
  intro containerID info h
  rw [lookup_onStore hs hu] at h
  cases u with
  | upsert new =>
    simp only [Update.apply, Function.update_apply] at h
    split_ifs at h with heq
    · exact heq ▸ hu _ (by simp [Update.containerIDs])
    · exact hs _ _ h
  | delete id =>
    simp only [Update.apply, Function.update_apply] at h
    split_ifs at h
    exact hs _ _ h
  | replace containers =>
    have hid : info.containerID = containerID := by simpa using List.find?_some h
    have hmem := List.mem_reverse.mp (List.mem_of_find?_eq_some h)
    exact hid ▸ hu _ (List.mem_map_of_mem hmem)

end InMemory

section OnDisk

open Reader

theorem readable_congr {d d' : MapDir} {containerID : String}
    (h : d.lookup (containerID ++ fileExtension) = d'.lookup (containerID ++ fileExtension)) :
    readable d containerID = readable d' containerID := by
  simp only [readable, h]

theorem readable_published {d : MapDir} {info : ContainerInfo} (hbare : Bare info.containerID)
    (h : d.lookup (info.containerID ++ fileExtension) = some (Writer.published info)) :
    readable d info.containerID = some info.recorded := by
  have hdot : GoString.hasPrefix (info.containerID ++ fileExtension) "." = false := by
    rw [hasPrefix_append_fileExtension hbare.nonempty, hbare.visible]
  simp only [readable, hdot, h, Writer.published, parse_newRecord, toContainer_newRecord,
    Bool.false_eq_true, if_false]

theorem readable_absent {d : MapDir} {containerID : String}
    (h : d.lookup (containerID ++ fileExtension) = none) : readable d containerID = none := by
  simp [readable, h]

theorem readable_upsert {d : MapDir} (hd : JsonFiles d) {info : ContainerInfo}
    (hbare : Bare info.containerID) (containerID : String) :
    readable (exec (Writer.upsert info) d).2 containerID =
      if containerID = info.containerID then some info.recorded else readable d containerID := by
  have hl : ∀ name, (exec (Writer.upsert info) d).2.lookup name =
      if name = info.containerID ++ fileExtension then some (Writer.published info)
      else d.lookup name := by
    intro name
    rw [Writer.exec_upsert hd, if_neg hbare.nonempty, FiniteMap.lookup_insert,
      fileName_of_bare hbare]
  split_ifs with h
  · subst h
    exact readable_published hbare (by simp [hl])
  · apply readable_congr
    rw [hl, if_neg fun heq => h (GoString.append_left_injective heq)]

theorem readable_delete {d : MapDir} (hd : JsonFiles d) {containerID : String}
    (hbare : Bare containerID) (containerID' : String) :
    readable (exec (Writer.delete containerID) d).2 containerID' =
      if containerID' = containerID then none else readable d containerID' := by
  have hl : ∀ name, (exec (Writer.delete containerID) d).2.lookup name =
      if name = containerID ++ fileExtension then none else d.lookup name := by
    intro name
    rw [Writer.exec_delete hd, if_neg hbare.nonempty, FiniteMap.lookup_erase,
      fileName_of_bare hbare]
  split_ifs with h
  · subst h
    exact readable_absent (by simp [hl])
  · apply readable_congr
    rw [hl, if_neg fun heq => h (GoString.append_left_injective heq)]

/-- Bare IDs have their own files, so the last container written to a file is the
last one with that ID. -/
theorem lastOf_append_fileExtension {containers : List ContainerInfo}
    (hbare : ∀ info ∈ containers, Bare info.containerID) (containerID : String) :
    Writer.lastOf containers (containerID ++ fileExtension) =
      containers.reverse.find? fun info => info.containerID = containerID := by
  have hall : (containers.filter fun info => info.containerID ≠ "") = containers := by
    rw [List.filter_eq_self]
    intro info hinfo
    simpa using (hbare info hinfo).nonempty
  rw [Writer.lastOf, hall]
  apply List.find?_congr
  intro info hinfo
  rw [fileName_of_bare (hbare info (List.mem_reverse.mp hinfo))]
  congr 1
  exact propext ⟨GoString.append_left_injective, fun h => by rw [h]⟩

theorem readable_replace {d : MapDir} (hd : JsonFiles d) {containers : List ContainerInfo}
    (hbare : ∀ info ∈ containers, Bare info.containerID) (containerID : String) :
    readable (exec (Writer.replace containers) d).2 containerID =
      (containers.reverse.find? fun info => info.containerID = containerID).map
        ContainerInfo.recorded := by
  have hl := Writer.lookup_exec_replace hd containers
    (GoString.hasSuffix_append containerID fileExtension)
  rw [lastOf_append_fileExtension hbare] at hl
  cases hf : containers.reverse.find? fun info => info.containerID = containerID with
  | none => exact readable_absent (by rw [hl, hf]; rfl)
  | some info =>
    have hid : info.containerID = containerID := by simpa using List.find?_some hf
    have hmem := List.mem_reverse.mp (List.mem_of_find?_eq_some hf)
    subst hid
    exact readable_published (hbare info hmem) (by rw [hl, hf]; rfl)

theorem readable_onDir {d : MapDir} (hd : JsonFiles d) {u : Update} (hu : u.Bare)
    (containerID : String) :
    readable (exec u.onDir d).2 containerID = u.recorded.apply (readable d) containerID := by
  cases u with
  | upsert info =>
    simp only [Update.onDir, Update.recorded, Update.apply, Function.update_apply,
      recorded_containerID]
    exact readable_upsert hd (hu _ (by simp [Update.containerIDs])) containerID
  | delete id =>
    simp only [Update.onDir, Update.recorded, Update.apply, Function.update_apply]
    exact readable_delete hd (hu _ (by simp [Update.containerIDs])) containerID
  | replace containers =>
    simp only [Update.onDir, Update.recorded, Update.apply]
    rw [readable_replace hd fun info h => hu _ (List.mem_map_of_mem h), Update.find?_map_recorded]

theorem jsonFiles_onDir {d : MapDir} (hd : JsonFiles d) (u : Update) :
    JsonFiles (exec u.onDir d).2 := by
  cases u with
  | upsert info => exact Writer.jsonFiles_upsert hd info
  | delete id => exact Writer.jsonFiles_delete hd id
  | replace containers => exact Writer.jsonFiles_replace hd containers

end OnDisk

section Runs

/-- The in-memory store after a sequence of updates. -/
def runStore (us : List Update) : ContainerStore := us.foldl (fun s u => u.onStore s) ∅

/-- The directory after a sequence of updates of `d`. -/
def runDir (us : List Update) (d : MapDir) : MapDir := us.foldl (fun d u => (exec u.onDir d).2) d

/-- The relation one update preserves. -/
structure Refines (d : MapDir) (s : ContainerStore) : Prop where
  jsonFiles : JsonFiles d
  bareKeys : BareKeys s
  agrees : ∀ containerID,
    Reader.readable d containerID = (s.lookup containerID).map ContainerInfo.recorded

theorem refines_empty : Refines ∅ ∅ where
  jsonFiles := by simp [JsonFiles]
  bareKeys := by simp [BareKeys]
  agrees containerID := by simp [Reader.readable]

theorem Refines.update {d : MapDir} {s : ContainerStore} (h : Refines d s) {u : Update}
    (hu : u.Bare) : Refines (exec u.onDir d).2 (u.onStore s) where
  jsonFiles := jsonFiles_onDir h.jsonFiles u
  bareKeys := bareKeys_onStore h.bareKeys hu
  agrees containerID := by
    rw [readable_onDir h.jsonFiles hu, lookup_onStore h.bareKeys hu, ← Update.recorded_apply,
      funext h.agrees]

theorem refines_run {us : List Update} (hus : ∀ u ∈ us, u.Bare) :
    Refines (runDir us ∅) (runStore us) := by
  induction us using List.reverseRecOn with
  | nil => exact refines_empty
  | append_singleton us u ih =>
    simp only [runDir, runStore, List.foldl_append, List.foldl_cons, List.foldl_nil]
    exact (ih fun v hv => hus v (by simp [hv])).update (hus u (by simp))

theorem Refines.activeContainers {d : MapDir} {s : ContainerStore} (h : Refines d s)
    (info : ContainerInfo) :
    info ∈ Reader.activeContainers d ↔
      info ∈ s.activeContainers.map ContainerInfo.recorded := by
  simp only [Reader.activeContainers, ContainerStore.mem_activeContainers, Reader.lookup_store,
    h.agrees, List.mem_map, Option.map_eq_some_iff]
  constructor
  · rintro ⟨containerID, stored, hl, rfl⟩
    exact ⟨stored, ⟨containerID, hl⟩, rfl⟩
  · rintro ⟨stored, ⟨containerID, hl⟩, rfl⟩
    exact ⟨containerID, stored, hl, rfl⟩

theorem Refines.activePodUIDs {d : MapDir} {s : ContainerStore} (h : Refines d s) :
    Reader.activePodUIDs d = s.activePodUIDs := by
  ext uid
  simp only [Reader.activePodUIDs, ContainerStore.mem_activePodUIDs, Reader.lookup_store, h.agrees,
    Option.map_eq_some_iff]
  refine and_congr_right fun _ => exists_congr fun containerID => ?_
  constructor
  · rintro ⟨info, ⟨stored, hl, rfl⟩, hu⟩
    exact ⟨stored, hl, hu⟩
  · rintro ⟨stored, hl, hu⟩
    exact ⟨_, ⟨stored, hl, rfl⟩, hu⟩

/-- Along every sequence of updates with bare IDs, the files answer the two
queries as the in-memory store does. -/
theorem file_mapping_refines_memory (us : List Update) (hus : ∀ u ∈ us, u.Bare) (n : ℕ) :
    (∀ info, info ∈ Reader.activeContainers (runDir (us.take n) ∅) ↔
      info ∈ (runStore (us.take n)).activeContainers.map ContainerInfo.recorded) ∧
    Reader.activePodUIDs (runDir (us.take n) ∅) = (runStore (us.take n)).activePodUIDs := by
  have h : Refines (runDir (us.take n) ∅) (runStore (us.take n)) :=
    refines_run fun u hu => hus u (List.mem_of_mem_take hu)
  exact ⟨h.activeContainers, h.activePodUIDs⟩

/-- A container of pod `podUID` on the device with minor number 1. -/
def containerOn (containerID podUID : String) : ContainerInfo :=
  { containerID := containerID
    container := "main"
    pod := "trainer"
    namespace_ := "team"
    podUID := podUID
    cgroupPath := "/kubepods/" ++ containerID
    gpuDevices := [⟨0, 1, ""⟩]
    requestedMemoryMiB := 1024 }

theorem file_mapping_refines_memory_mixed_run :
    let us : List Update := [.upsert (containerOn "a1" "u1"), .upsert (containerOn "b2" "u2"),
      .replace [containerOn "b2" "u2", containerOn "c3" "u3", containerOn "b2" "u4"], .delete "c3"]
    (∀ info, info ∈ Reader.activeContainers (runDir (us.take 4) ∅) ↔
      info ∈ (runStore (us.take 4)).activeContainers.map ContainerInfo.recorded) ∧
    Reader.activePodUIDs (runDir (us.take 4) ∅) = (runStore (us.take 4)).activePodUIDs :=
  file_mapping_refines_memory _ (by decide) 4

end Runs

end GpuFractioning.Mapping
