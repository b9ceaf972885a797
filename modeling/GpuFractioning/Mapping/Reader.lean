import GpuFractioning.Mapping.Record

/-!
# The read side of the file handoff

`Reader` of `common/mapping/fsstore/reader.go`. A scan is a program: one
listing, then one read for each listed name that is not skipped. `readable`
says what a scan of an undisturbed directory finds for a container ID.
-/

namespace GpuFractioning.Mapping

open FileSystem

namespace Reader

/-- The part of `readFile` after the bytes have been read. -/
def parse (name : String) : FileData → Option ContainerInfo
  | .record r =>
    if r.schemaVersion ≠ schemaVersion then none
    else some (r.toContainer (containerIDFromFile name))
  | .other _ => none

def readFile (name : String) : Prog FileData (Option ContainerInfo) :=
  .call (.readFile name) fun r =>
    match r with
    | .contents data => .pure (parse name data)
    | _ => .pure none

def skipped (entry : String × Bool) : Bool :=
  entry.2 || GoString.hasPrefix entry.1 "." || !GoString.hasSuffix entry.1 fileExtension

/-- The body of the loop of `scan`. -/
def readEntry (entry : String × Bool) : Prog FileData (Option ContainerInfo) :=
  if skipped entry then .pure none else readFile entry.1

def scan : Prog FileData ContainerStore :=
  .call .readDir fun r =>
    match r with
    | .listing entries =>
      (Prog.collect readEntry entries).bind fun infos => .pure (ContainerStore.replace infos)
    | _ => .pure ∅

/-- The store a scan builds when nothing else touches the directory. -/
def store (d : MapDir) : ContainerStore := (exec scan d).1

def activeContainers (d : MapDir) : List ContainerInfo := ContainerStore.activeContainers (store d)

def activePodUIDs (d : MapDir) : Finset String := ContainerStore.activePodUIDs (store d)

/-- The record of a container ID in a directory. -/
def readable (d : MapDir) (containerID : String) : Option ContainerInfo :=
  if GoString.hasPrefix (containerID ++ fileExtension) "." then none
  else
    match d.lookup (containerID ++ fileExtension) with
    | some (.file data) => parse (containerID ++ fileExtension) data
    | _ => none

theorem parse_containerID {name : String} {data : FileData} {info : ContainerInfo}
    (h : parse name data = some info) : info.containerID = containerIDFromFile name := by
  cases data with
  | record r =>
    simp only [parse] at h
    split_ifs at h
    cases h
    rfl
  | other bytes => simp [parse] at h

theorem parse_newRecord (containerID : String) (info : ContainerInfo) :
    parse (containerID ++ fileExtension) (.record (newRecord info)) =
      some ((newRecord info).toContainer containerID) := by
  simp [parse, newRecord]

theorem skipped_eq_false {name : String} {isDir : Bool} :
    skipped (name, isDir) = false ↔
      isDir = false ∧ GoString.hasPrefix name "." = false ∧
        ∃ stem, name = stem ++ fileExtension := by
  rw [← GoString.hasSuffix_iff]
  simp [skipped, and_assoc]

theorem exec_readFile (d : MapDir) (name : String) :
    exec (readFile name) d =
      (match d.lookup name with
        | some (.file data) => parse name data
        | _ => none, d) := by
  simp only [readFile, exec, perform]
  cases d.lookup name with
  | none => rfl
  | some entry => cases entry <;> rfl

theorem exec_readEntry (d : MapDir) (entry : String × Bool) :
    exec (readEntry entry) d =
      (if skipped entry then none else (exec (readFile entry.1) d).1, d) := by
  unfold readEntry
  split_ifs
  · rfl
  · rw [exec_readFile]

theorem store_eq (d : MapDir) :
    store d = ContainerStore.replace
      ((Directory.listing d).filterMap fun entry => (exec (readEntry entry) d).1) := by
  have hread : ∀ entry, (exec (readEntry entry) d).2 = d := fun entry => by rw [exec_readEntry]
  simp only [store, scan, exec, perform]
  rw [exec_bind, exec_collect hread]
  rfl

theorem readable_containerID {d : MapDir} {containerID : String} {info : ContainerInfo}
    (h : readable d containerID = some info) : info.containerID = containerID := by
  unfold readable at h
  split_ifs at h
  split at h
  · rw [parse_containerID h, containerIDFromFile_append]
  · cases h

theorem mem_scanned {d : MapDir} {info : ContainerInfo} :
    (info ∈ (Directory.listing d).filterMap fun entry => (exec (readEntry entry) d).1) ↔
      readable d info.containerID = some info := by
  simp only [List.mem_filterMap, Prod.exists, exec_readEntry, exec_readFile, Directory.mem_listing]
  constructor
  · rintro ⟨name, isDir, ⟨entry, hl, hdir⟩, hread⟩
    split_ifs at hread with hskip
    obtain ⟨-, hdot, stem, rfl⟩ := skipped_eq_false.mp (by simpa using hskip)
    rw [hl] at hread
    cases entry with
    | file data =>
      have hid : info.containerID = stem := by simpa using parse_containerID hread
      rw [hid, readable, hdot, hl]
      exact hread
    | dir b => cases hread
  · intro h
    unfold readable at h
    split_ifs at h with hdot
    split at h
    · next data hl =>
      refine ⟨info.containerID ++ fileExtension, false, ⟨_, hl, rfl⟩, ?_⟩
      have hskip : skipped (info.containerID ++ fileExtension, false) = false :=
        skipped_eq_false.mpr ⟨rfl, by simpa using hdot, _, rfl⟩
      rw [hskip, hl]
      exact h
    · cases h

theorem readable_empty (d : MapDir) : readable d "" = none := by
  have h : GoString.hasPrefix ("" ++ fileExtension) "." = true := by decide
  simp only [readable, h, if_true]

theorem lookup_store (d : MapDir) (containerID : String) :
    (store d).lookup containerID = readable d containerID := by
  rw [store_eq]
  exact ContainerStore.lookup_replace_of_mem_iff (fun _ _ => readable_containerID)
    (readable_empty d) (fun _ => mem_scanned) containerID

theorem activeContainers_eq_nil {d : MapDir} :
    activeContainers d = [] ↔ ∀ containerID, readable d containerID = none := by
  rw [List.eq_nil_iff_forall_not_mem]
  simp only [activeContainers, ContainerStore.mem_activeContainers, lookup_store, not_exists]
  rw [forall_comm]
  exact forall_congr' fun containerID => Option.eq_none_iff_forall_ne_some.symm

end Reader

end GpuFractioning.Mapping
