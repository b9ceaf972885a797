import GpuFractioning.Mapping.Record

/-!
# The write side of the file handoff

`Writer` of `common/mapping/fsstore/writer.go`, as programs over the mapping
directory: every system call is one request, and every error path is taken
when its request fails. The second half says what each operation leaves in the
directory when the requests are performed.
-/

namespace GpuFractioning.Mapping

open FileSystem

/-- The two halves of `tempFilePattern`, around the random part of the name. -/
def tempBefore : String := ".gpu-fractioning-"

def tempAfter : String := ".tmp"

namespace Writer

/-- The deferred clean-up of a staging file after an error. -/
def discard (tmp : String) : Prog FileData Bool := .call (.remove tmp) fun _ => .pure false

def closeAndDiscard (tmp : String) : Prog FileData Bool := .call (.close tmp) fun _ => discard tmp

/-- The part of `writeRecord` that runs once the staging file exists. -/
def fillAndPublish (info : ContainerInfo) (tmp : String) : Prog FileData Bool :=
  .ifOk (.write tmp (.record (newRecord info)))
    (.ifOk (.chmod tmp)
      (.ifOk (.sync tmp)
        (.ifOk (.close tmp)
          (.ifOk (.rename tmp (fileName info.containerID)) (.pure true) (discard tmp))
          (discard tmp))
        (closeAndDiscard tmp))
      (closeAndDiscard tmp))
    (closeAndDiscard tmp)

/-- `writeRecord`; the result says whether it returned no error. -/
def writeRecord (info : ContainerInfo) : Prog FileData Bool :=
  .ifOk .mkdirAll
    (.call (.createTemp tempBefore tempAfter) fun r =>
      match r with
      | .created tmp => fillAndPublish info tmp
      | _ => .pure false)
    (.pure false)

/-- `Upsert`; a failed write is only logged. -/
def upsert (info : ContainerInfo) : Prog FileData Unit :=
  if info.containerID = "" then .pure () else (writeRecord info).bind fun _ => .pure ()

def delete (containerID : String) : Prog FileData Unit :=
  if containerID = "" then .pure ()
  else .call (.remove (fileName containerID)) fun _ => .pure ()

/-- The keys of `desired`, the set `Replace` fills while it writes. -/
def desired (containers : List ContainerInfo) : List String :=
  (containers.filter fun info => info.containerID ≠ "").map fun info => fileName info.containerID

/-- The body of the second loop of `Replace`. -/
def removeStale (containers : List ContainerInfo) (entry : String × Bool) : Prog FileData Unit :=
  if entry.2 || !GoString.hasSuffix entry.1 fileExtension then .pure ()
  else if entry.1 ∈ desired containers then .pure ()
  else .call (.remove entry.1) fun _ => .pure ()

def replace (containers : List ContainerInfo) : Prog FileData Unit :=
  .ifOk .mkdirAll
    ((Prog.forEach upsert containers).bind fun _ =>
      .call .readDir fun r =>
        match r with
        | .listing entries => Prog.forEach (removeStale containers) entries
        | _ => .pure ())
    (.pure ())

end Writer

/-- No mapping file name is taken by a directory. -/
def JsonFiles (d : MapDir) : Prop :=
  ∀ name b, GoString.hasSuffix name fileExtension = true → d.lookup name ≠ some (.dir b)

theorem JsonFiles.insert {d : MapDir} (h : JsonFiles d) (name : String) (data : FileData) :
    JsonFiles (d.insert name (.file data)) := by
  intro name' b hsuf
  rw [FiniteMap.lookup_insert]
  split_ifs
  · simp
  · exact h name' b hsuf

theorem JsonFiles.erase {d : MapDir} (h : JsonFiles d) (name : String) :
    JsonFiles (d.erase name) := by
  intro name' b hsuf
  rw [FiniteMap.lookup_erase]
  split_ifs
  · simp
  · exact h name' b hsuf

namespace Writer

/-- The file contents a container is published as. -/
def published (info : ContainerInfo) : Entry FileData := .file (.record (newRecord info))

theorem exec_fillAndPublish {d : MapDir} (hd : JsonFiles d) (info : ContainerInfo) {tmp : String}
    (htmp : d.lookup tmp = none) :
    exec (fillAndPublish info tmp) (d.insert tmp (.file default)) =
      (true, d.insert (fileName info.containerID) (published info)) := by
  have hwrite : perform (d.insert tmp (.file default)) (.write tmp (.record (newRecord info))) =
      (.ok, d.insert tmp (published info)) := by
    simp [perform, published]
  have htarget : ∀ b, (d.insert tmp (published info)).lookup (fileName info.containerID) ≠
      some (.dir b) :=
    fun b => hd.insert tmp _ _ b (hasSuffix_fileName _)
  have hrename : perform (d.insert tmp (published info))
      (.rename tmp (fileName info.containerID)) =
      (.ok, d.insert (fileName info.containerID) (published info)) := by
    simp only [perform, AList.lookup_insert, published]
    split
    · next hdir => exact absurd hdir (htarget _)
    · next hsource _ =>
      cases hsource
      rw [FiniteMap.erase_insert htmp]
    · next hsource _ => exact absurd rfl (hsource _)
  rw [fillAndPublish, exec_ifOk hwrite, exec_ifOk rfl, exec_ifOk rfl, exec_ifOk rfl,
    exec_ifOk hrename, exec_pure]

theorem exec_writeRecord {d : MapDir} (hd : JsonFiles d) (info : ContainerInfo) :
    exec (writeRecord info) d =
      (true, d.insert (fileName info.containerID) (published info)) := by
  rw [writeRecord, exec_ifOk rfl]
  exact exec_fillAndPublish hd info (freshName_lookup d _ _)

theorem exec_upsert {d : MapDir} (hd : JsonFiles d) (info : ContainerInfo) :
    (exec (upsert info) d).2 =
      if info.containerID = "" then d
      else d.insert (fileName info.containerID) (published info) := by
  unfold upsert
  split_ifs
  · rfl
  · rw [exec_bind, exec_writeRecord hd, exec_pure]

theorem exec_remove {d : MapDir} {name : String} (h : ∀ b, d.lookup name ≠ some (.dir b)) :
    exec (.call (.remove name) fun _ => .pure ()) d = ((), d.erase name) := by
  cases hl : d.lookup name with
  | none => simp [exec, perform, hl, FiniteMap.erase_eq_self hl]
  | some entry =>
    cases entry with
    | file data => simp [exec, perform, hl]
    | dir b => exact absurd hl (h b)

theorem exec_delete {d : MapDir} (hd : JsonFiles d) (containerID : String) :
    (exec (delete containerID) d).2 =
      if containerID = "" then d else d.erase (fileName containerID) := by
  unfold delete
  split_ifs
  · rfl
  · rw [exec_remove fun b => hd _ b (hasSuffix_fileName _)]

theorem exec_forEach_upsert {d : MapDir} (hd : JsonFiles d) (containers : List ContainerInfo) :
    (exec (Prog.forEach upsert containers) d).2 =
      FiniteMap.insertAll (fun info => fileName info.containerID) published
        (containers.filter fun info => info.containerID ≠ "") d := by
  induction containers generalizing d with
  | nil => rfl
  | cons info containers ih =>
    rw [exec_forEach_cons, exec_upsert hd]
    by_cases h : info.containerID = ""
    · simp [h, ih hd]
    · simp [h, ih (hd.insert _ _), FiniteMap.insertAll, published]

theorem jsonFiles_upsert {d : MapDir} (hd : JsonFiles d) (info : ContainerInfo) :
    JsonFiles (exec (upsert info) d).2 := by
  rw [exec_upsert hd]
  split_ifs
  · exact hd
  · exact hd.insert _ _

theorem jsonFiles_forEach_upsert {d : MapDir} (hd : JsonFiles d)
    (containers : List ContainerInfo) :
    JsonFiles (exec (Prog.forEach upsert containers) d).2 := by
  induction containers generalizing d with
  | nil => exact hd
  | cons info containers ih =>
    rw [exec_forEach_cons]
    exact ih (jsonFiles_upsert hd info)

/-- The listed names the second loop of `Replace` unlinks. -/
def stale (containers : List ContainerInfo) (entries : List (String × Bool)) : List String :=
  (entries.filter fun e => !e.2 && GoString.hasSuffix e.1 fileExtension &&
    !decide (e.1 ∈ desired containers)).map Prod.fst

theorem exec_forEach_removeStale {d : MapDir} (hd : JsonFiles d) (containers : List ContainerInfo)
    (entries : List (String × Bool)) :
    (exec (Prog.forEach (removeStale containers) entries) d).2 =
      FiniteMap.eraseAll (stale containers entries) d := by
  induction entries generalizing d with
  | nil => rfl
  | cons entry entries ih =>
    rw [exec_forEach_cons]
    obtain ⟨name, isDir⟩ := entry
    by_cases hkeep : isDir = true ∨ GoString.hasSuffix name fileExtension = false ∨
        name ∈ desired containers
    · have hbody : exec (removeStale containers (name, isDir)) d = ((), d) := by
        rcases hkeep with h | h | h <;> simp [removeStale, h]
      have hstale : stale containers ((name, isDir) :: entries) = stale containers entries := by
        rcases hkeep with h | h | h <;> simp [stale, h]
      rw [hbody, hstale, ih hd]
    · push Not at hkeep
      obtain ⟨hdir, hsuf, hdes⟩ := hkeep
      have hsuf' : GoString.hasSuffix name fileExtension = true := by simpa using hsuf
      have hbody : exec (removeStale containers (name, isDir)) d = ((), d.erase name) := by
        rw [← exec_remove fun b => hd name b hsuf']
        simp [removeStale, hdir, hsuf', hdes]
      have hstale : stale containers ((name, isDir) :: entries) =
          name :: stale containers entries := by
        simp [stale, hdir, hsuf', hdes]
      rw [hbody, hstale, ih (hd.erase name)]
      rfl

/-- `Replace` is a loop of assignments followed by a loop of deletions. -/
theorem exec_replace {d : MapDir} (hd : JsonFiles d) (containers : List ContainerInfo) :
    (exec (replace containers) d).2 =
      let written := (exec (Prog.forEach upsert containers) d).2
      FiniteMap.eraseAll (stale containers (Directory.listing written)) written := by
  rw [replace, exec_ifOk rfl, exec_bind]
  exact exec_forEach_removeStale (jsonFiles_forEach_upsert hd containers) _ _

theorem mem_stale {containers : List ContainerInfo} {d : MapDir} {name : String} :
    name ∈ stale containers (Directory.listing d) ↔
      (∃ data, d.lookup name = some (.file data)) ∧
        GoString.hasSuffix name fileExtension = true ∧ name ∉ desired containers := by
  have hlisted :
      (name, false) ∈ Directory.listing d ↔ ∃ data, d.lookup name = some (.file data) := by
    rw [Directory.mem_listing]
    constructor
    · rintro ⟨entry | b, hl, hdir⟩
      · exact ⟨entry, hl⟩
      · simp [Entry.isDir] at hdir
    · rintro ⟨data, hl⟩
      exact ⟨_, hl, rfl⟩
  simp [stale, hlisted, and_assoc]

/-- The last of the listed containers that is written to the file `name`. -/
def lastOf (containers : List ContainerInfo) (name : String) : Option ContainerInfo :=
  (containers.filter fun info => info.containerID ≠ "").reverse.find?
    fun info => fileName info.containerID = name

theorem lastOf_isSome {containers : List ContainerInfo} {name : String} :
    (lastOf containers name).isSome ↔ name ∈ desired containers := by
  simp only [lastOf, List.find?_isSome, List.mem_reverse, desired, List.mem_map,
    decide_eq_true_eq]

theorem lookup_forEach_upsert {d : MapDir} (hd : JsonFiles d) (containers : List ContainerInfo)
    (name : String) :
    (exec (Prog.forEach upsert containers) d).2.lookup name =
      ((lastOf containers name).map published).or (d.lookup name) := by
  rw [exec_forEach_upsert hd, FiniteMap.lookup_insertAll]
  rfl

theorem lookup_exec_replace {d : MapDir} (hd : JsonFiles d) (containers : List ContainerInfo)
    {name : String} (hname : GoString.hasSuffix name fileExtension = true) :
    (exec (replace containers) d).2.lookup name = (lastOf containers name).map published := by
  have hwritten := lookup_forEach_upsert hd containers name
  rw [exec_replace hd]
  simp only [FiniteMap.lookup_eraseAll]
  cases hlast : lastOf containers name with
  | some info =>
    have hdes : name ∈ desired containers := lastOf_isSome.mp (by simp [hlast])
    rw [if_neg fun hs => (mem_stale.mp hs).2.2 hdes, hwritten, hlast]
    rfl
  | none =>
    have hdes : name ∉ desired containers := fun h => by simpa [hlast] using lastOf_isSome.mpr h
    rw [hlast, Option.map_none, Option.none_or] at hwritten
    cases hl : d.lookup name with
    | none => simp [hwritten, hl]
    | some entry =>
      cases entry with
      | file data =>
        rw [if_pos (mem_stale.mpr ⟨⟨data, hwritten.trans hl⟩, hname, hdes⟩)]
        rfl
      | dir b => exact absurd hl (hd name b hname)

theorem jsonFiles_delete {d : MapDir} (hd : JsonFiles d) (containerID : String) :
    JsonFiles (exec (delete containerID) d).2 := by
  rw [exec_delete hd]
  split_ifs
  · exact hd
  · exact hd.erase _

theorem jsonFiles_replace {d : MapDir} (hd : JsonFiles d) (containers : List ContainerInfo) :
    JsonFiles (exec (replace containers) d).2 := by
  intro name b hname
  rw [lookup_exec_replace hd containers hname]
  cases lastOf containers name <;> simp [published]

end Writer

end GpuFractioning.Mapping
