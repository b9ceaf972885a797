import GpuFractioning.Lib.GoPath
import GpuFractioning.Lib.GoStrconv
import GpuFractioning.Lib.GoText
import GpuFractioning.Lib.KeyedList
import GpuFractioning.Mapping.CgroupPaths
import GpuFractioning.Metricsd.Engine

/-!
# Attribution of processes to containers

`cgroup.go` and `podsource.go` of `metricsd/internal/metrics`: the paths of
`/proc/<pid>/cgroup` are matched with the containers of a snapshot of the
mapping. A process belongs to a container whose ID occurs in its first path
that has any.
-/

namespace GpuFractioning.Metricsd

open Mapping

section Source

def defaultProcRoot : String := "/proc"

def cgroupFile : String := "cgroup"

structure ProcCgroupResolver where
  procRoot : String

def newProcCgroupResolver (procRoot : String) : ProcCgroupResolver :=
  let procRoot := GoString.trimSpace procRoot
  ⟨if procRoot = "" then defaultProcRoot else procRoot⟩

/-- One line of the file: the third field, or none for a line that is skipped. -/
def parseCgroupLine (line : String) : Option String :=
  let line := GoString.trimSpace line
  if line = "" then none
  else
    match GoString.splitN ':' 3 line with
    | [_, _, path] =>
      let path := GoString.trimSpace path
      if path = "" then none else some path
    | _ => none

def parseCgroupPaths (data : String) : List String :=
  (GoString.split '\n' data).filterMap parseCgroupLine

def ProcCgroupResolver.path (r : ProcCgroupResolver) (pid : ℕ) : String :=
  GoPath.join [r.procRoot, GoStrconv.formatInt pid, cgroupFile]

/-- `readFile` is `os.ReadFile`, with the text of its error. -/
def ProcCgroupResolver.cgroupPaths (r : ProcCgroupResolver)
    (readFile : String → Except String String) (pid : ℕ) : Except String (List String) :=
  match readFile (r.path pid) with
  | .error err =>
    .error ("read pid " ++ GoStrconv.formatInt pid ++ " cgroup file " ++
      GoText.quote (r.path pid) ++ ": " ++ err)
  | .ok data => .ok (parseCgroupPaths data)

/-- `podSourceSnapshot.ResolveProcess`; a process whose paths cannot be read has no container. -/
def resolveProcess {s : ContainerStore} (order : RangeOrder s) (r : ProcCgroupResolver)
    (readFile : String → Except String String) (process : GPUProcessMetric) :
    Option ContainerInfo :=
  match r.cgroupPaths readFile process.pid with
  | .error _ => none
  | .ok paths => matchCgroupPaths order paths

/-- `cgroupPodSource.Snapshot`: the containers of the reader, stored once. -/
def snapshot (r : ProcCgroupResolver) (readFile : String → Except String String)
    (records : List ContainerInfo)
    (order : GPUProcessMetric → RangeOrder (ContainerStore.replace records)) : PodSource :=
  { store := ContainerStore.replace records
    resolveProcess := fun process => resolveProcess (order process) r readFile process
    resolved_mem := by
      intro process info h
      unfold resolveProcess at h
      split at h
      · cases h
      · exact mem_of_matchCgroupPaths _ h }

end Source

section Lines

/-- The lines of a cgroup file: three fields, or fewer than two colons. -/
inductive CgroupLine where
  | entry (hierarchyID controllers path : String)
  | short (text : String)

namespace CgroupLine

def text : CgroupLine → String
  | entry hierarchyID controllers path => hierarchyID ++ ":" ++ controllers ++ ":" ++ path
  | short text => text

def path? : CgroupLine → Option String
  | entry _ _ path => some path
  | short _ => none

/-- Only the last field may have a colon, and no line has a line break. -/
def Valid : CgroupLine → Prop
  | entry hierarchyID controllers path =>
    (':' ∉ hierarchyID.toList ∧ '\n' ∉ hierarchyID.toList) ∧
      (':' ∉ controllers.toList ∧ '\n' ∉ controllers.toList) ∧ '\n' ∉ path.toList
  | short text => text.toList.count ':' < 2 ∧ '\n' ∉ text.toList

instance : DecidablePred Valid := fun line => by
  cases line <;> exact inferInstanceAs (Decidable (_ ∧ _))

theorem Valid.newline_notMem {line : CgroupLine} (h : line.Valid) : '\n' ∉ line.text.toList := by
  cases line with
  | entry hierarchyID controllers path =>
    obtain ⟨⟨-, hid⟩, ⟨-, hcontrollers⟩, hpath⟩ := h
    simp [text, hid, hcontrollers, hpath]
  | short text => exact h.2

end CgroupLine

theorem isSpace_colon : GoString.isSpace ':' = false := by decide

theorem parseCgroupLine_entry {hierarchyID controllers path : String}
    (h : (CgroupLine.entry hierarchyID controllers path).Valid) :
    parseCgroupLine (CgroupLine.entry hierarchyID controllers path).text =
      let field := GoString.trimSpace (String.ofList (path.toList.rdropWhile GoString.isSpace))
      if field = "" then none else some field := by
  obtain ⟨⟨hid, -⟩, ⟨hcontrollers, -⟩, -⟩ := h
  have htext : (CgroupLine.entry hierarchyID controllers path).text.toList =
      hierarchyID.toList ++ ':' :: (controllers.toList ++ ':' :: path.toList) := by
    simp [CgroupLine.text]
  have htrim : GoString.trimSpace (CgroupLine.entry hierarchyID controllers path).text =
      String.ofList (hierarchyID.toList.dropWhile GoString.isSpace ++
        ':' :: (controllers.toList ++ ':' :: path.toList.rdropWhile GoString.isSpace)) := by
    rw [GoString.trimSpace, htext, GoString.trimChars_append_cons isSpace_colon,
      GoString.rdropWhile_append_cons isSpace_colon]
  have hdrop : ':' ∉ hierarchyID.toList.dropWhile GoString.isSpace := fun hmem =>
    hid ((List.dropWhile_suffix _).subset hmem)
  have hparts : GoString.splitN ':' 3
        (GoString.trimSpace (CgroupLine.entry hierarchyID controllers path).text) =
      [String.ofList (hierarchyID.toList.dropWhile GoString.isSpace), controllers,
        String.ofList (path.toList.rdropWhile GoString.isSpace)] := by
    rw [htrim, GoString.splitN, String.toList_ofList, GoString.splitNList_append_sep hdrop 1,
      GoString.splitNList_append_sep hcontrollers 0, GoString.splitNList]
    simp
  have hnonblank :
      GoString.trimSpace (CgroupLine.entry hierarchyID controllers path).text ≠ "" := by
    rw [htrim, ne_eq, ← String.toList_eq_nil_iff, String.toList_ofList]
    simp
  unfold parseCgroupLine
  dsimp only
  rw [if_neg hnonblank, hparts]

theorem parseCgroupLine_short {text : String} (h : (CgroupLine.short text).Valid) :
    parseCgroupLine (CgroupLine.short text).text = none := by
  rw [CgroupLine.text]
  have hcount : (GoString.trimSpace text).toList.count ':' ≤ text.toList.count ':' := by
    rw [GoString.trimSpace, String.toList_ofList]
    exact ((List.rdropWhile_prefix _ _).sublist.trans
      (List.dropWhile_suffix _).sublist).count_le ':'
  have hfew := h.1
  have hlength := GoString.length_splitNList_le ':' 3 (GoString.trimSpace text).toList
  unfold parseCgroupLine
  dsimp only
  split_ifs
  · rfl
  · split
    · next hparts =>
      have := congrArg List.length hparts
      simp only [GoString.splitN, List.length_map, List.length_cons, List.length_nil] at this
      omega
    · rfl

theorem contains_parseCgroupLine {containerID : String} (hid : PlainID containerID)
    {hierarchyID controllers path : String}
    (h : (CgroupLine.entry hierarchyID controllers path).Valid) :
    (∃ field ∈ parseCgroupLine (CgroupLine.entry hierarchyID controllers path).text,
        GoString.contains field containerID = true) ↔
      GoString.contains path containerID = true := by
  have hne := hid.isComponent.1
  have hspace := hid.isSpace_eq_false
  have hfield : containerID.toList <:+: (GoString.trimSpace
        (String.ofList (path.toList.rdropWhile GoString.isSpace))).toList ↔
      containerID.toList <:+: path.toList := by
    rw [GoString.trimSpace, String.toList_ofList, String.toList_ofList,
      GoString.infix_trimChars_iff hne hspace, GoString.infix_rdropWhile_iff hne hspace]
  rw [parseCgroupLine_entry h, GoString.contains_iff, ← hfield]
  dsimp only
  split_ifs with hempty
  · rw [hempty]
    simpa using hid.1
  · simp [GoString.contains_iff]

end Lines

section Attribution

/-- The ID of the container occurs in the path. -/
def occurs (container : ContainerInfo) (path : String) : Bool :=
  GoString.contains path container.containerID

/-- Some listed container occurs in the path. -/
def hit (containers : List ContainerInfo) (path : String) : Bool :=
  containers.any (occurs · path)

/-- A result is a container of the first path that has any, or there is none. -/
def Attributed (containers : List ContainerInfo) (paths : List String)
    (result : Option ContainerInfo) : Prop :=
  (paths.find? (hit containers) = none ∧ result = none) ∨
    ∃ path container, paths.find? (hit containers) = some path ∧ container ∈ containers ∧
      occurs container path = true ∧ result = some container

theorem hit_iff {containers : List ContainerInfo} {path : String} :
    hit containers path = true ↔ ∃ container ∈ containers, occurs container path = true := by
  simp [hit]

variable {s : ContainerStore}

theorem Attributed.cons_of_not_hit {containers : List ContainerInfo} {path : String}
    {paths : List String} {result : Option ContainerInfo} (hpath : ¬ hit containers path = true)
    (h : Attributed containers paths result) : Attributed containers (path :: paths) result := by
  unfold Attributed at h ⊢
  rw [List.find?_cons_of_neg hpath]
  exact h

theorem attributed_cons {field path : String} {fields paths : List String} (order : RangeOrder s)
    (hmatches : ∀ container ∈ ContainerStore.activeContainers s,
      cgroupPathMatchesContainer field container = true ↔ occurs container path = true)
    (hrest : Attributed (ContainerStore.activeContainers s) paths
      (matchCgroupPaths order.later fields)) :
    Attributed (ContainerStore.activeContainers s) (path :: paths)
      (matchCgroupPaths order (field :: fields)) := by
  rw [matchCgroupPaths]
  cases hfind : (order.visit 0).find? (cgroupPathMatchesContainer field) with
  | none =>
    apply hrest.cons_of_not_hit
    rw [hit_iff]
    rintro ⟨container, hcontainer, hoccurs⟩
    have hvisit := (order.perm 0).symm.subset hcontainer
    exact List.find?_eq_none.mp hfind container hvisit
      ((hmatches container hcontainer).mpr hoccurs)
  | some container =>
    have hcontainer := (order.perm 0).subset (List.mem_of_find?_eq_some hfind)
    have hoccurs := (hmatches container hcontainer).mp (List.find?_some hfind)
    refine Or.inr ⟨path, container, ?_, hcontainer, hoccurs, rfl⟩
    exact List.find?_cons_of_pos (hit_iff.mpr ⟨container, hcontainer, hoccurs⟩)

theorem attributed_matchCgroupPaths
    (hplain : ∀ container ∈ ContainerStore.activeContainers s,
      container.cgroupPath = "" ∧ PlainID container.containerID)
    {lines : List CgroupLine} (hlines : ∀ line ∈ lines, line.Valid) :
    ∀ order : RangeOrder s,
      Attributed (ContainerStore.activeContainers s) (lines.filterMap CgroupLine.path?)
        (matchCgroupPaths order ((lines.map CgroupLine.text).filterMap parseCgroupLine)) := by
  induction lines with
  | nil => exact fun order => Or.inl ⟨rfl, rfl⟩
  | cons line lines ih =>
    rw [List.forall_mem_cons] at hlines
    intro order
    cases line with
    | short text =>
      rw [List.map_cons, List.filterMap_cons_none (f := CgroupLine.path?) rfl,
        List.filterMap_cons_none (f := parseCgroupLine) (parseCgroupLine_short hlines.1)]
      exact ih hlines.2 order
    | entry hierarchyID controllers path =>
      rw [List.map_cons, List.filterMap_cons_some (f := CgroupLine.path?) rfl]
      have hcontains : ∀ container ∈ ContainerStore.activeContainers s,
          (∃ field ∈ parseCgroupLine (CgroupLine.entry hierarchyID controllers path).text,
            cgroupPathMatchesContainer field container = true) ↔
            occurs container path = true := by
        intro container hcontainer
        obtain ⟨hpath, hid⟩ := hplain container hcontainer
        simp only [cgroupPathMatchesContainer_iff hpath hid]
        exact contains_parseCgroupLine hid hlines.1
      cases hfield : parseCgroupLine (CgroupLine.entry hierarchyID controllers path).text with
      | none =>
        rw [List.filterMap_cons_none (f := parseCgroupLine) hfield]
        apply (ih hlines.2 order).cons_of_not_hit
        rw [hit_iff]
        rintro ⟨container, hcontainer, hoccurs⟩
        obtain ⟨field, hmem, -⟩ := (hcontains container hcontainer).mpr hoccurs
        rw [hfield] at hmem
        cases hmem
      | some field =>
        rw [List.filterMap_cons_some (f := parseCgroupLine) hfield]
        have hmatches : ∀ container ∈ ContainerStore.activeContainers s,
            cgroupPathMatchesContainer field container = true ↔ occurs container path = true := by
          intro container hcontainer
          rw [← hcontains container hcontainer, hfield]
          simp
        exact attributed_cons order hmatches (ih hlines.2 order.later)

theorem mem_activeContainers_replace {records : List ContainerInfo}
    (hnonempty : ∀ record ∈ records, record.containerID ≠ "")
    (hdistinct : (records.map ContainerInfo.containerID).Nodup) {container : ContainerInfo} :
    container ∈ ContainerStore.activeContainers (ContainerStore.replace records) ↔
      container ∈ records := by
  rw [ContainerStore.mem_activeContainers]
  have hreverse : (records.reverse.map ContainerInfo.containerID).Nodup := by
    rw [List.map_reverse, List.nodup_reverse]
    exact hdistinct
  constructor
  · rintro ⟨containerID, hlookup⟩
    rw [ContainerStore.lookup_replace] at hlookup
    split_ifs at hlookup
    exact List.mem_reverse.mp (List.mem_of_find?_eq_some hlookup)
  · intro hmem
    refine ⟨container.containerID, ?_⟩
    rw [ContainerStore.lookup_replace, if_neg (hnonempty container hmem),
      KeyedList.find?_eq_some_iff ContainerInfo.containerID hreverse]
    exact ⟨List.mem_reverse.mpr hmem, rfl⟩

theorem Attributed.of_mem_iff {containers containers' : List ContainerInfo}
    (hmem : ∀ container, container ∈ containers ↔ container ∈ containers')
    {paths : List String} {result : Option ContainerInfo}
    (h : Attributed containers paths result) : Attributed containers' paths result := by
  have hhit : hit containers = hit containers' := by
    funext path
    rw [Bool.eq_iff_iff, hit_iff, hit_iff]
    simp only [hmem]
  unfold Attributed at h ⊢
  rw [← hhit]
  simpa only [hmem] using h

variable {containers : List ContainerInfo} {paths : List String}
  {result : Option ContainerInfo}

theorem Attributed.eq_none (h : Attributed containers paths result)
    (hnone : ∀ path ∈ paths, ∀ container ∈ containers, occurs container path = false) :
    result = none := by
  rcases h with ⟨-, hresult⟩ | ⟨path, container, hfind, hcontainer, hoccurs, -⟩
  · exact hresult
  · rw [hnone path (List.mem_of_find?_eq_some hfind) container hcontainer] at hoccurs
    cases hoccurs

theorem Attributed.eq_some_of_first (h : Attributed containers paths result)
    {earlier later : List String} {path : String} (hpaths : paths = earlier ++ path :: later)
    (hearlier : ∀ q ∈ earlier, hit containers q = false) (hpath : hit containers path = true) :
    ∃ container ∈ containers, occurs container path = true ∧ result = some container := by
  have hfirst : paths.find? (hit containers) = some path := by
    rw [hpaths, List.find?_append, List.find?_eq_none.mpr (by simpa using hearlier),
      Option.none_or, List.find?_cons_of_pos hpath]
  rcases h with ⟨hfind, -⟩ | ⟨q, container, hfind, hcontainer, hoccurs, hresult⟩
  · rw [hfirst] at hfind
    cases hfind
  · rw [hfirst, Option.some.injEq] at hfind
    subst hfind
    exact ⟨container, hcontainer, hoccurs, hresult⟩

theorem Attributed.eq_some_of_only (h : Attributed containers paths result)
    {container : ContainerInfo} (hcontainer : container ∈ containers)
    (hoccurs : ∃ path ∈ paths, occurs container path = true)
    (honly : ∀ other ∈ containers, (∃ path ∈ paths, occurs other path = true) →
      other = container) : result = some container := by
  rcases h with ⟨hfind, -⟩ | ⟨path, other, hfind, hother, hpath, hresult⟩
  · obtain ⟨path, hpath, hin⟩ := hoccurs
    exact absurd (hit_iff.mpr ⟨container, hcontainer, hin⟩)
      (List.find?_eq_none.mp hfind path hpath)
  · rw [hresult, honly other hother ⟨path, List.mem_of_find?_eq_some hfind, hpath⟩]

theorem Attributed.unique {result' : Option ContainerInfo} (h : Attributed containers paths result)
    (h' : Attributed containers paths result')
    (hone : ∀ path ∈ paths, ∀ container ∈ containers, ∀ other ∈ containers,
      occurs container path = true → occurs other path = true → container = other) :
    result = result' := by
  rcases h with ⟨hfind, hresult⟩ | ⟨path, container, hfind, hcontainer, hoccurs, hresult⟩ <;>
    rcases h' with ⟨hfind', hresult'⟩ | ⟨path', other, hfind', hother, hoccurs', hresult'⟩ <;>
    rw [hfind] at hfind'
  · rw [hresult, hresult']
  · cases hfind'
  · cases hfind'
  · rw [Option.some.injEq] at hfind'
    subst hfind'
    rw [hresult, hresult', hone path (List.mem_of_find?_eq_some hfind) container hcontainer other
      hother hoccurs hoccurs']

theorem parseCgroupPaths_lines {lines : List CgroupLine} (hlines : ∀ line ∈ lines, line.Valid) :
    parseCgroupPaths ("\n".intercalate (lines.map CgroupLine.text)) =
      (lines.map CgroupLine.text).filterMap parseCgroupLine := by
  unfold parseCgroupPaths
  cases lines with
  | nil => decide
  | cons line lines =>
    rw [show "\n" = String.singleton '\n' from rfl, GoString.split_intercalate (by simp)]
    simpa using fun line hline => (hlines line hline).newline_notMem

theorem attributed_snapshot {records : List ContainerInfo}
    (hrecords : ∀ record ∈ records, record.cgroupPath = "" ∧ PlainID record.containerID)
    (hdistinct : (records.map ContainerInfo.containerID).Nodup)
    {lines : List CgroupLine} (hlines : ∀ line ∈ lines, line.Valid)
    {r : ProcCgroupResolver} {readFile : String → Except String String}
    {process : GPUProcessMetric}
    (hfile : readFile (r.path process.pid) = .ok ("\n".intercalate (lines.map CgroupLine.text)))
    (order : GPUProcessMetric → RangeOrder (ContainerStore.replace records)) :
    Attributed records (lines.filterMap CgroupLine.path?)
      ((snapshot r readFile records order).resolveProcess process) := by
  have hmem : ∀ container, container ∈ ContainerStore.activeContainers
      (ContainerStore.replace records) ↔ container ∈ records := fun container =>
    mem_activeContainers_replace (fun record hrecord => (hrecords record hrecord).2.1) hdistinct
  have hresult : (snapshot r readFile records order).resolveProcess process =
      matchCgroupPaths (order process) ((lines.map CgroupLine.text).filterMap parseCgroupLine) := by
    simp only [snapshot, resolveProcess, ProcCgroupResolver.cgroupPaths, hfile,
      parseCgroupPaths_lines hlines]
  rw [hresult]
  apply Attributed.of_mem_iff hmem
  apply attributed_matchCgroupPaths _ hlines
  exact fun container hcontainer => hrecords container ((hmem container).mp hcontainer)

/-- A process is attributed to the container whose ID its cgroup paths name. -/
theorem resolveProcess_attribution {records : List ContainerInfo}
    (hrecords : ∀ record ∈ records, record.cgroupPath = "" ∧ PlainID record.containerID)
    (hdistinct : (records.map ContainerInfo.containerID).Nodup)
    {lines : List CgroupLine} (hlines : ∀ line ∈ lines, line.Valid)
    {r : ProcCgroupResolver} {readFile : String → Except String String}
    {process : GPUProcessMetric}
    (hfile : readFile (r.path process.pid) = .ok ("\n".intercalate (lines.map CgroupLine.text)))
    (order : GPUProcessMetric → RangeOrder (ContainerStore.replace records)) :
    let paths := lines.filterMap CgroupLine.path?
    let result := (snapshot r readFile records order).resolveProcess process
    (∀ record ∈ records, (∃ path ∈ paths, occurs record path = true) →
      (∀ other ∈ records, (∃ path ∈ paths, occurs other path = true) → other = record) →
      result = some record) ∧
    ((∀ path ∈ paths, ∀ record ∈ records, occurs record path = false) → result = none) ∧
    (∀ earlier path later, paths = earlier ++ path :: later →
      (∀ q ∈ earlier, ∀ record ∈ records, occurs record q = false) →
      (∃ record ∈ records, occurs record path = true) →
      ∃ record ∈ records, occurs record path = true ∧ result = some record) ∧
    ((∀ path ∈ paths, ∀ record ∈ records, ∀ other ∈ records,
        occurs record path = true → occurs other path = true → record = other) →
      ∀ order', (snapshot r readFile records order').resolveProcess process = result) := by
  intro paths result
  have hattributed := attributed_snapshot hrecords hdistinct hlines hfile
  refine ⟨?_, ?_, ?_, ?_⟩
  · exact fun record hrecord hoccurs honly =>
      (hattributed order).eq_some_of_only hrecord hoccurs honly
  · exact (hattributed order).eq_none
  · intro earlier path later hpaths hearlier hpath
    apply (hattributed order).eq_some_of_first hpaths
    · intro q hq
      rw [Bool.eq_false_iff, ne_eq, hit_iff]
      rintro ⟨record, hrecord, hoccurs⟩
      rw [hearlier q hq record hrecord] at hoccurs
      cases hoccurs
    · exact hit_iff.mpr hpath
  · intro hone order'
    exact (hattributed order').unique (hattributed order) hone

/-- One of two recorded containers is named, after a line that is skipped. -/
theorem resolveProcess_attribution_second :
    let record (containerID : String) : ContainerInfo :=
      ⟨containerID, "main", "pod", "default", "uid", "", [], 0⟩
    let records := [record "1f2e", record "9c8d"]
    let lines : List CgroupLine :=
      [.short "12:pids", .entry "0" "" " /kubepods//burstable/pod:uid/cri-9c8d.scope "]
    let readFile : String → Except String String := fun _ =>
      .ok ("\n".intercalate (lines.map CgroupLine.text))
    let process : GPUProcessMetric := ⟨42, "GPU-0", 0, 0, 0⟩
    let order : GPUProcessMetric → RangeOrder (ContainerStore.replace records) :=
      fun _ => RangeOrder.asStored _
    (snapshot (newProcCgroupResolver "") readFile records order).resolveProcess process =
      some (record "9c8d") := by
  intro record records lines readFile process order
  have hrecords : ∀ record ∈ records, record.cgroupPath = "" ∧ PlainID record.containerID := by
    decide
  have hlines : ∀ line ∈ lines, line.Valid := by decide
  have hfile : readFile ((newProcCgroupResolver "").path process.pid) =
      .ok ("\n".intercalate (lines.map CgroupLine.text)) := rfl
  exact (resolveProcess_attribution hrecords (by decide) hlines hfile order).1
    (record "9c8d") (by decide) (by decide) (by decide)

end Attribution

end GpuFractioning.Metricsd
