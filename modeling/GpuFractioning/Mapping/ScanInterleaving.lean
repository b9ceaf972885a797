import GpuFractioning.Lib.Interleaving
import GpuFractioning.Mapping.Refinement

/-!
# A scan interleaved with the writer

The metrics component scans the mapping directory while the NRI plugin, a
separate process, changes it one system call at a time, may see any of its
calls fail and may be killed after any of them. Whatever the writer leaves
behind, an entry with the mapping file extension is a complete record that some
update published; a scan therefore returns published records only, and misses
no visible file that stays in place.
-/

namespace GpuFractioning.Mapping

open FileSystem

/-- The containers an update writes. -/
def Update.infos : Update → List ContainerInfo
  | upsert info => [info]
  | delete _ => []
  | replace containers => containers

/-- The names `os.CreateTemp` makes from `tempFilePattern`. -/
def Staging (name : String) : Prop := ∃ random, name = tempBefore ++ random ++ tempAfter

/-- Every mapping file is the complete record of a container from `W`. -/
def Published (W : ContainerInfo → Prop) (d : MapDir) : Prop :=
  ∀ name entry, GoString.hasSuffix name fileExtension = true → d.lookup name = some entry →
    ∃ info, W info ∧ name = fileName info.containerID ∧ entry = Writer.published info

section Writer

variable {W : ContainerInfo → Prop}

theorem not_staging_of_hasSuffix {name : String}
    (h : GoString.hasSuffix name fileExtension = true) : ¬ Staging name := by
  rintro ⟨random, rfl⟩
  obtain ⟨stem, hstem⟩ := GoString.hasSuffix_iff.mp h
  have hlast := congrArg (fun s => s.toList.getLast?) hstem
  simp [tempAfter, fileExtension] at hlast

theorem Published.erase {d : MapDir} (h : Published W d) (name : String) :
    Published W (d.erase name) := by
  intro name' entry hsuf hl
  rw [FiniteMap.lookup_erase] at hl
  split_ifs at hl
  exact h name' entry hsuf hl

theorem Published.insert_staging {d : MapDir} (h : Published W d) {name : String}
    (hname : Staging name) (data : FileData) : Published W (d.insert name (.file data)) := by
  intro name' entry hsuf hl
  rw [FiniteMap.lookup_insert] at hl
  split_ifs at hl with heq
  · exact absurd (heq ▸ hname) (not_staging_of_hasSuffix hsuf)
  · exact h name' entry hsuf hl

theorem Published.publish {d : MapDir} (h : Published W d) {info : ContainerInfo} (hW : W info) :
    Published W (d.insert (fileName info.containerID) (Writer.published info)) := by
  intro name entry hsuf hl
  rw [FiniteMap.lookup_insert] at hl
  split_ifs at hl with heq
  · exact ⟨info, hW, heq, (Option.some.inj hl).symm⟩
  · exact h name entry hsuf hl

theorem Published.remove {d d' : MapDir} (h : Published W d) {name : String}
    {r : Reply FileData} (hs : Step d (.remove name) r d') : Published W d' := by
  cases hs with
  | removeFile => exact h.erase name
  | removeDir => exact h.erase name
  | fail => exact h

theorem wp_remove {α : Type} {d : MapDir} (h : Published W d) (name : String) (a : α) :
    wp (Published W) (.call (.remove name) fun _ => .pure a) (fun _ _ => True) d :=
  ⟨h, fun _ _ hs => ⟨h.remove hs, trivial⟩⟩

theorem wp_closeAndDiscard {d : MapDir} (h : Published W d) (tmp : String) :
    wp (Published W) (Writer.closeAndDiscard tmp) (fun _ _ => True) d := by
  refine ⟨h, ?_⟩
  intro r d' hs
  rw [hs.eq_of_passive rfl]
  exact wp_remove h tmp false

theorem wp_publish {d : MapDir} (h : Published W d) {info : ContainerInfo} (hW : W info)
    {tmp : String} (htmp : d.lookup tmp = some (Writer.published info)) :
    wp (Published W)
      (.ifOk (.rename tmp (fileName info.containerID)) (.pure true) (Writer.discard tmp))
      (fun _ _ => True) d := by
  have hstep : ∀ r d', Step d (.rename tmp (fileName info.containerID)) r d' →
      Published W d' := by
    intro r d' hs
    cases hs with
    | rename _ _ data hdata _ =>
      rw [htmp] at hdata
      cases hdata
      exact (h.erase tmp).publish hW
    | fail => exact h
  apply wp_ifOk _ h
  · intro d' hs
    exact ⟨hstep _ d' hs, trivial⟩
  · intro r d' hs
    exact wp_remove (hstep r d' hs) tmp false

/-- From the write on, the staging file holds the complete record until the rename
publishes it; on every error path it is discarded. -/
theorem wp_fillAndPublish {d : MapDir} (h : Published W d) {info : ContainerInfo} (hW : W info)
    {tmp : String} (htmp : Staging tmp) :
    wp (Published W) (Writer.fillAndPublish info tmp) (fun _ _ => True) d := by
  apply wp_ifOk _ h
  · intro d' hs
    cases hs with
    | write =>
      have hd' := h.insert_staging htmp (.record (newRecord info))
      have hrename := wp_publish hd' hW (AList.lookup_insert d)
      have hdiscard := wp_closeAndDiscard hd' tmp
      exact wp_ifOk_passive _ rfl (wp_ifOk_passive _ rfl (wp_ifOk_passive _ rfl hrename
        (wp_remove hd' tmp false)) hdiscard) hdiscard
  · intro r d' hs
    cases hs with
    | write => exact wp_closeAndDiscard (h.insert_staging htmp _) tmp
    | tornWrite => exact wp_closeAndDiscard (h.insert_staging htmp _) tmp
    | fail => exact wp_closeAndDiscard h tmp

theorem wp_writeRecord {d : MapDir} (h : Published W d) {info : ContainerInfo} (hW : W info) :
    wp (Published W) (Writer.writeRecord info) (fun _ _ => True) d := by
  apply wp_ifOk_passive _ rfl
  · refine ⟨h, ?_⟩
    intro r d' hs
    cases hs with
    | createTemp _ _ random _ =>
      have htmp : Staging (tempBefore ++ random ++ tempAfter) := ⟨random, rfl⟩
      exact wp_fillAndPublish (h.insert_staging htmp _) hW htmp
    | fail => exact ⟨h, trivial⟩
  · exact ⟨h, trivial⟩

theorem wp_upsert {d : MapDir} (h : Published W d) {info : ContainerInfo} (hW : W info) :
    wp (Published W) (Writer.upsert info) (fun _ _ => True) d := by
  unfold Writer.upsert
  split_ifs
  · exact ⟨h, trivial⟩
  · apply wp_bind
    apply wp_mono _ (wp_writeRecord h hW)
    intro _ d' hd' _
    exact ⟨hd', trivial⟩

theorem wp_replace {d : MapDir} (h : Published W d) {containers : List ContainerInfo}
    (hW : ∀ info ∈ containers, W info) :
    wp (Published W) (Writer.replace containers) (fun _ _ => True) d := by
  apply wp_ifOk_passive _ rfl
  · apply wp_bind
    apply wp_mono _ (wp_forEach _ h fun info hinfo d hd => wp_upsert hd (hW info hinfo))
    intro _ d' hd' _
    refine ⟨hd', ?_⟩
    intro r d'' hs
    rw [hs.eq_of_passive rfl]
    cases r with
    | listing entries =>
      apply wp_forEach _ hd'
      intro entry _ e he
      unfold Writer.removeStale
      split_ifs
      · exact ⟨he, trivial⟩
      · exact ⟨he, trivial⟩
      · exact wp_remove he entry.1 ()
    | ok => exact ⟨hd', trivial⟩
    | failed => exact ⟨hd', trivial⟩
    | created name => exact ⟨hd', trivial⟩
    | contents data => exact ⟨hd', trivial⟩
  · exact ⟨h, trivial⟩

/-- Every update keeps the mapping files complete, whichever of its requests fail
and wherever it is stopped. -/
theorem wp_onDir {d : MapDir} (h : Published W d) {u : Update} (hW : ∀ info ∈ u.infos, W info) :
    wp (Published W) u.onDir (fun _ _ => True) d := by
  cases u with
  | upsert info => exact wp_upsert h (hW info (by simp [Update.infos]))
  | delete containerID =>
    simp only [Update.onDir, Writer.delete]
    split_ifs
    · exact ⟨h, trivial⟩
    · exact wp_remove h _ ()
  | replace containers => exact wp_replace h hW

end Writer

section Scan

variable {W : ContainerInfo → Prop}

/-- The requests of a scan: no staging file is read. -/
def AvoidsStaging (op : Op FileData) : Prop := ∀ name, op = .readFile name → ¬ Staging name

/-- What one pass of the loop establishes: a name that is not skipped was read at
some directory of the history. -/
def ReadAt (W : ContainerInfo → Prop) (entry : String × Bool) (o : Option ContainerInfo)
    (h : List MapDir) : Prop :=
  (Reader.skipped entry = true ∧ o = none) ∨
    (Reader.skipped entry = false ∧ ∃ e ∈ h, Published W e ∧
      o = (exec (Reader.readFile entry.1) e).1)

theorem ReadAt.append {entry : String × Bool} {o : Option ContainerInfo} {h : List MapDir}
    (hr : ReadAt W entry o h) (new : List MapDir) : ReadAt W entry o (new ++ h) := by
  rcases hr with hr | ⟨hskip, e, he, hread⟩
  · exact Or.inl hr
  · exact Or.inr ⟨hskip, e, List.mem_append_right new he, hread⟩

theorem observes_readEntry (entry : String × Bool) (h : List MapDir) :
    observes (Published W) AvoidsStaging (Reader.readEntry entry) (ReadAt W entry) h := by
  obtain ⟨name, isDir⟩ := entry
  unfold Reader.readEntry
  split_ifs with hskip
  · exact fun _ => Or.inl ⟨hskip, rfl⟩
  · have hskip' : Reader.skipped (name, isDir) = false := by simpa using hskip
    intro new d hnew hd
    have hdI : Published W d := hnew d (List.mem_of_mem_head? hd)
    have havoid : AvoidsStaging (.readFile name) := by
      rintro name' hname'
      cases hname'
      obtain ⟨-, -, stem, rfl⟩ := Reader.skipped_eq_false.mp hskip'
      exact not_staging_of_hasSuffix (GoString.hasSuffix_append stem fileExtension)
    have hread : (perform d (.readFile name)).2 = d := (perform_step d _).eq_of_passive rfl
    refine ⟨havoid, hread, ?_⟩
    have hresult : ReadAt W (name, isDir) (exec (Reader.readFile name) d).1 (d :: (new ++ h)) :=
      Or.inr ⟨hskip', d, by simp, hdI, rfl⟩
    simp only [Reader.readFile, exec, perform] at hresult ⊢
    cases hl : d.lookup name with
    | none => exact fun _ => by simpa [hl] using hresult
    | some entry => cases entry <;> exact fun _ => by simpa [hl] using hresult

/-- What a finished scan guarantees about the directories it ran over. -/
structure ScanOutcome (W : ContainerInfo → Prop) (store : ContainerStore) (h : List MapDir) :
    Prop where
  published : ∀ containerID info, store.lookup containerID = some info →
    ∃ origin, W origin ∧ fileName origin.containerID = containerID ++ fileExtension ∧
      info = (newRecord origin).toContainer containerID ∧
      ∃ d ∈ h, d.lookup (containerID ++ fileExtension) = some (Writer.published origin)
  complete : ∀ containerID, GoString.hasPrefix (fileName containerID) "." = false →
    (∀ d ∈ h, d.lookup (fileName containerID) ≠ none) →
    (store.lookup (sanitizeContainerID containerID)).isSome

theorem exec_readFile_of_published {d : MapDir} (hd : Published W d) (containerID : String) :
    (d.lookup (containerID ++ fileExtension) = none ∧
      (exec (Reader.readFile (containerID ++ fileExtension)) d).1 = none) ∨
    ∃ origin, W origin ∧ fileName origin.containerID = containerID ++ fileExtension ∧
      d.lookup (containerID ++ fileExtension) = some (Writer.published origin) ∧
      (exec (Reader.readFile (containerID ++ fileExtension)) d).1 =
        some ((newRecord origin).toContainer containerID) := by
  rw [Reader.exec_readFile]
  cases hl : d.lookup (containerID ++ fileExtension) with
  | none => exact Or.inl ⟨rfl, rfl⟩
  | some entry =>
    obtain ⟨origin, hW, hname, rfl⟩ := hd _ entry (GoString.hasSuffix_append _ _) hl
    exact Or.inr ⟨origin, hW, hname.symm, rfl, Reader.parse_newRecord containerID origin⟩

theorem scanOutcome_replace {entries : List (String × Bool)} {infos : List ContainerInfo}
    {h : List MapDir} {d : MapDir} (hd : d ∈ h) (hdI : Published W d)
    (hentries : entries = Directory.listing d)
    (hsound : ∀ info ∈ infos, ∃ entry ∈ entries, ReadAt W entry (some info) h)
    (hfull : ∀ entry ∈ entries, ∃ o, ReadAt W entry o h ∧ ∀ info ∈ o, info ∈ infos) :
    ScanOutcome W (ContainerStore.replace infos) h where
  published containerID info hl := by
    rw [ContainerStore.lookup_replace] at hl
    split_ifs at hl
    have hid : info.containerID = containerID := by simpa using List.find?_some hl
    have hmem := List.mem_reverse.mp (List.mem_of_find?_eq_some hl)
    obtain ⟨⟨name, isDir⟩, -, hread⟩ := hsound info hmem
    rcases hread with ⟨-, hnone⟩ | ⟨hskip, e, he, heI, hread⟩
    · cases hnone
    · obtain ⟨-, -, stem, rfl⟩ := Reader.skipped_eq_false.mp hskip
      rcases exec_readFile_of_published heI stem with ⟨-, hnone⟩ | hfile
      · rw [hnone] at hread
        cases hread
      · obtain ⟨origin, hW, hname, hlookup, hvalue⟩ := hfile
        rw [hvalue] at hread
        cases hread
        cases hid
        exact ⟨origin, hW, hname, rfl, e, he, hlookup⟩
  complete containerID hvisible hpresent := by
    have hlisted : (fileName containerID, false) ∈ entries := by
      obtain ⟨entry, hl⟩ := Option.ne_none_iff_exists'.mp (hpresent d hd)
      obtain ⟨origin, -, -, rfl⟩ := hdI _ entry (hasSuffix_fileName containerID) hl
      rw [hentries, Directory.mem_listing]
      exact ⟨_, hl, rfl⟩
    have hskip : Reader.skipped (fileName containerID, false) = false :=
      Reader.skipped_eq_false.mpr ⟨rfl, hvisible, sanitizeContainerID containerID, rfl⟩
    obtain ⟨o, hread, hsub⟩ := hfull _ hlisted
    rcases hread with ⟨hskip', -⟩ | ⟨-, e, he, heI, rfl⟩
    · rw [hskip] at hskip'
      cases hskip'
    · rcases exec_readFile_of_published heI (sanitizeContainerID containerID)
        with ⟨habsent, -⟩ | ⟨origin, -, -, -, hvalue⟩
      · exact absurd habsent (hpresent e he)
      · have hne : sanitizeContainerID containerID ≠ "" := by
          intro hempty
          rw [fileName, hempty] at hvisible
          exact absurd hvisible (by decide)
        rw [ContainerStore.lookup_replace, if_neg hne, List.find?_isSome]
        exact ⟨_, List.mem_reverse.mpr (hsub _ hvalue), by simp [Record.toContainer]⟩

theorem observes_scan (d : MapDir) :
    observes (Published W) AvoidsStaging Reader.scan (ScanOutcome W) [d] := by
  intro new d' hnew hd'
  have hdI : Published W d' := hnew d' (List.mem_of_mem_head? hd')
  have hI : ∀ e ∈ d' :: (new ++ [d]), Published W e := by
    rintro e (_ | ⟨_, he⟩)
    · exact hdI
    · exact hnew e he
  refine ⟨fun name h => (by cases h), rfl, ?_⟩
  apply observes_bind _ hI
  apply observes_mono
    (observes_collect (fun _ _ _ new h => h.append new) observes_readEntry _ _ hI)
  intro infos new' _ hinfos _
  exact scanOutcome_replace (by simp) hdI rfl hinfos.1 hinfos.2

/-- Two processes on one directory that starts empty: a writer executing updates
from `us`, and a scan. -/
abbrev ScanReachable (us : Set Update) (s : System FileData ContainerStore) : Prop :=
  System.Reachable (Update.onDir '' us) Reader.scan ∅ s

/-- A container whose ID starts with a dot has a hidden file: the scan skips it
although the file is in place all along. -/
theorem hidden_file_is_not_returned :
    ∃ s store, ScanReachable {.upsert (containerOn ".x" "u1")} s ∧ s.query = .pure store ∧
      (∀ d ∈ s.history, d.lookup (fileName ".x") ≠ none) ∧
      store.lookup (sanitizeContainerID ".x") = none := by
  have hbegun : ScanReachable {.upsert (containerOn ".x" "u1")} _ :=
    System.Reachable.init.begin_after (Set.mem_image_of_mem Update.onDir rfl)
  exact ⟨_, _, hbegun.next (.query rfl), rfl, by decide, by decide⟩

/-- Whatever the writer does and wherever it is killed: no staging file is read;
a finished scan returns complete records, each of which was the contents of its
container's file while the scan ran; and it returns every container whose file
is visible and was there all along. -/
theorem scan_returns_published_records (us : Set Update) (s : System FileData ContainerStore)
    (hs : ScanReachable us s) :
    (∀ name next, s.query = .call (.readFile name) next → ¬ Staging name) ∧
    ∀ store, s.query = .pure store →
      (∀ containerID info, store.lookup containerID = some info →
        ¬ Staging (containerID ++ fileExtension) ∧
        ∃ u ∈ us, ∃ origin ∈ u.infos, fileName origin.containerID = containerID ++ fileExtension ∧
          info = (newRecord origin).toContainer containerID ∧
          ∃ d ∈ s.history, d.lookup (containerID ++ fileExtension) =
            some (.file (.record (newRecord origin)))) ∧
      ∀ containerID, GoString.hasPrefix (fileName containerID) "." = false →
        (∀ d ∈ s.history, d.lookup (fileName containerID) ≠ none) →
        (store.lookup (sanitizeContainerID containerID)).isSome := by
  have hsafe : s.Safe (Published fun info => ∃ u ∈ us, info ∈ u.infos) AvoidsStaging
      (ScanOutcome fun info => ∃ u ∈ us, info ∈ u.infos) := by
    refine hs.safe ?_ (fun d _ => observes_scan d) (by simp [Published])
    rintro _ ⟨u, hu, rfl⟩ d hd
    exact wp_onDir hd fun info hinfo => ⟨u, hu, hinfo⟩
  refine ⟨fun name next hq => hsafe.request hq name rfl, fun store hq => ?_⟩
  have hout := hsafe.result hq
  refine ⟨?_, hout.complete⟩
  intro containerID info hl
  obtain ⟨origin, ⟨u, hu, hinfo⟩, hname, hvalue, hseen⟩ := hout.published containerID info hl
  exact ⟨not_staging_of_hasSuffix (GoString.hasSuffix_append _ _), u, hu, origin, hinfo, hname,
    hvalue, hseen⟩

/-- A scan after one upsert, which lists the directory and reads the file. -/
theorem scan_returns_published_records_after_upsert :
    ∃ s store, ScanReachable {.upsert (containerOn "a1" "u1")} s ∧ s.query = .pure store ∧
      ((∀ d ∈ s.history, d.lookup (fileName "a1") ≠ none) ∧ (store.lookup "a1").isSome) := by
  have hbegun : ScanReachable {.upsert (containerOn "a1" "u1")} _ :=
    System.Reachable.init.begin_after (Set.mem_image_of_mem Update.onDir rfl)
  have hread := (hbegun.next (.query rfl)).next (.query rfl)
  have hscan := (scan_returns_published_records _ _ hread).2 _ rfl
  exact ⟨_, _, hread, rfl, by decide, hscan.2 "a1" (by decide) (by decide)⟩

end Scan

end GpuFractioning.Mapping
