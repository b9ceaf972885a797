import GpuFractioning.Imagelock.Locks
import GpuFractioning.Lib.FileSystem

/-!
# Publication of the locks

`writeLocks` of `hack/imagelock/main.go`. Every lock is staged in a temporary
file of the output directory first; then the staged files are renamed to the
output paths one after the other. A file is known by its path, so the directory
of this module maps paths to entries.
-/

namespace GpuFractioning.Imagelock

open FileSystem

section Source

/-- What `os.CreateTemp` puts before the random part of a staged file's name. An empty
directory would stand for the one of temporary files, but `os.MkdirAll` refuses it before. -/
def stagedBefore (outDir : String) : String :=
  if GoString.hasSuffix outDir "/" then outDir ++ ".imagelock-" else outDir ++ "/.imagelock-"

/-- The path of a staged file, with the output it holds. -/
abbrev StagedLock := String × LockOutput

-- `cause` gives the text of the error with which the operating system refuses a request.
variable (cause : Op String → String)

def cleanupStaged (staged : List StagedLock) : Prog String Unit :=
  Prog.removeAll (staged.map Prod.fst)

def abandon {α : Type} (staged : List StagedLock) (err : String) :
    Prog String (Except String α) :=
  (cleanupStaged staged).bind fun _ => .pure (.error err)

/-- The requests on one staged file, which is the last of `staged`. -/
def fillStaged (staged : List StagedLock) (path yaml : String) :
    Prog String (Except String Unit) :=
  .ifOk (.chmod path)
    (.ifOk (.write path yaml)
      (.ifOk (.close path)
        (.pure (.ok ()))
        (abandon staged ("close " ++ path ++ ": " ++ cause (.close path))))
      (.call (.close path) fun _ =>
        abandon staged ("write " ++ path ++ ": " ++ cause (.write path yaml))))
    (.call (.close path) fun _ =>
      abandon staged ("set mode on " ++ path ++ ": " ++ cause (.chmod path)))

/-- The first loop of `writeLocks`; `staged` are the files staged so far. -/
def stageLocks (outDir : String) :
    List LockOutput → List StagedLock → Prog String (Except String (List StagedLock))
  | [], staged => .pure (.ok staged)
  | output :: outputs, staged =>
    .call (.createTemp (stagedBefore outDir) ".tmp") fun reply =>
      match reply with
      | .created path =>
        (fillStaged cause (staged ++ [(path, output)]) path output.yaml).bind fun filled =>
          match filled with
          | .error err => .pure (.error err)
          | .ok () => stageLocks outDir outputs (staged ++ [(path, output)])
      | _ =>
        abandon staged
          ("create staged lock: " ++ cause (.createTemp (stagedBefore outDir) ".tmp"))

/-- The second loop of `writeLocks`. A path of `stagedPaths` that is published is
emptied there and skipped by the cleanup, so only the remaining ones are passed on. -/
def publishLocks : List StagedLock → List String → Prog String (Except String Unit)
  | [], _ => .pure (.ok ())
  | (path, output) :: rest, published =>
    .ifOk (.rename path output.path)
      (publishLocks rest (published ++ [output.path]))
      ((Prog.removeAll published).bind fun _ =>
        abandon ((path, output) :: rest)
          ("publish " ++ output.path ++ ": " ++ cause (.rename path output.path)))

def writeLocks (marshal : ImageLock → Except String String) (opts : Options)
    (catalog : ImageCatalog) (targets : List LockTarget) (resolved : List ResolvedImage) :
    Prog String (Except String Unit) :=
  match marshalLocks marshal opts catalog targets resolved with
  | .error err => .pure (.error err)
  | .ok outputs =>
    .ifOk .mkdirAll
      ((stageLocks cause opts.outDir outputs []).bind fun staging =>
        match staging with
        | .error err => .pure (.error err)
        | .ok staged => publishLocks cause staged [])
      (.pure (.error ("create " ++ opts.outDir ++ ": " ++ cause .mkdirAll)))

end Source

section Runs

variable {cause : Op String → String} {before d d' : Directory String} {t : Trace String}

/-- The files at `paths` are new, and all the rest is as it was. -/
structure Pending (before d : Directory String) (paths : List String) : Prop where
  files : ∀ path ∈ paths, ∃ data, d.lookup path = some (.file data)
  fresh : ∀ path ∈ paths, before.lookup path = none
  others : ∀ key ∉ paths, d.lookup key = before.lookup key

/-- A failed phase: an error, and a directory that holds what it held before. -/
structure Undone {α : Type} (before : Directory String) (t : Trace String)
    (result : Except String α) (d' : Directory String) : Prop where
  failed : ∃ err, result = .error err
  renamed_eq : renamed t = []
  created_eq : created t = []
  same : ∀ key, d'.lookup key = before.lookup key

theorem Undone.cons {α : Type} {result : Except String α} (h : Undone before t result d')
    {op : Op String} (hop : op.quiet = true) (r : Reply String) :
    Undone before ((op, r) :: t) result d' where
  failed := h.failed
  renamed_eq := by rw [renamed_cons_of_quiet hop, h.renamed_eq]
  created_eq := by rw [created_cons_of_quiet hop, h.created_eq]
  same := h.same

theorem Pending.lookup_eraseAll {paths : List String} (h : Pending before d paths)
    (key : String) : (FiniteMap.eraseAll paths d).lookup key = before.lookup key := by
  rw [FiniteMap.lookup_eraseAll]
  split_ifs with hkey
  · exact (h.fresh key hkey).symm
  · exact h.others key hkey

theorem Pending.ne_dir {paths : List String} (h : Pending before d paths) :
    ∀ path ∈ paths, ∀ b, d.lookup path ≠ some (.dir b) := by
  intro path hpath b hdir
  obtain ⟨data, hdata⟩ := h.files path hpath
  rw [hdata] at hdir
  cases hdir

theorem Pending.insert {paths : List String} (h : Pending before d paths) {path : String}
    (hpath : path ∈ paths) (data : String) : Pending before (d.insert path (.file data)) paths where
  files path' hpath' := by
    rw [FiniteMap.lookup_insert]
    split_ifs
    · exact ⟨data, rfl⟩
    · exact h.files path' hpath'
  fresh := h.fresh
  others key hkey := by
    have hne : key ≠ path := by
      rintro rfl
      exact hkey hpath
    rw [FiniteMap.lookup_insert, if_neg hne, h.others key hkey]

theorem of_abandon {α : Type} {staged : List StagedLock} {err : String}
    {result : Except String α} (hpending : Pending before d (staged.map Prod.fst))
    (hrun : RunUnder RemovalsSucceed (abandon staged err) d t result d') :
    Undone before t result d' := by
  obtain ⟨t₁, t₂, ⟨⟩, d₁, rfl, hclean, hpure⟩ := hrun.of_bind
  obtain ⟨rfl, rfl, rfl⟩ := hpure.of_pure
  obtain ⟨rfl, hrenamed, hcreated⟩ := hclean.of_removeAll hpending.ne_dir
  rw [List.append_nil]
  exact ⟨⟨err, rfl⟩, hrenamed, hcreated, hpending.lookup_eraseAll⟩

theorem of_close_abandon {α : Type} {staged : List StagedLock} {path err : String}
    {result : Except String α} (hpending : Pending before d (staged.map Prod.fst))
    (hrun : RunUnder RemovalsSucceed (.call (.close path) fun _ => abandon staged err) d t
      result d') :
    Undone before t result d' := by
  obtain ⟨r, d₁, t₁, rfl, hstep, -, hrest⟩ := hrun.of_call
  obtain rfl := hstep.eq_of_passive rfl
  exact (of_abandon hpending hrest).cons rfl r

theorem exists_insert_of_write {path yaml : String} {r : Reply String}
    (hstep : Step d (.write path yaml) r d') :
    r = .ok ∧ d' = d.insert path (.file yaml) ∨
      r = .failed ∧ (d' = d ∨ ∃ torn, d' = d.insert path (.file torn)) := by
  cases hstep with
  | write => exact .inl ⟨rfl, rfl⟩
  | tornWrite _ _ _ torn _ => exact .inr ⟨rfl, .inr ⟨torn, rfl⟩⟩
  | fail => exact .inr ⟨rfl, .inl rfl⟩

theorem of_fillStaged {staged : List StagedLock} {path yaml : String}
    {result : Except String Unit} (hpath : path ∈ staged.map Prod.fst)
    (hpending : Pending before d (staged.map Prod.fst))
    (hrun : RunUnder RemovalsSucceed (fillStaged cause staged path yaml) d t result d') :
    Undone before t result d' ∨
      result = .ok () ∧ renamed t = [] ∧ created t = [] ∧ d' = d.insert path (.file yaml) := by
  obtain ⟨r₁, d₁, t₁, rfl, hchmod, hafter₁⟩ := hrun.of_ifOk
  obtain rfl := hchmod.eq_of_passive rfl
  rcases hafter₁ with ⟨-, hrun₁⟩ | ⟨-, hrun₁⟩
  · obtain ⟨r₂, d₂, t₂, rfl, hwrite, hafter₂⟩ := hrun₁.of_ifOk
    have hpending₂ : Pending before d₂ (staged.map Prod.fst) := by
      rcases exists_insert_of_write hwrite with ⟨-, rfl⟩ | ⟨-, rfl | ⟨torn, rfl⟩⟩
      · exact hpending.insert hpath yaml
      · exact hpending
      · exact hpending.insert hpath torn
    rcases hafter₂ with ⟨rfl, hrun₂⟩ | ⟨-, hrun₂⟩
    · obtain ⟨r₃, d₃, t₃, rfl, hclose, hafter₃⟩ := hrun₂.of_ifOk
      obtain rfl := hclose.eq_of_passive rfl
      rcases hafter₃ with ⟨-, hrun₃⟩ | ⟨-, hrun₃⟩
      · obtain ⟨rfl, rfl, rfl⟩ := hrun₃.of_pure
        rcases exists_insert_of_write hwrite with ⟨-, hd'⟩ | ⟨hr, -⟩
        · exact .inr ⟨rfl, rfl, rfl, hd'⟩
        · cases hr
      · exact .inl ((((of_abandon hpending₂ hrun₃).cons rfl r₃).cons rfl .ok).cons rfl r₁)
    · exact .inl (((of_close_abandon hpending₂ hrun₂).cons rfl r₂).cons rfl r₁)
  · exact .inl ((of_close_abandon hpending hrun₁).cons rfl r₁)

/-- Every lock staged so far is in a new file of its own. -/
structure Staged (before d : Directory String) (staged : List StagedLock) : Prop where
  nodup : (staged.map Prod.fst).Nodup
  temporary : ∀ path ∈ staged.map Prod.fst, GoString.hasSuffix path ".tmp" = true
  fresh : ∀ path ∈ staged.map Prod.fst, before.lookup path = none
  holds : ∀ entry ∈ staged, d.lookup entry.1 = some (.file entry.2.yaml)
  others : ∀ key ∉ staged.map Prod.fst, d.lookup key = before.lookup key

theorem Staged.pending {staged : List StagedLock} (h : Staged before d staged) :
    Pending before d (staged.map Prod.fst) where
  files path hpath := by
    obtain ⟨entry, hentry, rfl⟩ := List.mem_map.mp hpath
    exact ⟨entry.2.yaml, h.holds entry hentry⟩
  fresh := h.fresh
  others := h.others

theorem Staged.free {staged : List StagedLock} (h : Staged before d staged) {path : String}
    (hfree : d.lookup path = none) :
    path ∉ staged.map Prod.fst ∧ before.lookup path = none := by
  have hnew : path ∉ staged.map Prod.fst := by
    intro hmem
    obtain ⟨data, hdata⟩ := h.pending.files path hmem
    rw [hfree] at hdata
    cases hdata
  exact ⟨hnew, by rw [← h.others path hnew, hfree]⟩

theorem Staged.pending_concat {staged : List StagedLock} (h : Staged before d staged)
    {path : String} (hfree : d.lookup path = none) (output : LockOutput) (data : String) :
    Pending before (d.insert path (.file data)) ((staged ++ [(path, output)]).map Prod.fst) where
  files path' hpath' := by
    rw [FiniteMap.lookup_insert]
    split_ifs with heq
    · exact ⟨data, rfl⟩
    · apply h.pending.files path'
      simpa [heq] using hpath'
  fresh path' hpath' := by
    rw [List.map_append, List.mem_append] at hpath'
    rcases hpath' with hpath' | hpath'
    · exact h.fresh path' hpath'
    · obtain rfl : path' = path := by simpa using hpath'
      exact (h.free hfree).2
  others key hkey := by
    rw [List.map_append, List.mem_append, not_or] at hkey
    have hne : key ≠ path := by simpa using hkey.2
    rw [FiniteMap.lookup_insert, if_neg hne, h.others key hkey.1]

theorem Staged.concat {staged : List StagedLock} (h : Staged before d staged) {path : String}
    (hfree : d.lookup path = none) (htemporary : GoString.hasSuffix path ".tmp" = true)
    (output : LockOutput) :
    Staged before (d.insert path (.file output.yaml)) (staged ++ [(path, output)]) where
  nodup := by
    rw [List.map_append]
    refine List.nodup_append.mpr ⟨h.nodup, List.nodup_singleton path, ?_⟩
    intro path' hpath' other hother heq
    obtain rfl : other = path := by simpa using hother
    exact (h.free hfree).1 (heq ▸ hpath')
  temporary path' hpath' := by
    rw [List.map_append, List.mem_append] at hpath'
    rcases hpath' with hpath' | hpath'
    · exact h.temporary path' hpath'
    · obtain rfl : path' = path := by simpa using hpath'
      exact htemporary
  fresh := (h.pending_concat hfree output output.yaml).fresh
  holds entry hentry := by
    rw [FiniteMap.lookup_insert]
    rcases List.mem_append.mp hentry with hentry | hentry
    · have hne : entry.1 ≠ path := by
        intro heq
        exact (h.free hfree).1 (heq ▸ List.mem_map_of_mem hentry)
      rw [if_neg hne, h.holds entry hentry]
    · obtain rfl := List.mem_singleton.mp hentry
      rw [if_pos rfl]
  others := (h.pending_concat hfree output output.yaml).others

/-- The outcome of the first loop. -/
structure StageOutcome (before : Directory String) (outputs : List LockOutput)
    (t : Trace String) (result : Except String (List StagedLock)) (d' : Directory String) :
    Prop where
  renamed_eq : renamed t = []
  created_fresh : ∀ path ∈ created t, before.lookup path = none
  failed : ∀ err, result = .error err → ∀ key, d'.lookup key = before.lookup key
  staged : ∀ staged, result = .ok staged → staged.map Prod.snd = outputs ∧ Staged before d' staged

theorem Undone.stageOutcome {result : Except String (List StagedLock)}
    (h : Undone before t result d') (outputs : List LockOutput) :
    StageOutcome before outputs t result d' where
  renamed_eq := h.renamed_eq
  created_fresh path hpath := by
    rw [h.created_eq] at hpath
    cases hpath
  failed _ _ := h.same
  staged staged hstaged := by
    obtain ⟨err, herr⟩ := h.failed
    rw [herr] at hstaged
    cases hstaged

theorem StageOutcome.append {outputs : List LockOutput} {t₁ t₂ : Trace String}
    {result : Except String (List StagedLock)} (h : StageOutcome before outputs t₂ result d')
    (hrenamed : renamed t₁ = []) (hcreated : created t₁ = []) :
    StageOutcome before outputs (t₁ ++ t₂) result d' where
  renamed_eq := by rw [renamed_append, hrenamed, h.renamed_eq, List.append_nil]
  created_fresh := by
    rw [created_append, hcreated, List.nil_append]
    exact h.created_fresh
  failed := h.failed
  staged := h.staged

theorem StageOutcome.cons_created {outputs : List LockOutput}
    {result : Except String (List StagedLock)} (h : StageOutcome before outputs t result d')
    {start ending path : String} (hpath : before.lookup path = none) :
    StageOutcome before outputs ((.createTemp start ending, .created path) :: t) result d' where
  renamed_eq := h.renamed_eq
  created_fresh path' hpath' := by
    rcases List.mem_cons.mp hpath' with rfl | hpath'
    · exact hpath
    · exact h.created_fresh path' hpath'
  failed := h.failed
  staged := h.staged

theorem of_stageLocks {outDir : String} {outputs : List LockOutput} {staged : List StagedLock}
    {result : Except String (List StagedLock)} (hstaged : Staged before d staged)
    (hrun : RunUnder RemovalsSucceed (stageLocks cause outDir outputs staged) d t result d') :
    StageOutcome before (staged.map Prod.snd ++ outputs) t result d' := by
  induction outputs generalizing d staged t with
  | nil =>
    obtain ⟨rfl, rfl, rfl⟩ := RunUnder.of_pure hrun
    refine ⟨rfl, ?_, ?_, ?_⟩
    · intro path hpath
      cases hpath
    · intro err herr
      cases herr
    · intro staged' hstaged'
      cases hstaged'
      exact ⟨(List.append_nil _).symm, hstaged⟩
  | cons output outputs ih =>
    obtain ⟨r, d₁, t₁, rfl, hstep, -, hrest⟩ := RunUnder.of_call hrun
    cases hstep with
    | createTemp _ _ random hfree =>
      have hcreate : before.lookup (stagedBefore outDir ++ random ++ ".tmp") = none :=
        (hstaged.free hfree).2
      have hpending := hstaged.pending_concat hfree output default
      obtain ⟨t₂, t₃, filled, d₂, rfl, hfill, hnext⟩ := RunUnder.of_bind hrest
      apply StageOutcome.cons_created _ hcreate
      rcases of_fillStaged (by simp) hpending hfill with hundone | ⟨rfl, hrenamed, hcreated, rfl⟩
      · obtain ⟨err, rfl⟩ := hundone.failed
        obtain ⟨rfl, rfl, rfl⟩ := RunUnder.of_pure hnext
        rw [List.append_nil]
        exact Undone.stageOutcome
          ⟨⟨err, rfl⟩, hundone.renamed_eq, hundone.created_eq, hundone.same⟩ _
      · have htemporary := GoString.hasSuffix_append (stagedBefore outDir ++ random) ".tmp"
        rw [AList.insert_insert] at hnext
        have houtcome := ih (hstaged.concat hfree htemporary output) hnext
        rw [List.map_append, List.append_assoc] at houtcome
        exact houtcome.append hrenamed hcreated
    | fail =>
      have hundone := of_abandon hstaged.pending hrest
      have hall : Undone before ((.createTemp (stagedBefore outDir) ".tmp", .failed) :: t₁)
          result d' :=
        ⟨hundone.failed, hundone.renamed_eq, hundone.created_eq, hundone.same⟩
      exact hall.stageOutcome _

/-- The directory after the renames of `outputs`, up to the staged files. -/
def publishAll (outputs : List LockOutput) (before : Directory String) : Directory String :=
  FiniteMap.insertAll LockOutput.path (fun output => .file output.yaml) outputs before

theorem publishAll_concat (outputs : List LockOutput) (output : LockOutput)
    (before : Directory String) :
    publishAll (outputs ++ [output]) before =
      (publishAll outputs before).insert output.path (.file output.yaml) := by
  rw [publishAll, FiniteMap.insertAll, List.foldl_append]
  rfl

theorem lookup_publishAll_of_notMem {outputs : List LockOutput} {key : String}
    (hkey : key ∉ outputs.map LockOutput.path) :
    (publishAll outputs before).lookup key = before.lookup key := by
  have hnone : (outputs.reverse.find? fun output => output.path = key) = none := by
    rw [List.find?_eq_none]
    intro output houtput heq
    exact hkey (List.mem_map.mpr ⟨output, List.mem_reverse.mp houtput, by simpa using heq⟩)
  rw [publishAll, FiniteMap.lookup_insertAll, hnone]
  rfl

theorem exists_lookup_publishAll {outputs : List LockOutput} {key : String}
    (hkey : key ∈ outputs.map LockOutput.path) (before : Directory String) :
    ∃ output ∈ outputs, output.path = key ∧
      (publishAll outputs before).lookup key = some (.file output.yaml) := by
  rw [publishAll, FiniteMap.lookup_insertAll]
  cases hfind : outputs.reverse.find? fun output => output.path = key with
  | none =>
    obtain ⟨output, houtput, heq⟩ := List.mem_map.mp hkey
    have hno := List.find?_eq_none.mp hfind output (List.mem_reverse.mpr houtput)
    exact absurd (decide_eq_true heq) hno
  | some output =>
    have houtput := List.mem_reverse.mp (List.mem_of_find?_eq_some hfind)
    exact ⟨output, houtput, by simpa using List.find?_some hfind, rfl⟩

/-- Between two renames: `done` is published, and `rest` is still staged. -/
structure Publishing (before d : Directory String) (done : List LockOutput)
    (rest : List StagedLock) : Prop where
  nodup : (rest.map Prod.fst).Nodup
  apart : ∀ entry ∈ rest, ∀ path ∈ rest.map Prod.fst, entry.2.path ≠ path
  fresh : ∀ path ∈ rest.map Prod.fst, before.lookup path = none
  holds : ∀ entry ∈ rest, d.lookup entry.1 = some (.file entry.2.yaml)
  others : ∀ key ∉ rest.map Prod.fst, d.lookup key = (publishAll done before).lookup key
  unstaged : ∀ path ∈ done.map LockOutput.path, path ∉ rest.map Prod.fst

theorem Publishing.rename {done : List LockOutput} {path : String} {output : LockOutput}
    {rest : List StagedLock} (h : Publishing before d done ((path, output) :: rest)) :
    Publishing before ((d.erase path).insert output.path (.file output.yaml)) (done ++ [output])
      rest where
  nodup := (List.nodup_cons.mp h.nodup).2
  apart entry hentry path' hpath' :=
    h.apart entry (List.mem_cons_of_mem _ hentry) path' (List.mem_cons_of_mem _ hpath')
  fresh path' hpath' := h.fresh path' (List.mem_cons_of_mem _ hpath')
  holds entry hentry := by
    have hpath : entry.1 ∈ rest.map Prod.fst := List.mem_map_of_mem hentry
    have houtput : entry.1 ≠ output.path :=
      (h.apart (path, output) List.mem_cons_self entry.1 (List.mem_cons_of_mem _ hpath)).symm
    have hsource : entry.1 ≠ path := by
      rintro rfl
      exact (List.nodup_cons.mp h.nodup).1 hpath
    rw [FiniteMap.lookup_insert, if_neg houtput, FiniteMap.lookup_erase, if_neg hsource,
      h.holds entry (List.mem_cons_of_mem _ hentry)]
  others key hkey := by
    rw [publishAll_concat, FiniteMap.lookup_insert, FiniteMap.lookup_insert, FiniteMap.lookup_erase]
    split_ifs with houtput hsource
    · rfl
    · have hdone : key ∉ done.map LockOutput.path := by
        intro hmem
        exact h.unstaged key hmem (hsource ▸ List.mem_cons_self)
      rw [lookup_publishAll_of_notMem hdone]
      exact (h.fresh key (hsource ▸ List.mem_cons_self)).symm
    · apply h.others
      rw [List.map_cons, List.mem_cons, not_or]
      exact ⟨hsource, hkey⟩
  unstaged path' hpath' := by
    rw [List.map_append, List.mem_append] at hpath'
    rcases hpath' with hdone | hnew
    · intro hmem
      exact h.unstaged path' hdone (List.mem_cons_of_mem _ hmem)
    · obtain rfl : path' = output.path := by simpa using hnew
      intro hmem
      exact h.apart (path, output) List.mem_cons_self output.path (List.mem_cons_of_mem _ hmem) rfl

theorem Publishing.pending_eraseAll {done : List LockOutput} {rest : List StagedLock}
    (h : Publishing before d done rest) :
    Pending (FiniteMap.eraseAll (done.map LockOutput.path) before)
      (FiniteMap.eraseAll (done.map LockOutput.path) d) (rest.map Prod.fst) where
  files path hpath := by
    have hdone : path ∉ done.map LockOutput.path := by
      intro hmem
      exact h.unstaged path hmem hpath
    obtain ⟨entry, hentry, rfl⟩ := List.mem_map.mp hpath
    exact ⟨entry.2.yaml, by rw [FiniteMap.lookup_eraseAll, if_neg hdone, h.holds entry hentry]⟩
  fresh path hpath := by
    rw [FiniteMap.lookup_eraseAll, h.fresh path hpath, ite_self]
  others key hkey := by
    rw [FiniteMap.lookup_eraseAll, FiniteMap.lookup_eraseAll]
    split_ifs with hdone
    · rfl
    · rw [h.others key hkey, lookup_publishAll_of_notMem hdone]

theorem Publishing.ne_dir {done : List LockOutput} {rest : List StagedLock}
    (h : Publishing before d done rest) :
    ∀ path ∈ done.map LockOutput.path, ∀ b, d.lookup path ≠ some (.dir b) := by
  intro path hpath b hdir
  obtain ⟨output, -, -, hlookup⟩ := exists_lookup_publishAll hpath before
  rw [h.others path (h.unstaged path hpath), hlookup] at hdir
  cases hdir

/-- The outcome of the second loop, which has published `done` before. -/
structure PublishOutcome (before : Directory String) (done outputs : List LockOutput)
    (t : Trace String) (result : Except String Unit) (d' : Directory String) : Prop where
  created_eq : created t = []
  failed : ∀ err, result = .error err →
    (∀ path ∈ renamed t, path ∈ outputs.map LockOutput.path) ∧
      ∀ key, d'.lookup key =
        if key ∈ done.map LockOutput.path ++ renamed t then none else before.lookup key
  published : result = .ok () →
    ∀ key, d'.lookup key = (publishAll (done ++ outputs) before).lookup key

theorem PublishOutcome.cons {done outputs : List LockOutput} {path : String}
    {output : LockOutput} {result : Except String Unit}
    (h : PublishOutcome before (done ++ [output]) outputs t result d') :
    PublishOutcome before done (output :: outputs) ((.rename path output.path, .ok) :: t) result
      d' where
  created_eq := h.created_eq
  failed err herr := by
    obtain ⟨hpaths, hlookup⟩ := h.failed err herr
    constructor
    · intro path' hpath'
      rcases List.mem_cons.mp hpath' with rfl | hpath'
      · exact List.mem_cons_self
      · exact List.mem_cons_of_mem _ (hpaths path' hpath')
    · intro key
      rw [hlookup key, List.map_append, List.append_assoc]
      rfl
  published hok key := by
    rw [h.published hok key, List.append_assoc]
    rfl

theorem of_rollback {done : List LockOutput} {rest : List StagedLock} {err : String}
    {result : Except String Unit} (h : Publishing before d done rest)
    (hrun : RunUnder RemovalsSucceed
      ((Prog.removeAll (done.map LockOutput.path)).bind fun _ => abandon rest err) d t result d') :
    Undone (FiniteMap.eraseAll (done.map LockOutput.path) before) t result d' := by
  obtain ⟨t₁, t₂, ⟨⟩, d₁, rfl, hremove, habandon⟩ := RunUnder.of_bind hrun
  obtain ⟨rfl, hrenamed, hcreated⟩ := hremove.of_removeAll h.ne_dir
  have hundone := of_abandon h.pending_eraseAll habandon
  refine ⟨hundone.failed, ?_, ?_, hundone.same⟩
  · rw [renamed_append, hrenamed, hundone.renamed_eq, List.append_nil]
  · rw [created_append, hcreated, hundone.created_eq, List.append_nil]

theorem Undone.publishOutcome {done : List LockOutput} {result : Except String Unit}
    (h : Undone (FiniteMap.eraseAll (done.map LockOutput.path) before) t result d')
    (outputs : List LockOutput) (source target : String) :
    PublishOutcome before done outputs ((.rename source target, .failed) :: t) result d' where
  created_eq := h.created_eq
  failed _ _ := by
    have hnone : renamed ((.rename source target, .failed) :: t) = [] := h.renamed_eq
    rw [hnone, List.append_nil]
    refine ⟨fun _ hpath => absurd hpath List.not_mem_nil, ?_⟩
    intro key
    rw [h.same, FiniteMap.lookup_eraseAll]
  published hok := by
    obtain ⟨err, herr⟩ := h.failed
    rw [herr] at hok
    cases hok

theorem of_publishLocks {done : List LockOutput} {rest : List StagedLock}
    {result : Except String Unit} (h : Publishing before d done rest)
    (hrun : RunUnder RemovalsSucceed
      (publishLocks cause rest (done.map LockOutput.path)) d t result d') :
    PublishOutcome before done (rest.map Prod.snd) t result d' := by
  induction rest generalizing d done t with
  | nil =>
    obtain ⟨rfl, rfl, rfl⟩ := RunUnder.of_pure hrun
    refine ⟨rfl, ?_, ?_⟩
    · intro err herr
      cases herr
    · intro _ key
      rw [List.map_nil, List.append_nil]
      exact h.others key List.not_mem_nil
  | cons entry rest ih =>
    obtain ⟨path, output⟩ := entry
    obtain ⟨r, d₁, t₁, rfl, hstep, hafter⟩ := RunUnder.of_ifOk hrun
    rcases hafter with ⟨rfl, hrun₁⟩ | ⟨hr, hrun₁⟩
    · cases hstep with
      | rename _ _ data hdata _ =>
        have heq : data = output.yaml := by
          rw [h.holds (path, output) List.mem_cons_self] at hdata
          cases hdata
          rfl
        subst heq
        have hpaths : done.map LockOutput.path ++ [output.path] =
            (done ++ [output]).map LockOutput.path := by
          rw [List.map_append]
          rfl
        rw [hpaths] at hrun₁
        exact (ih h.rename hrun₁).cons
    · cases hstep with
      | rename => exact absurd rfl hr
      | fail => exact (of_rollback h hrun₁).publishOutcome _ _ _

end Runs

section Outcome

variable {marshal : ImageLock → Except String String} {opts : Options} {catalog : ImageCatalog}
  {targets : List LockTarget} {resolved : List ResolvedImage} {outputs : List LockOutput}

/-- The file name of a target's lock, whatever images it lists. -/
def targetFileName (artifactName version : String) (target : LockTarget) : String :=
  lockFileName artifactName
    { apiVersion := lockAPIVersion
      kind := lockKind
      metadata := { name := "", version := version }
      spec := { profile := target.profile, platform := target.platform, images := [] } }

/-- Where the lock of a target is published. -/
def outputPath (opts : Options) (catalog : ImageCatalog) (target : LockTarget) : String :=
  GoPath.join [opts.outDir, targetFileName catalog.artifactName opts.version target]

/-- A lock of a target, whatever images it lists. -/
structure LockOf (version : String) (target : LockTarget) (lock : ImageLock) : Prop where
  version : lock.metadata.version = version
  profile : lock.spec.profile = target.profile
  platform : lock.spec.platform = target.platform

theorem LockOf.lockFileName_eq {version : String} {target : LockTarget} {lock : ImageLock}
    (h : LockOf version target lock) (artifactName : String) :
    lockFileName artifactName lock = targetFileName artifactName version target := by
  rw [targetFileName, lockFileName, lockFileName, h.version, h.profile, h.platform]

theorem lockOf_of_buildLock {catalogName version : String} {target : LockTarget}
    {lock : ImageLock} (h : buildLock catalogName version target resolved = .ok lock) :
    LockOf version target lock := by
  unfold buildLock at h
  dsimp only at h
  split_ifs at h
  cases h
  exact ⟨rfl, rfl, rfl⟩

theorem marshalLock_eq_ok_iff {target : LockTarget} {output : LockOutput} :
    marshalLock marshal opts catalog resolved target = .ok output ↔
      ∃ lock, buildLock catalog.name opts.version target resolved = .ok lock ∧
        marshal lock = .ok output.yaml ∧ output.path = outputPath opts catalog target := by
  simp only [marshalLock, Fallible.bind_eq_ok_iff, Fallible.mapError_eq_ok_iff,
    Fallible.pure_eq_ok_iff]
  constructor
  · rintro ⟨lock, hlock, yaml, hyaml, rfl⟩
    refine ⟨lock, hlock, hyaml, ?_⟩
    rw [(lockOf_of_buildLock hlock).lockFileName_eq]
    rfl
  · rintro ⟨lock, hlock, hyaml, hpath⟩
    refine ⟨lock, hlock, output.yaml, hyaml, ?_⟩
    rw [(lockOf_of_buildLock hlock).lockFileName_eq]
    obtain ⟨path, yaml⟩ := output
    cases hpath
    rfl

theorem targetFileName_eq (artifactName version : String) (target : LockTarget) :
    ∃ stem, targetFileName artifactName version target = stem ++ ".yaml" := by
  unfold targetFileName lockFileName
  split_ifs
  · exact ⟨_, rfl⟩
  · exact ⟨_, rfl⟩

/-- No lock is published where one can be staged. -/
theorem outputPath_ne {opts : Options} {catalog : ImageCatalog} {target : LockTarget}
    {path : String} (htemporary : GoString.hasSuffix path ".tmp" = true) :
    outputPath opts catalog target ≠ path := by
  rintro rfl
  obtain ⟨stem, hstem⟩ := targetFileName_eq catalog.artifactName opts.version target
  have hlength : 2 < ".yaml".length := by decide
  obtain ⟨before, hbefore⟩ := GoPath.exists_join_extension hlength (by decide) opts.outDir stem
  obtain ⟨start, hstart⟩ := GoString.hasSuffix_iff.mp htemporary
  rw [outputPath, hstem, hbefore, ← String.toList_inj] at hstart
  have hlast := congrArg List.getLast? hstart
  simp at hlast

theorem exists_target {output : LockOutput}
    (h : marshalLocks marshal opts catalog targets resolved = .ok outputs)
    (houtput : output ∈ outputs) :
    ∃ target ∈ targets, marshalLock marshal opts catalog resolved target = .ok output :=
  Fallible.exists_of_mem_right (Fallible.mapM_eq_ok_iff.mp h) houtput

theorem exists_output {target : LockTarget}
    (h : marshalLocks marshal opts catalog targets resolved = .ok outputs)
    (htarget : target ∈ targets) :
    ∃ output ∈ outputs, marshalLock marshal opts catalog resolved target = .ok output :=
  Fallible.exists_of_mem_right (Fallible.mapM_eq_ok_iff.mp h).flip htarget

theorem path_of_mem_outputs {output : LockOutput}
    (h : marshalLocks marshal opts catalog targets resolved = .ok outputs)
    (houtput : output ∈ outputs) :
    ∃ target ∈ targets, outputPath opts catalog target = output.path := by
  obtain ⟨target, htarget, hlock⟩ := exists_target h houtput
  obtain ⟨lock, -, -, hpath⟩ := marshalLock_eq_ok_iff.mp hlock
  exact ⟨target, htarget, hpath.symm⟩

variable {cause : Op String → String} {before after : Directory String} {t : Trace String}
  {result : Except String Unit}

theorem staged_nil (before : Directory String) : Staged before before [] where
  nodup := List.nodup_nil
  temporary _ hpath := absurd hpath List.not_mem_nil
  fresh _ hpath := absurd hpath List.not_mem_nil
  holds _ hentry := absurd hentry List.not_mem_nil
  others _ _ := rfl

theorem Staged.publishing {d : Directory String} {staged : List StagedLock}
    (h : Staged before d staged)
    (houtputs : marshalLocks marshal opts catalog targets resolved = .ok (staged.map Prod.snd)) :
    Publishing before d [] staged where
  nodup := h.nodup
  apart entry hentry path hpath := by
    obtain ⟨target, -, htarget⟩ := path_of_mem_outputs houtputs (List.mem_map_of_mem hentry)
    rw [← htarget]
    exact outputPath_ne (h.temporary path hpath)
  fresh := h.fresh
  holds := h.holds
  others := h.others
  unstaged _ hpath := absurd hpath List.not_mem_nil

/-- What a run of `writeLocks` leaves in the directory. -/
structure WriteOutcome (marshal : ImageLock → Except String String) (opts : Options)
    (catalog : ImageCatalog) (targets : List LockTarget) (resolved : List ResolvedImage)
    (before : Directory String) (t : Trace String) (result : Except String Unit)
    (after : Directory String) : Prop where
  created_fresh : ∀ path ∈ created t, before.lookup path = none
  failed : ∀ err, result = .error err →
    (∀ path ∈ renamed t, ∃ target ∈ targets, outputPath opts catalog target = path) ∧
      ∀ key, after.lookup key = if key ∈ renamed t then none else before.lookup key
  published : result = .ok () →
    ∃ outputs, marshalLocks marshal opts catalog targets resolved = .ok outputs ∧
      ∀ key, after.lookup key = (publishAll outputs before).lookup key

theorem writeOutcome_of_error {err : String} (hrenamed : renamed t = [])
    (hcreated : ∀ path ∈ created t, before.lookup path = none)
    (hsame : ∀ key, after.lookup key = before.lookup key) :
    WriteOutcome marshal opts catalog targets resolved before t (.error err) after where
  created_fresh := hcreated
  failed _ _ := by
    rw [hrenamed]
    refine ⟨fun _ hpath => absurd hpath List.not_mem_nil, ?_⟩
    intro key
    rw [if_neg List.not_mem_nil, hsame key]
  published hok := by cases hok

theorem StageOutcome.writeOutcome {d : Directory String} {t₁ t₂ : Trace String}
    {staged : Except String (List StagedLock)} {r : Reply String}
    (hstaging : StageOutcome before outputs t₁ staged d)
    (houtputs : marshalLocks marshal opts catalog targets resolved = .ok outputs)
    (hpublish : PublishOutcome before [] outputs t₂ result after) :
    WriteOutcome marshal opts catalog targets resolved before ((.mkdirAll, r) :: (t₁ ++ t₂))
      result after := by
  have hrenamed : renamed ((.mkdirAll, r) :: (t₁ ++ t₂)) = renamed t₂ := by
    rw [renamed_cons_of_quiet rfl, renamed_append, hstaging.renamed_eq, List.nil_append]
  have hcreated : created ((.mkdirAll, r) :: (t₁ ++ t₂)) = created t₁ := by
    rw [created_cons_of_quiet rfl, created_append, hpublish.created_eq, List.append_nil]
  refine ⟨?_, ?_, ?_⟩
  · rw [hcreated]
    exact hstaging.created_fresh
  · intro err herr
    obtain ⟨hpaths, hlookup⟩ := hpublish.failed err herr
    rw [hrenamed]
    refine ⟨?_, hlookup⟩
    intro path hpath
    obtain ⟨output, houtput, rfl⟩ := List.mem_map.mp (hpaths path hpath)
    exact path_of_mem_outputs houtputs houtput
  · intro hok
    exact ⟨outputs, houtputs, hpublish.published hok⟩

theorem of_writeLocks
    (hrun : RunUnder RemovalsSucceed (writeLocks cause marshal opts catalog targets resolved)
      before t result after) :
    WriteOutcome marshal opts catalog targets resolved before t result after := by
  unfold writeLocks at hrun
  cases houtputs : marshalLocks marshal opts catalog targets resolved with
  | error err =>
    rw [houtputs] at hrun
    obtain ⟨rfl, rfl, rfl⟩ := RunUnder.of_pure hrun
    exact writeOutcome_of_error rfl (fun _ hpath => absurd hpath List.not_mem_nil) fun _ => rfl
  | ok outputs =>
    rw [houtputs] at hrun
    obtain ⟨r, d₁, t₁, rfl, hmkdir, hafter⟩ := RunUnder.of_ifOk hrun
    obtain rfl := hmkdir.eq_of_passive rfl
    rcases hafter with ⟨rfl, hrun₁⟩ | ⟨-, hrun₁⟩
    · obtain ⟨t₂, t₃, staging, d₂, rfl, hstage, hpublish⟩ := RunUnder.of_bind hrun₁
      have hstaging := of_stageLocks (staged_nil d₁) hstage
      cases staging with
      | error err =>
        obtain ⟨rfl, rfl, rfl⟩ := RunUnder.of_pure hpublish
        rw [List.append_nil]
        exact writeOutcome_of_error hstaging.renamed_eq hstaging.created_fresh
          (hstaging.failed err rfl)
      | ok staged =>
        obtain ⟨hstagedOutputs, hstaged⟩ := hstaging.staged staged rfl
        obtain rfl : staged.map Prod.snd = outputs := hstagedOutputs
        have hpublishing := hstaged.publishing houtputs
        exact hstaging.writeOutcome houtputs (of_publishLocks hpublishing hpublish)
    · obtain ⟨rfl, rfl, rfl⟩ := RunUnder.of_pure hrun₁
      exact writeOutcome_of_error rfl (fun _ hpath => absurd hpath List.not_mem_nil) fun _ => rfl

/-- Where targets that share a path share the lock, every path holds the lock of its target. -/
theorem WriteOutcome.holds_lock
    (h : WriteOutcome marshal opts catalog targets resolved before t result after)
    (hok : result = .ok ())
    (hsame : ∀ target ∈ targets, ∀ target' ∈ targets,
      outputPath opts catalog target = outputPath opts catalog target' →
        marshalLock marshal opts catalog resolved target =
          marshalLock marshal opts catalog resolved target')
    {target : LockTarget} (htarget : target ∈ targets) :
    ∃ lock yaml, buildLock catalog.name opts.version target resolved = .ok lock ∧
      marshal lock = .ok yaml ∧
      after.lookup (outputPath opts catalog target) = some (.file yaml) := by
  obtain ⟨outputs, houtputs, hlookup⟩ := h.published hok
  obtain ⟨output, houtput, hmarshal⟩ := exists_output houtputs htarget
  obtain ⟨lock, hlock, hyaml, hpath⟩ := marshalLock_eq_ok_iff.mp hmarshal
  obtain ⟨last, hlast, hlastPath, hheld⟩ :=
    exists_lookup_publishAll (List.mem_map_of_mem houtput) before
  obtain ⟨target', htarget', hmarshal'⟩ := exists_target houtputs hlast
  obtain ⟨-, -, -, hpath'⟩ := marshalLock_eq_ok_iff.mp hmarshal'
  have heq : last = output := by
    have hshared := hsame target htarget target' htarget'
      (hpath.symm.trans (hlastPath.symm.trans hpath'))
    rw [hmarshal, hmarshal'] at hshared
    cases hshared
    rfl
  refine ⟨lock, output.yaml, hlock, hyaml, ?_⟩
  rw [hlookup, ← hpath, hheld, heq]

theorem WriteOutcome.lookup_other
    (h : WriteOutcome marshal opts catalog targets resolved before t result after)
    (hok : result = .ok ()) {key : String}
    (hkey : key ∉ targets.map (outputPath opts catalog)) :
    after.lookup key = before.lookup key := by
  obtain ⟨outputs, houtputs, hlookup⟩ := h.published hok
  rw [hlookup, lookup_publishAll_of_notMem]
  intro hmem
  obtain ⟨output, houtput, rfl⟩ := List.mem_map.mp hmem
  obtain ⟨target, htarget, hpath⟩ := path_of_mem_outputs houtputs houtput
  exact hkey (List.mem_map.mpr ⟨target, htarget, hpath⟩)

/-- The locks are published as a whole or not at all: after an error every output
path is as it was and no staged file is left, and otherwise every output path
holds the marshalled lock of its target. -/
structure AllOrNothing (marshal : ImageLock → Except String String) (opts : Options)
    (catalog : ImageCatalog) (targets : List LockTarget) (resolved : List ResolvedImage)
    (before : Directory String) (t : Trace String) (result : Except String Unit)
    (after : Directory String) : Prop where
  restored : ∀ err, result = .error err → ∀ target ∈ targets,
    after.lookup (outputPath opts catalog target) = before.lookup (outputPath opts catalog target)
  unstaged : ∀ err, result = .error err → ∀ path ∈ created t, after.lookup path = none
  published : result = .ok () → ∀ target ∈ targets,
    ∃ lock yaml, buildLock catalog.name opts.version target resolved = .ok lock ∧
      marshal lock = .ok yaml ∧
      after.lookup (outputPath opts catalog target) = some (.file yaml)

/-- An error leaves the output paths alone exactly when no rename before it replaced a
file, for the rollback removes what it replaced; and a success publishes every lock
exactly when the targets that share a path share the lock. -/
theorem writeLocks_allOrNothing_iff
    (hrun : RunUnder RemovalsSucceed (writeLocks cause marshal opts catalog targets resolved)
      before t result after) :
    AllOrNothing marshal opts catalog targets resolved before t result after ↔
      (∀ err, result = .error err → ∀ path ∈ renamed t, before.lookup path = none) ∧
      (result = .ok () → ∀ target ∈ targets, ∀ target' ∈ targets,
        outputPath opts catalog target = outputPath opts catalog target' →
          marshalLock marshal opts catalog resolved target =
            marshalLock marshal opts catalog resolved target') := by
  have houtcome := of_writeLocks hrun
  constructor
  · intro hall
    constructor
    · intro err herr path hpath
      obtain ⟨hpaths, hlookup⟩ := houtcome.failed err herr
      obtain ⟨target, htarget, rfl⟩ := hpaths path hpath
      rw [← hall.restored err herr target htarget, hlookup, if_pos hpath]
    · intro hok target htarget target' htarget' hpath
      obtain ⟨lock, yaml, hlock, hyaml, hlookup⟩ := hall.published hok target htarget
      obtain ⟨lock', yaml', hlock', hyaml', hlookup'⟩ := hall.published hok target' htarget'
      rw [hpath, hlookup'] at hlookup
      cases hlookup
      have houtput : marshalLock marshal opts catalog resolved target =
          .ok ⟨outputPath opts catalog target, yaml⟩ :=
        marshalLock_eq_ok_iff.mpr ⟨lock, hlock, hyaml, rfl⟩
      have houtput' : marshalLock marshal opts catalog resolved target' =
          .ok ⟨outputPath opts catalog target, yaml⟩ :=
        marshalLock_eq_ok_iff.mpr ⟨lock', hlock', hyaml', hpath⟩
      rw [houtput, houtput']
  · rintro ⟨hfree, hsame⟩
    refine ⟨?_, ?_, ?_⟩
    · intro err herr target _
      rw [(houtcome.failed err herr).2]
      split_ifs with hpath
      · exact (hfree err herr _ hpath).symm
      · rfl
    · intro err herr path hpath
      rw [(houtcome.failed err herr).2, houtcome.created_fresh path hpath, ite_self]
    · intro hok target htarget
      exact houtcome.holds_lock hok (hsame hok) htarget

end Outcome

section Sample

/-- A release of one image for two platforms. -/
def sampleCatalog : ImageCatalog :=
  { apiVersion := catalogAPIVersion
    name := "gpu-fractioning"
    artifactName := "gpu-fractioning"
    repository := "ghcr.io/kai-scheduler/gpu-fractioning"
    images := [⟨"mpsd"⟩]
    profiles := [⟨"standard", versionPlaceholder⟩]
    platforms := [⟨"linux", "amd64"⟩, ⟨"linux", "arm64"⟩]
    exclude := [] }

def sampleImage : ResolvedImage :=
  { name := "mpsd"
    repo := "ghcr.io/kai-scheduler/gpu-fractioning/mpsd"
    tag := "v1.2.3"
    profile := "standard"
    indexDigest := "sha256:0"
    digestPerPlatform :=
      ((∅ : FiniteMap Platform String).insert ⟨"linux", "amd64"⟩ "sha256:1").insert
        ⟨"linux", "arm64"⟩ "sha256:2" }

def sampleOptions : Options := { version := "v1.2.3", outDir := "dist" }

def sampleTargets : List LockTarget :=
  [⟨"standard", ⟨"linux", "amd64"⟩⟩, ⟨"standard", ⟨"linux", "arm64"⟩⟩]

def sampleMarshal (lock : ImageLock) : Except String String := .ok lock.spec.platform.string

def sampleRelease : Prog String (Except String Unit) :=
  writeLocks (fun _ => "file exists") sampleMarshal sampleOptions sampleCatalog sampleTargets
    [sampleImage]

/-- The release from `before`, when the rename of its second lock fails. -/
def sampleRun (before : Directory String) : Trace String × Except String Unit × Directory String :=
  execFailing sampleRelease before (List.replicate 10 false ++ [true])

theorem runUnder_sampleRun {before : Directory String} {err : String}
    (hremovals : ∀ e ∈ (sampleRun before).1, e.1.isRemoval = true → e.2 ≠ .failed)
    (hresult : (sampleRun before).2.1 = .error err) :
    RunUnder RemovalsSucceed sampleRelease before (sampleRun before).1 (.error err)
      (sampleRun before).2.2 := by
  rw [← hresult]
  exact runUnder_execFailing _ _ _ hremovals

/-- Where nothing was published before, the failed release leaves nothing. -/
theorem writeLocks_allOrNothing_empty :
    let err := "publish dist/imagelock-gpu-fractioning-v1.2.3-linux-arm64.yaml: file exists"
    (sampleRun ∅).2.1 = .error err ∧
      AllOrNothing sampleMarshal sampleOptions sampleCatalog sampleTargets [sampleImage] ∅
        (sampleRun ∅).1 (.error err) (sampleRun ∅).2.2 := by
  intro err
  have hresult : (sampleRun ∅).2.1 = .error err := by decide +kernel
  have hrun := runUnder_sampleRun (by decide +kernel) hresult
  refine ⟨hresult, (writeLocks_allOrNothing_iff hrun).mpr ⟨?_, ?_⟩⟩
  · intro _ _ path _
    rfl
  · intro hok
    cases hok

/-- Where the first lock replaced an earlier one, the failed release removes both. -/
theorem writeLocks_loses_earlier_lock :
    let path := "dist/imagelock-gpu-fractioning-v1.2.3-linux-amd64.yaml"
    let before : Directory String := (∅ : Directory String).insert path (.file "earlier lock")
    ∃ t err after,
      RunUnder RemovalsSucceed sampleRelease before t (.error err) after ∧
      after.lookup path = none ∧
      ¬ AllOrNothing sampleMarshal sampleOptions sampleCatalog sampleTargets [sampleImage] before
        t (.error err) after := by
  intro path before
  have hresult : (sampleRun before).2.1 =
      .error "publish dist/imagelock-gpu-fractioning-v1.2.3-linux-arm64.yaml: file exists" := by
    decide +kernel
  have hgone : (sampleRun before).2.2.lookup path = none := by decide +kernel
  refine ⟨_, _, _, runUnder_sampleRun (by decide +kernel) hresult, hgone, ?_⟩
  intro hall
  have hrestored := hall.restored _ rfl ⟨"standard", ⟨"linux", "amd64"⟩⟩ List.mem_cons_self
  have hpath : outputPath sampleOptions sampleCatalog ⟨"standard", ⟨"linux", "amd64"⟩⟩ = path := by
    decide +kernel
  rw [hpath, hgone, AList.lookup_insert] at hrestored
  cases hrestored

end Sample

end GpuFractioning.Imagelock
