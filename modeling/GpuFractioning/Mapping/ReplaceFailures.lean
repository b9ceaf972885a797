import GpuFractioning.Mapping.ScanInterleaving

/-!
# Replace when requests fail

Any request of `Replace` may fail. The records are written one after another
and each is published by its rename alone, so a write that fails leaves the
previous file in place. Names that were only attempted are kept as well: the
set `desired` is filled before the write. What a run leaves in the directory is
read off its trace.
-/

namespace GpuFractioning.Mapping.Writer

open FileSystem

/-- `writeRecord` for every container, with what each call returned. -/
def writeAll : List ContainerInfo → Prog FileData (List Bool)
  | [] => .pure []
  | info :: containers =>
    (writeRecord info).bind fun ok => (writeAll containers).bind fun oks => .pure (ok :: oks)

section Staging

variable {d d₁ d' : MapDir} {t : Trace FileData} {tmp : String} {data : FileData} {ok : Bool}
  {info : ContainerInfo}

/-- The staging file is there and everything else is as before it was created. -/
structure Staged (d : MapDir) (tmp : String) (data : FileData) (d₁ : MapDir) : Prop where
  fresh : d.lookup tmp = none
  file : d₁.lookup tmp = some (.file data)
  others : ∀ name ≠ tmp, d₁.lookup name = d.lookup name

theorem staged_insert (hfresh : d.lookup tmp = none) :
    Staged d tmp data (d.insert tmp (.file data)) where
  fresh := hfresh
  file := by simp
  others name hne := by rw [FiniteMap.lookup_insert, if_neg hne]

theorem Staged.write (h : Staged d tmp data d₁) {new : FileData} {r : Reply FileData}
    (hstep : Step d₁ (.write tmp new) r d') :
    ∃ left, Staged d tmp left d' ∧ (r = .ok → left = new) := by
  have hinsert : ∀ left, Staged d tmp left (d₁.insert tmp (.file left)) := by
    intro left
    refine ⟨h.fresh, by simp, fun name hne => ?_⟩
    rw [FiniteMap.lookup_insert, if_neg hne, h.others name hne]
  cases hstep with
  | write => exact ⟨new, hinsert new, fun _ => rfl⟩
  | tornWrite old torn => exact ⟨_, hinsert _, by simp⟩
  | fail => exact ⟨data, h, by simp⟩

/-- The requests that neither create a file, list the directory nor remove another file than
the staging file. -/
def Confined (tmp : String) : Op FileData → Prop
  | .createTemp _ _ => False
  | .readDir => False
  | .remove name => name = tmp
  | _ => True

/-- What the part of `writeRecord` after `CreateTemp` can leave. -/
structure Filled (info : ContainerInfo) (d : MapDir) (tmp : String) (t : Trace FileData)
    (ok : Bool) (d' : MapDir) : Prop where
  target : d'.lookup (fileName info.containerID) =
    if ok then some (published info) else d.lookup (fileName info.containerID)
  others : ∀ name ≠ fileName info.containerID, name ≠ tmp → d'.lookup name = d.lookup name
  dirs : ∀ name b, d.lookup name = some (.dir b) → d'.lookup name = some (.dir b)
  cleaned : d'.lookup tmp = none ∨ (.remove tmp, .failed) ∈ t
  confined : ∀ e ∈ t, Confined tmp e.1

theorem Filled.cons (h : Filled info d tmp t ok d') {op : Op FileData} (hop : Confined tmp op)
    (r : Reply FileData) : Filled info d tmp ((op, r) :: t) ok d' where
  target := h.target
  others := h.others
  dirs := h.dirs
  cleaned := h.cleaned.imp_right fun hmem => List.mem_cons_of_mem _ hmem
  confined := by
    intro e he
    rcases List.mem_cons.mp he with rfl | he
    · exact hop
    · exact h.confined e he

theorem fileName_ne_of_staging (htmp : Staging tmp) : fileName info.containerID ≠ tmp := by
  rintro rfl
  exact not_staging_of_hasSuffix (hasSuffix_fileName _) htmp

theorem filled_discard (hst : Staged d tmp data d₁) (htmp : Staging tmp)
    (hrun : Run (discard tmp) d₁ t ok d') : Filled info d tmp t ok d' := by
  obtain ⟨r, d₂, t₂, rfl, hstep, hnext⟩ := hrun.of_call
  obtain ⟨rfl, rfl, rfl⟩ := hnext.of_pure
  have hothers : ∀ name ≠ tmp, d'.lookup name = d.lookup name := by
    intro name hne
    rcases hstep.of_remove with ⟨-, rfl⟩ | ⟨-, rfl⟩
    · rw [FiniteMap.lookup_erase, if_neg hne, hst.others name hne]
    · exact hst.others name hne
  refine ⟨hothers _ (fileName_ne_of_staging htmp), fun name _ hne => hothers name hne, ?_, ?_, ?_⟩
  · intro name b hdir
    rw [hothers name _, hdir]
    rintro rfl
    simp [hst.fresh] at hdir
  · rcases hstep.of_remove with ⟨-, rfl⟩ | ⟨rfl, -⟩
    · left
      rw [FiniteMap.lookup_erase, if_pos rfl]
    · right
      simp
  · simp [Confined]

theorem filled_closeAndDiscard (hst : Staged d tmp data d₁) (htmp : Staging tmp)
    (hrun : Run (closeAndDiscard tmp) d₁ t ok d') : Filled info d tmp t ok d' := by
  obtain ⟨r, d₂, t₂, rfl, hstep, hnext⟩ := hrun.of_call
  obtain rfl := hstep.eq_of_passive rfl
  exact (filled_discard hst htmp hnext).cons (by exact trivial) r

theorem filled_ifOk_passive {op : Op FileData} {success failure : Prog FileData Bool}
    (hop : op.passive = true) (hconfined : Confined tmp op)
    (hrun : Run (Prog.ifOk op success failure) d₁ t ok d')
    (hok : ∀ t, Run success d₁ t ok d' → Filled info d tmp t ok d')
    (hfail : ∀ t, Run failure d₁ t ok d' → Filled info d tmp t ok d') :
    Filled info d tmp t ok d' := by
  obtain ⟨r, d₂, t₂, rfl, hstep, hnext⟩ := hrun.of_ifOk
  obtain rfl := hstep.eq_of_passive hop
  rcases hnext with ⟨-, hnext⟩ | ⟨-, hnext⟩
  · exact (hok t₂ hnext).cons hconfined r
  · exact (hfail t₂ hnext).cons hconfined r

theorem filled_rename (hst : Staged d tmp (.record (newRecord info)) d₁) (htmp : Staging tmp)
    (hstep : Step d₁ (.rename tmp (fileName info.containerID)) .ok d') :
    Filled info d tmp [] true d' := by
  have hne : fileName info.containerID ≠ tmp := fileName_ne_of_staging htmp
  cases hstep with
  | rename _ _ moved hsource hfree =>
    rw [hst.file] at hsource
    cases hsource
    refine ⟨?_, ?_, ?_, ?_, by simp⟩
    · simp [published]
    · intro name htarget hname
      rw [FiniteMap.lookup_insert, if_neg htarget, FiniteMap.lookup_erase, if_neg hname,
        hst.others name hname]
    · intro name b hdir
      have hname : name ≠ tmp := by
        rintro rfl
        simp [hst.fresh] at hdir
      have hdir₁ : d₁.lookup name = some (.dir b) := by rw [hst.others name hname, hdir]
      have htarget : name ≠ fileName info.containerID := by
        rintro rfl
        exact hfree b hdir₁
      rw [FiniteMap.lookup_insert, if_neg htarget, FiniteMap.lookup_erase, if_neg hname, hdir₁]
    · left
      rw [FiniteMap.lookup_insert, if_neg hne.symm, FiniteMap.lookup_erase, if_pos rfl]

theorem filled_publish (hst : Staged d tmp (.record (newRecord info)) d₁) (htmp : Staging tmp)
    (hrun : Run (.ifOk (.rename tmp (fileName info.containerID)) (.pure true) (discard tmp))
      d₁ t ok d') : Filled info d tmp t ok d' := by
  obtain ⟨r, d₂, t₂, rfl, hstep, hnext⟩ := hrun.of_ifOk
  rcases hnext with ⟨rfl, hnext⟩ | ⟨hr, hnext⟩
  · obtain ⟨rfl, rfl, rfl⟩ := hnext.of_pure
    exact (filled_rename hst htmp hstep).cons (by exact trivial) _
  · cases hstep with
    | rename => exact absurd rfl hr
    | fail => exact (filled_discard hst htmp hnext).cons (by exact trivial) _

theorem filled_fillAndPublish (hst : Staged d tmp data d₁) (htmp : Staging tmp)
    (hrun : Run (fillAndPublish info tmp) d₁ t ok d') : Filled info d tmp t ok d' := by
  obtain ⟨r, d₂, t₂, rfl, hwrite, hnext⟩ := Run.of_ifOk hrun
  obtain ⟨left, hst₂, hleft⟩ := hst.write hwrite
  suffices h : Filled info d tmp t₂ ok d' from h.cons (by exact trivial) r
  rcases hnext with ⟨rfl, hnext⟩ | ⟨-, hnext⟩
  · obtain rfl := hleft rfl
    apply filled_ifOk_passive rfl (by exact trivial) hnext
    · intro t₃ hchmod
      apply filled_ifOk_passive rfl (by exact trivial) hchmod
      · intro t₄ hsync
        apply filled_ifOk_passive rfl (by exact trivial) hsync
        · intro t₅ hclose
          exact filled_publish hst₂ htmp hclose
        · intro t₅ hclose
          exact filled_discard hst₂ htmp hclose
      · intro t₄ hsync
        exact filled_closeAndDiscard hst₂ htmp hsync
    · intro t₃ hchmod
      exact filled_closeAndDiscard hst₂ htmp hchmod
  · exact filled_closeAndDiscard hst₂ htmp hnext

end Staging

section Writes

variable {d d₁ d₂ d' : MapDir} {t t₁ t₂ : Trace FileData}

/-- What the writes of a call do apart from the mapping files they publish. -/
structure Tidy (d : MapDir) (t : Trace FileData) (d' : MapDir) : Prop where
  others : ∀ name, GoString.hasSuffix name fileExtension = false →
    d'.lookup name = d.lookup name ∨
      (d.lookup name = none ∧ Staging name ∧ (.remove name, .failed) ∈ t)
  dirs : ∀ name b, d.lookup name = some (.dir b) → d'.lookup name = some (.dir b)
  created : ∀ name before after, (.createTemp before after, .created name) ∈ t →
    Staging name ∧ (d'.lookup name = none ∨ (.remove name, .failed) ∈ t)
  removed : ∀ name r, (.remove name, r) ∈ t → Staging name
  unlisted : ∀ r, (.readDir, r) ∉ t

theorem hasSuffix_of_staging {name : String} (h : Staging name) :
    GoString.hasSuffix name fileExtension = false := by
  by_contra hsuf
  exact not_staging_of_hasSuffix (by simpa using hsuf) h

theorem Tidy.refl (hcreate : ∀ before after name, (.createTemp before after, .created name) ∉ t)
    (hremove : ∀ name r, (.remove name, r) ∉ t) (hlist : ∀ r, (.readDir, r) ∉ t) :
    Tidy d t d where
  others _ _ := .inl rfl
  dirs _ _ h := h
  created name before after h := absurd h (hcreate before after name)
  removed name r h := absurd h (hremove name r)
  unlisted := hlist

theorem Tidy.trans (h₁ : Tidy d t₁ d₁) (h₂ : Tidy d₁ t₂ d₂) : Tidy d (t₁ ++ t₂) d₂ where
  others name hname := by
    rcases h₁.others name hname with hsame | ⟨hnone, hst, hmem⟩
    · rcases h₂.others name hname with hsame' | ⟨hnone, hst, hmem⟩
      · exact .inl (hsame'.trans hsame)
      · exact .inr ⟨hsame ▸ hnone, hst, List.mem_append_right _ hmem⟩
    · exact .inr ⟨hnone, hst, List.mem_append_left _ hmem⟩
  dirs name b h := h₂.dirs name b (h₁.dirs name b h)
  created name before after h := by
    rcases List.mem_append.mp h with hmem | hmem
    · obtain ⟨hst, hgone | hfailed⟩ := h₁.created name before after hmem
      · refine ⟨hst, ?_⟩
        rcases h₂.others name (hasSuffix_of_staging hst) with hsame | ⟨-, -, hfailed⟩
        · exact .inl (hsame.trans hgone)
        · exact .inr (List.mem_append_right _ hfailed)
      · exact ⟨hst, .inr (List.mem_append_left _ hfailed)⟩
    · obtain ⟨hst, hgone | hfailed⟩ := h₂.created name before after hmem
      · exact ⟨hst, .inl hgone⟩
      · exact ⟨hst, .inr (List.mem_append_right _ hfailed)⟩
  removed name r h := by
    rcases List.mem_append.mp h with hmem | hmem
    · exact h₁.removed name r hmem
    · exact h₂.removed name r hmem
  unlisted r h := by
    rcases List.mem_append.mp h with hmem | hmem
    · exact h₁.unlisted r hmem
    · exact h₂.unlisted r hmem

/-- One write: the mapping file of the container is replaced exactly if the call succeeds. -/
structure WriteOutcome (info : ContainerInfo) (d : MapDir) (t : Trace FileData) (ok : Bool)
    (d' : MapDir) : Prop extends Tidy d t d' where
  files : ∀ name, GoString.hasSuffix name fileExtension = true →
    d'.lookup name =
      if ok = true ∧ fileName info.containerID = name then some (published info)
      else d.lookup name

theorem Filled.writeOutcome {info : ContainerInfo} {tmp : String} {ok : Bool}
    {r : Reply FileData} (h : Filled info d tmp t ok d')
    (hfresh : d.lookup tmp = none) (htmp : Staging tmp) :
    WriteOutcome info d ((.mkdirAll, r) :: (.createTemp tempBefore tempAfter, .created tmp) :: t)
      ok d' where
  others name hname := by
    have htarget : name ≠ fileName info.containerID := by
      rintro rfl
      simp [hasSuffix_fileName] at hname
    by_cases heq : name = tmp
    · subst heq
      rcases h.cleaned with hgone | hfailed
      · exact .inl (hgone.trans hfresh.symm)
      · exact .inr ⟨hfresh, htmp, by simp [hfailed]⟩
    · exact .inl (h.others name htarget heq)
  dirs := h.dirs
  created name before after hmem := by
    simp only [List.mem_cons, Prod.mk.injEq, reduceCtorEq, false_and, false_or,
      Op.createTemp.injEq, Reply.created.injEq] at hmem
    rcases hmem with ⟨-, rfl⟩ | hmem
    · exact ⟨htmp, h.cleaned.imp_right fun hfailed => by simp [hfailed]⟩
    · exact (h.confined _ hmem).elim
  removed name r hmem := by
    simp only [List.mem_cons, Prod.mk.injEq, reduceCtorEq, false_and, false_or] at hmem
    have hname : name = tmp := h.confined _ hmem
    exact hname ▸ htmp
  unlisted r hmem := by
    simp only [List.mem_cons, Prod.mk.injEq, reduceCtorEq, false_and, false_or] at hmem
    exact h.confined _ hmem
  files name hname := by
    by_cases heq : fileName info.containerID = name
    · subst heq
      simpa using h.target
    · have hne : name ≠ tmp := by
        rintro rfl
        exact not_staging_of_hasSuffix hname htmp
      simp only [heq, and_false, if_false]
      exact h.others name (Ne.symm heq) hne

theorem writeOutcome_writeRecord {info : ContainerInfo} {ok : Bool}
    (hrun : Run (writeRecord info) d t ok d') : WriteOutcome info d t ok d' := by
  obtain ⟨r, d₁, t₁, rfl, hmkdir, ⟨-, hnext⟩ | ⟨-, hnext⟩⟩ := Run.of_ifOk hrun
  · obtain rfl := hmkdir.eq_of_passive rfl
    obtain ⟨r', d₂, t₂, rfl, hcreate, hnext⟩ := hnext.of_call
    cases hcreate with
    | createTemp _ _ random hfresh =>
      have htmp : Staging (tempBefore ++ random ++ tempAfter) := ⟨random, rfl⟩
      exact (filled_fillAndPublish (staged_insert hfresh) htmp hnext).writeOutcome hfresh htmp
    | fail =>
      obtain ⟨rfl, rfl, rfl⟩ := hnext.of_pure
      exact ⟨.refl (by simp) (by simp) (by simp), by simp⟩
  · obtain rfl := hmkdir.eq_of_passive rfl
    obtain ⟨rfl, rfl, rfl⟩ := hnext.of_pure
    exact ⟨.refl (by simp) (by simp) (by simp), by simp⟩

/-- The last of the containers with the property whose write succeeded. -/
def lastWritten (p : ContainerInfo → Bool) (containers : List ContainerInfo) (oks : List Bool) :
    Option ContainerInfo :=
  (((containers.zip oks).filter Prod.snd).map Prod.fst).reverse.find? p

theorem lastWritten_cons (p : ContainerInfo → Bool) (info : ContainerInfo)
    (containers : List ContainerInfo) (ok : Bool) (oks : List Bool) :
    lastWritten p (info :: containers) (ok :: oks) =
      (lastWritten p containers oks).or
        (if ok = true ∧ p info = true then some info else none) := by
  cases ok <;> cases hp : p info <;> simp [lastWritten, hp]

theorem writeAll_outcome {containers : List ContainerInfo} {oks : List Bool}
    (hrun : Run (writeAll containers) d t oks d') :
    Tidy d t d' ∧ ∀ name, GoString.hasSuffix name fileExtension = true →
      d'.lookup name =
        ((lastWritten (fun info => fileName info.containerID = name) containers oks).map
          published).or (d.lookup name) := by
  induction containers generalizing d t oks with
  | nil =>
    obtain ⟨rfl, rfl, rfl⟩ := hrun.of_pure
    exact ⟨.refl (by simp) (by simp) (by simp), by simp [lastWritten]⟩
  | cons info containers ih =>
    obtain ⟨t₁, t', ok, d₁, rfl, hwrite, hnext⟩ := Run.of_bind hrun
    obtain ⟨t₂, t₃, oks', d₂, rfl, hrest, hpure⟩ := hnext.of_bind
    obtain ⟨rfl, rfl, rfl⟩ := hpure.of_pure
    have hfirst := writeOutcome_writeRecord hwrite
    obtain ⟨htidy, hfiles⟩ := ih hrest
    rw [List.append_nil]
    refine ⟨hfirst.toTidy.trans htidy, fun name hname => ?_⟩
    rw [hfiles name hname, hfirst.files name hname, lastWritten_cons]
    cases lastWritten (fun info => fileName info.containerID = name) containers oks' with
    | some last => simp
    | none =>
      by_cases hok : ok = true ∧ fileName info.containerID = name
      · simp [hok]
      · simp [hok]

theorem run_writeAll_of_upsert {containers : List ContainerInfo}
    (hne : ∀ info ∈ containers, info.containerID ≠ "")
    (hrun : Run (Prog.forEach upsert containers) d t () d') :
    ∃ oks, Run (writeAll containers) d t oks d' := by
  induction containers generalizing d t with
  | nil =>
    obtain ⟨rfl, -, rfl⟩ := hrun.of_pure
    exact ⟨[], .pure _ _⟩
  | cons info containers ih =>
    obtain ⟨t₁, t₂, ⟨⟩, d₁, rfl, hupsert, hrest⟩ := Run.of_bind hrun
    obtain ⟨oks, hoks⟩ := ih (fun i hi => hne i (List.mem_cons_of_mem _ hi)) hrest
    rw [upsert, if_neg (hne info List.mem_cons_self)] at hupsert
    obtain ⟨t₃, t₄, ok, d₂, rfl, hwrite, hpure⟩ := hupsert.of_bind
    obtain ⟨rfl, -, rfl⟩ := hpure.of_pure
    rw [List.append_nil]
    refine ⟨ok :: oks, hwrite.bind ?_⟩
    rw [← List.append_nil t₂]
    exact hoks.bind (.pure _ _)

end Writes

section Unlinks

variable {d d' : MapDir} {t : Trace FileData}

def unlink (name : String) : Prog FileData Unit := .call (.remove name) fun _ => .pure ()

theorem forEach_removeStale (containers : List ContainerInfo) (entries : List (String × Bool)) :
    Prog.forEach (removeStale containers) entries =
      Prog.forEach unlink (stale containers entries) := by
  induction entries with
  | nil => rfl
  | cons entry entries ih =>
    obtain ⟨name, isDir⟩ := entry
    by_cases hkeep : isDir = true ∨ GoString.hasSuffix name fileExtension = false ∨
        name ∈ desired containers
    · have hstale : stale containers ((name, isDir) :: entries) = stale containers entries := by
        rcases hkeep with h | h | h <;> simp [stale, h]
      have hbody : removeStale containers (name, isDir) = .pure () := by
        rcases hkeep with h | h | h <;> simp [removeStale, h]
      rw [Prog.forEach, hbody, hstale, ← ih]
      rfl
    · push Not at hkeep
      obtain ⟨hdir, hsuf, hdes⟩ := hkeep
      have hstale : stale containers ((name, isDir) :: entries) =
          name :: stale containers entries := by
        simp [stale, hdir, hsuf, hdes]
      have hbody : removeStale containers (name, isDir) = unlink name := by
        simp [removeStale, unlink, hdir, hsuf, hdes]
      rw [Prog.forEach, hbody, hstale, Prog.forEach, ih]

/-- The unlinks touch the listed names only, and each of them removes its file or fails. -/
structure Unlinked (names : List String) (d : MapDir) (t : Trace FileData) (d' : MapDir) :
    Prop where
  others : ∀ name ∉ names, d'.lookup name = d.lookup name
  requests : ∀ e ∈ t, ∃ name ∈ names, e.1 = .remove name
  files : ∀ name ∈ names, d'.lookup name =
    if (.remove name, .failed) ∈ t then d.lookup name else none

theorem unlinked_forEach {names : List String} (hnodup : names.Nodup)
    (hrun : Run (Prog.forEach unlink names) d t () d') : Unlinked names d t d' := by
  induction names generalizing d t with
  | nil =>
    obtain ⟨rfl, -, rfl⟩ := hrun.of_pure
    exact ⟨by simp, by simp, by simp⟩
  | cons first names ih =>
    obtain ⟨hfirst, hnodup⟩ := List.nodup_cons.mp hnodup
    obtain ⟨t₁, t₂, ⟨⟩, d₁, rfl, hbody, hrest⟩ := Run.of_bind hrun
    obtain ⟨r, d₂, t₃, rfl, hstep, hpure⟩ := Run.of_call hbody
    obtain ⟨rfl, -, rfl⟩ := hpure.of_pure
    have hih := ih hnodup hrest
    have hone : ∀ name ≠ first, d₁.lookup name = d.lookup name := by
      intro name hne
      rcases hstep.of_remove with ⟨-, rfl⟩ | ⟨-, rfl⟩
      · rw [FiniteMap.lookup_erase, if_neg hne]
      · rfl
    have hlater : (.remove first, .failed) ∉ t₂ := by
      intro hmem
      obtain ⟨name, hname, heq⟩ := hih.requests _ hmem
      cases heq
      exact hfirst hname
    refine ⟨?_, ?_, ?_⟩
    · intro name hname
      simp only [List.mem_cons, not_or] at hname
      rw [hih.others name hname.2, hone name hname.1]
    · intro e he
      rcases List.mem_append.mp he with he | he
      · rw [List.mem_singleton.mp he]
        exact ⟨first, List.mem_cons_self, rfl⟩
      · obtain ⟨name, hname, heq⟩ := hih.requests e he
        exact ⟨name, List.mem_cons_of_mem _ hname, heq⟩
    · intro name hname
      by_cases heq : name = first
      · subst heq
        rw [hih.others name hfirst]
        rcases hstep.of_remove with ⟨rfl, rfl⟩ | ⟨rfl, rfl⟩
        · simp [hlater]
        · simp
      · have hname : name ∈ names := (List.mem_cons.mp hname).resolve_left heq
        rw [hih.files name hname, hone name heq]
        simp [heq]

theorem nodup_stale (containers : List ContainerInfo) (d : MapDir) :
    (stale containers (Directory.listing d)).Nodup := by
  have hnames : ((Directory.listing d).map Prod.fst).Nodup := by
    simpa [Directory.listing, Function.comp_def] using FiniteMap.nodup_map_fst_pairs d
  exact hnames.sublist (List.filter_sublist.map Prod.fst)

end Unlinks

section Replace

variable {containers : List ContainerInfo} {d d' : MapDir} {t : Trace FileData}

/-- The results of the writes of a call of `Replace`. None is tried if the first mkdir fails. -/
def WriteResults (containers : List ContainerInfo) (d : MapDir) (t : Trace FileData)
    (oks : List Bool) : Prop :=
  (t = [(.mkdirAll, .failed)] ∧ oks = []) ∨
    ∃ t₁ t₂ d₁, t = (.mkdirAll, .ok) :: (t₁ ++ t₂) ∧ Run (writeAll containers) d t₁ oks d₁

/-- The file belongs to none of the containers. -/
def Unlisted (containers : List ContainerInfo) (name : String) : Prop :=
  ∀ info ∈ containers, name ≠ fileName info.containerID

/-- What a call of `Replace` leaves, by the requests that failed in it. -/
structure ReplaceOutcome (containers : List ContainerInfo) (d : MapDir) (t : Trace FileData)
    (d' : MapDir) : Prop where
  listed : ∃ oks, WriteResults containers d t oks ∧ ∀ info ∈ containers,
    d'.lookup (fileName info.containerID) =
      ((lastWritten (fun other => other.containerID = info.containerID) containers oks).map
        published).or (d.lookup (fileName info.containerID))
  unlisted : ∀ name data, GoString.hasSuffix name fileExtension = true →
    Unlisted containers name → d.lookup name = some (.file data) →
      d'.lookup name =
        if t.head? = some (.mkdirAll, .failed) ∨ (.readDir, .failed) ∈ t ∨
          (.remove name, .failed) ∈ t then some (.file data) else none
  otherFiles : ∀ name entry, GoString.hasSuffix name fileExtension = false →
    d.lookup name = some entry → d'.lookup name = some entry
  dirs : ∀ name b, d.lookup name = some (.dir b) → d'.lookup name = some (.dir b)
  staging : ∀ name before after, (.createTemp before after, .created name) ∈ t →
    d'.lookup name = none ∨ (.remove name, .failed) ∈ t
  nothingNew : ∀ name, d.lookup name = none → Unlisted containers name →
    d'.lookup name = none ∨ (Staging name ∧ (.remove name, .failed) ∈ t)
  mkdirFailed : t.head? = some (.mkdirAll, .failed) → d' = d

theorem fileName_inj_of_bare {c c' : String} (hc : Bare c) (hc' : Bare c') :
    fileName c = fileName c' ↔ c = c' := by
  rw [fileName_of_bare hc, fileName_of_bare hc']
  constructor
  · intro h
    simpa using congrArg containerIDFromFile h
  · rintro rfl
    rfl

theorem lastWritten_congr {p q : ContainerInfo → Bool} {oks : List Bool}
    (h : ∀ info ∈ containers, p info = q info) :
    lastWritten p containers oks = lastWritten q containers oks := by
  induction containers generalizing oks with
  | nil => rfl
  | cons info containers ih =>
    cases oks with
    | nil => rfl
    | cons ok oks =>
      rw [lastWritten_cons, lastWritten_cons, h info List.mem_cons_self,
        ih fun i hi => h i (List.mem_cons_of_mem _ hi)]

theorem lastWritten_eq_none {p : ContainerInfo → Bool} {oks : List Bool}
    (h : ∀ info ∈ containers, p info = false) : lastWritten p containers oks = none := by
  rw [lastWritten_congr h]
  simp [lastWritten]

theorem mem_desired_iff (hne : ∀ info ∈ containers, info.containerID ≠ "") {name : String} :
    name ∈ desired containers ↔ ∃ info ∈ containers, fileName info.containerID = name := by
  simp only [desired, List.mem_map, List.mem_filter, decide_eq_true_eq]
  constructor
  · rintro ⟨info, ⟨hmem, -⟩, hname⟩
    exact ⟨info, hmem, hname⟩
  · rintro ⟨info, hmem, hname⟩
    exact ⟨info, ⟨hmem, hne info hmem⟩, hname⟩

theorem fileName_not_mem_stale (hbare : ∀ info ∈ containers, Bare info.containerID)
    {info : ContainerInfo} (hi : info ∈ containers) (d₁ : MapDir) :
    fileName info.containerID ∉ stale containers (Directory.listing d₁) := by
  intro hmem
  apply (mem_stale.mp hmem).2.2
  exact (mem_desired_iff fun other hother => (hbare other hother).nonempty).mpr ⟨info, hi, rfl⟩

theorem mem_stale_of_unlisted (hbare : ∀ info ∈ containers, Bare info.containerID) {d₁ : MapDir}
    {name : String} {data : FileData} (hname : GoString.hasSuffix name fileExtension = true)
    (hun : Unlisted containers name) (hfile : d₁.lookup name = some (.file data)) :
    name ∈ stale containers (Directory.listing d₁) := by
  refine mem_stale.mpr ⟨⟨data, hfile⟩, hname, ?_⟩
  rw [mem_desired_iff fun other hother => (hbare other hother).nonempty]
  rintro ⟨info, hi, heq⟩
  exact hun info hi heq.symm

theorem lastWritten_fileName (hbare : ∀ info ∈ containers, Bare info.containerID)
    {info : ContainerInfo} (hi : info ∈ containers) (oks : List Bool) :
    lastWritten (fun other => fileName other.containerID = fileName info.containerID)
        containers oks =
      lastWritten (fun other => other.containerID = info.containerID) containers oks := by
  apply lastWritten_congr
  intro other hother
  simp only [fileName_inj_of_bare (hbare other hother) (hbare info hi)]

/-- What is left after the writes and the part of the call behind them. -/
structure Swept (containers : List ContainerInfo) (d₁ : MapDir) (t : Trace FileData)
    (d' : MapDir) : Prop where
  kept : ∀ name, name ∉ stale containers (Directory.listing d₁) →
    d'.lookup name = d₁.lookup name
  swept : ∀ name ∈ stale containers (Directory.listing d₁), d'.lookup name =
    if (.readDir, .failed) ∈ t ∨ (.remove name, .failed) ∈ t then d₁.lookup name else none
  requests : ∀ e ∈ t, e.1 = .readDir ∨
    ∃ name ∈ stale containers (Directory.listing d₁), e.1 = .remove name

theorem Swept.kept_of_not_json {d₁ : MapDir} (h : Swept containers d₁ t d') {name : String}
    (hname : GoString.hasSuffix name fileExtension = false) :
    d'.lookup name = d₁.lookup name := by
  apply h.kept
  intro hmem
  simp [(mem_stale.mp hmem).2.1] at hname

theorem Swept.kept_of_not_file {d₁ : MapDir} (h : Swept containers d₁ t d') {name : String}
    (hname : ∀ data, d₁.lookup name ≠ some (.file data)) : d'.lookup name = d₁.lookup name := by
  apply h.kept
  intro hmem
  obtain ⟨⟨data, hfile⟩, -⟩ := mem_stale.mp hmem
  exact hname data hfile

theorem lookup_of_unlisted {d₁ : MapDir} {oks : List Bool} {name : String}
    (hwrites : Run (writeAll containers) d t oks d₁)
    (hname : GoString.hasSuffix name fileExtension = true) (hun : Unlisted containers name) :
    d₁.lookup name = d.lookup name := by
  have hnone : lastWritten (fun info => fileName info.containerID = name) containers oks = none :=
    lastWritten_eq_none fun info hi => by simpa using (hun info hi).symm
  simpa [hnone] using (writeAll_outcome hwrites).2 name hname

theorem swept_of_listing {d₁ : MapDir}
    (hrun : Run (Prog.forEach (removeStale containers) (Directory.listing d₁)) d₁ t () d') :
    Swept containers d₁ ((.readDir, .listing (Directory.listing d₁)) :: t) d' := by
  rw [forEach_removeStale] at hrun
  have hunlinked := unlinked_forEach (nodup_stale containers d₁) hrun
  have hlist : (.readDir, .failed) ∉ t := by
    intro hmem
    obtain ⟨name, -, heq⟩ := hunlinked.requests _ hmem
    cases heq
  refine ⟨hunlinked.others, ?_, ?_⟩
  · intro name hname
    simpa [hlist] using hunlinked.files name hname
  · intro e he
    rcases List.mem_cons.mp he with rfl | he
    · exact .inl rfl
    · exact .inr (hunlinked.requests e he)

theorem swept_of_failed (d₁ : MapDir) : Swept containers d₁ [(.readDir, .failed)] d₁ where
  kept _ _ := rfl
  swept := by simp
  requests := by simp

theorem ReplaceOutcome.of_swept (hbare : ∀ info ∈ containers, Bare info.containerID)
    {t₁ t₂ : Trace FileData} {d₁ : MapDir} {oks : List Bool}
    (hwrites : Run (writeAll containers) d t₁ oks d₁) (hswept : Swept containers d₁ t₂ d') :
    ReplaceOutcome containers d ((.mkdirAll, .ok) :: (t₁ ++ t₂)) d' := by
  obtain ⟨htidy, hfiles⟩ := writeAll_outcome hwrites
  refine ⟨⟨oks, .inr ⟨t₁, t₂, d₁, rfl, hwrites⟩, ?_⟩, ?_, ?_, ?_, ?_, ?_, by simp⟩
  · intro info hi
    rw [hswept.kept _ (fileName_not_mem_stale hbare hi d₁), hfiles _ (hasSuffix_fileName _),
      lastWritten_fileName hbare hi]
  · intro name data hname hun hfile
    have hfile₁ : d₁.lookup name = some (.file data) := by
      rw [lookup_of_unlisted hwrites hname hun, hfile]
    have hstale := mem_stale_of_unlisted hbare hname hun hfile₁
    have hremove : (.remove name, .failed) ∉ t₁ := by
      intro hmem
      exact not_staging_of_hasSuffix hname (htidy.removed name _ hmem)
    rw [hswept.swept name hstale, hfile₁]
    simp [htidy.unlisted, hremove]
  · intro name entry hname hentry
    rw [hswept.kept_of_not_json hname]
    rcases htidy.others name hname with hsame | ⟨hnone, -, -⟩
    · rw [hsame, hentry]
    · simp [hnone] at hentry
  · intro name b hdir
    have hdir₁ := htidy.dirs name b hdir
    rw [hswept.kept_of_not_file (by simp [hdir₁]), hdir₁]
  · intro name before after hmem
    have hmem₁ : (.createTemp before after, .created name) ∈ t₁ := by
      simp only [List.mem_cons, Prod.mk.injEq, reduceCtorEq, false_and, false_or,
        List.mem_append] at hmem
      rcases hmem with hmem | hmem
      · exact hmem
      · rcases hswept.requests _ hmem with heq | ⟨_, -, heq⟩
        · cases heq
        · cases heq
    obtain ⟨hst, hgone | hfailed⟩ := htidy.created name before after hmem₁
    · exact .inl ((hswept.kept_of_not_json (hasSuffix_of_staging hst)).trans hgone)
    · exact .inr (by simp [hfailed])
  · intro name hnone hun
    cases hname : GoString.hasSuffix name fileExtension with
    | true =>
      have hnone₁ : d₁.lookup name = none := by rw [lookup_of_unlisted hwrites hname hun, hnone]
      left
      rw [hswept.kept_of_not_file (by simp [hnone₁]), hnone₁]
    | false =>
      rw [hswept.kept_of_not_json hname]
      rcases htidy.others name hname with hsame | ⟨-, hst, hfailed⟩
      · exact .inl (hsame.trans hnone)
      · exact .inr ⟨hst, by simp [hfailed]⟩

theorem ReplaceOutcome.of_mkdir_failed :
    ReplaceOutcome containers d [(.mkdirAll, .failed)] d where
  listed := ⟨[], .inl ⟨rfl, rfl⟩, by simp [lastWritten]⟩
  unlisted _ _ _ _ h := by simp [h]
  otherFiles _ _ _ h := h
  dirs _ _ h := h
  staging := by simp
  nothingNew _ h _ := .inl h
  mkdirFailed _ := rfl

/-- `Replace` with any of its requests failing. -/
theorem replace_under_failures (hbare : ∀ info ∈ containers, Bare info.containerID)
    (hrun : Run (replace containers) d t () d') : ReplaceOutcome containers d t d' := by
  obtain ⟨r, d₀, t₀, rfl, hmkdir, hnext⟩ := Run.of_ifOk hrun
  obtain rfl := hmkdir.eq_of_passive rfl
  rcases hnext with ⟨rfl, hnext⟩ | ⟨hr, hnext⟩
  · obtain ⟨t₁, t₂, ⟨⟩, d₁, rfl, hupserts, hlist⟩ := hnext.of_bind
    obtain ⟨oks, hwrites⟩ :=
      run_writeAll_of_upsert (fun info hi => (hbare info hi).nonempty) hupserts
    obtain ⟨r, d₂, t₃, rfl, hstep, hsweep⟩ := hlist.of_call
    apply ReplaceOutcome.of_swept hbare hwrites
    cases hstep with
    | readDir => exact swept_of_listing hsweep
    | fail =>
      obtain ⟨rfl, -, rfl⟩ := hsweep.of_pure
      exact swept_of_failed _
  · obtain ⟨rfl, -, rfl⟩ := hnext.of_pure
    cases hmkdir with
    | mkdirAll => exact absurd rfl hr
    | fail => exact ReplaceOutcome.of_mkdir_failed

/-- The write of `c1` fails at its staging file: the file of `c1` stays as it was and the one of
`c0` is unlinked. -/
theorem replace_under_failures_createTemp :
    let info (id : String) : ContainerInfo := ⟨id, "", "pod", "ns", "uid", "", [], 0⟩
    let d : MapDir := (AList.insert "c0.json" (published (info "c0")) ∅).insert "c1.json"
      (published (info "c1"))
    ∃ t, (.createTemp tempBefore tempAfter, .failed) ∈ t ∧
      Run (replace [info "c1"]) d t () (d.erase "c0.json") ∧
      ReplaceOutcome [info "c1"] d t (d.erase "c0.json") := by
  intro info d
  have hwrite : Run (writeRecord (info "c1")) d
      [(.mkdirAll, .ok), (.createTemp tempBefore tempAfter, .failed)] false d :=
    .call (.mkdirAll d) (.call (.fail d _) (.pure _ _))
  have hupsert : Run (upsert (info "c1")) d
      ([(.mkdirAll, .ok), (.createTemp tempBefore tempAfter, .failed)] ++ []) () d := by
    rw [upsert, if_neg (by decide)]
    exact hwrite.bind (.pure _ _)
  have hstale : stale [info "c1"] (Directory.listing d) = ["c0.json"] := by decide +kernel
  have hsweep : Run (Prog.forEach (removeStale [info "c1"]) (Directory.listing d)) d
      [(.remove "c0.json", .ok)] () (d.erase "c0.json") := by
    rw [forEach_removeStale, hstale]
    exact .call (.removeFile d _ _ rfl) (.pure _ _)
  have hrun : Run (replace [info "c1"]) d _ () (d.erase "c0.json") :=
    .call (.mkdirAll d) ((hupsert.bind (.pure _ _)).bind (.call (.readDir d) hsweep))
  exact ⟨_, by simp, hrun, replace_under_failures (by decide) hrun⟩

end Replace

end GpuFractioning.Mapping.Writer
