import GpuFractioning.Lib.FiniteMap

/-!
# Programs over one directory, and rules for their runs

A directory is a finite map from names to entries. A request to the file
system is one atomic step that may succeed, fail or, for a write, fail after
leaving arbitrary data behind. A program is a tree of requests whose
continuation depends on the reply, so that its runs can be stopped, resumed
and interleaved at every single request. `wp` is the precondition under which
an invariant holds of every directory a run passes through and a postcondition
holds at its end.
-/

namespace FileSystem

variable {β α γ : Type}

inductive Entry (β : Type) where
  | file (data : β)
  | dir (empty : Bool)
  deriving DecidableEq, Repr

abbrev Directory (β : Type) := FiniteMap String (Entry β)

/-- A request, executed by the operating system in one step. -/
inductive Op (β : Type) where
  | mkdirAll
  | createTemp (before after : String)
  | write (name : String) (data : β)
  | chmod (name : String)
  | sync (name : String)
  | close (name : String)
  | rename (source target : String)
  | readDir
  | readFile (name : String)
  | remove (name : String)
  deriving DecidableEq, Repr

inductive Reply (β : Type) where
  | ok
  | failed
  | created (name : String)
  | listing (entries : List (String × Bool))
  | contents (data : β)
  deriving DecidableEq, Repr

def Entry.isDir : Entry β → Bool
  | .file _ => false
  | .dir _ => true

/-- What a listing reports: every name, with whether it is a directory. -/
def Directory.listing (d : Directory β) : List (String × Bool) :=
  d.pairs.map fun e => (e.1, e.2.isDir)

theorem Directory.mem_listing {d : Directory β} {name : String} {isDir : Bool} :
    (name, isDir) ∈ Directory.listing d ↔
      ∃ entry, d.lookup name = some entry ∧ entry.isDir = isDir := by
  simp only [Directory.listing, List.mem_map, Prod.exists, Prod.mk.injEq]
  constructor
  · rintro ⟨name', entry, hmem, rfl, hdir⟩
    exact ⟨entry, FiniteMap.mem_pairs.mp hmem, hdir⟩
  · rintro ⟨entry, hl, hdir⟩
    exact ⟨name, entry, FiniteMap.mem_pairs.mpr hl, rfl, hdir⟩

/-- The possible outcomes of one request. Every request may fail; a failed
write may leave any data in the file it was writing. -/
inductive Step [Inhabited β] : Directory β → Op β → Reply β → Directory β → Prop
  | mkdirAll (d) : Step d .mkdirAll .ok d
  | createTemp (d before after random) (fresh : d.lookup (before ++ random ++ after) = none) :
      Step d (.createTemp before after) (.created (before ++ random ++ after))
        (d.insert (before ++ random ++ after) (.file default))
  | write (d name data old) (h : d.lookup name = some (.file old)) :
      Step d (.write name data) .ok (d.insert name (.file data))
  | tornWrite (d name data old torn) (h : d.lookup name = some (.file old)) :
      Step d (.write name data) .failed (d.insert name (.file torn))
  | chmod (d name) : Step d (.chmod name) .ok d
  | sync (d name) : Step d (.sync name) .ok d
  | close (d name) : Step d (.close name) .ok d
  | rename (d source target data) (h : d.lookup source = some (.file data))
      (free : ∀ b, d.lookup target ≠ some (.dir b)) :
      Step d (.rename source target) .ok ((d.erase source).insert target (.file data))
  | readDir (d) : Step d .readDir (.listing (Directory.listing d)) d
  | readFile (d name data) (h : d.lookup name = some (.file data)) :
      Step d (.readFile name) (.contents data) d
  | removeFile (d name data) (h : d.lookup name = some (.file data)) :
      Step d (.remove name) .ok (d.erase name)
  | removeDir (d name) (h : d.lookup name = some (.dir true)) :
      Step d (.remove name) .ok (d.erase name)
  | fail (d op) : Step d op .failed d

/-- The requests that leave the names and contents of the directory alone. -/
def Op.passive : Op β → Bool
  | .mkdirAll | .chmod _ | .sync _ | .close _ | .readDir | .readFile _ => true
  | .createTemp _ _ | .write _ _ | .rename _ _ | .remove _ => false

theorem Step.eq_of_passive [Inhabited β] {d d' : Directory β} {op : Op β} {r : Reply β}
    (h : Step d op r d') (hop : op.passive = true) : d' = d := by
  cases h <;> first | rfl | cases hop

/-- A program over one directory. -/
inductive Prog (β α : Type) where
  | pure (a : α)
  | call (op : Op β) (next : Reply β → Prog β α)

namespace Prog

def bind : Prog β α → (α → Prog β γ) → Prog β γ
  | .pure a, f => f a
  | .call op next, f => .call op fun r => (next r).bind f

/-- A request, with one continuation for success and one for every other reply. -/
def ifOk (op : Op β) (success failure : Prog β α) : Prog β α :=
  .call op fun r =>
    match r with
    | .ok => success
    | _ => failure

/-- A loop over a list, ignoring what its body returns. -/
def forEach {ι : Type} (f : ι → Prog β Unit) : List ι → Prog β Unit
  | [] => .pure ()
  | x :: xs => (f x).bind fun _ => forEach f xs

/-- A loop over a list that keeps the values its body returns. -/
def collect {ι : Type} (f : ι → Prog β (Option α)) : List ι → Prog β (List α)
  | [] => .pure []
  | x :: xs => (f x).bind fun o => (collect f xs).bind fun as => .pure (o.toList ++ as)

end Prog

section Semantics

variable [Inhabited β]

/-- One step of a program that is still running. -/
inductive Advance : Prog β α × Directory β → Prog β α × Directory β → Prop
  | call {op next d r d'} (h : Step d op r d') : Advance (.call op next, d) (next r, d')

/-- A name no entry of the directory has. -/
def freshName (d : Directory β) (before after : String) : String :=
  before ++ String.ofList (List.replicate ((d.keys.map String.length).sum + 1) '0') ++ after

omit [Inhabited β] in
theorem freshName_lookup (d : Directory β) (before after : String) :
    d.lookup (freshName d before after) = none := by
  rw [AList.lookup_eq_none, AList.mem_keys]
  intro h
  have hle : (freshName d before after).length ≤ (d.keys.map String.length).sum :=
    List.single_le_sum (fun _ _ => Nat.zero_le _) _ (List.mem_map_of_mem h)
  simp only [freshName, String.length_append, String.length_ofList, List.length_replicate] at hle
  omega

/-- The outcome of a request when the operating system does what it is asked. -/
def perform (d : Directory β) : Op β → Reply β × Directory β
  | .mkdirAll => (.ok, d)
  | .createTemp before after =>
    let name := freshName d before after
    (.created name, d.insert name (.file default))
  | .write name data =>
    match d.lookup name with
    | some (.file _) => (.ok, d.insert name (.file data))
    | _ => (.failed, d)
  | .chmod _ => (.ok, d)
  | .sync _ => (.ok, d)
  | .close _ => (.ok, d)
  | .rename source target =>
    match d.lookup source, d.lookup target with
    | some (.file _), some (.dir _) => (.failed, d)
    | some (.file data), _ => (.ok, (d.erase source).insert target (.file data))
    | _, _ => (.failed, d)
  | .readDir => (.listing (Directory.listing d), d)
  | .readFile name =>
    match d.lookup name with
    | some (.file data) => (.contents data, d)
    | _ => (.failed, d)
  | .remove name =>
    match d.lookup name with
    | some (.file _) => (.ok, d.erase name)
    | some (.dir true) => (.ok, d.erase name)
    | _ => (.failed, d)

theorem perform_step (d : Directory β) (op : Op β) :
    Step d op (perform d op).1 (perform d op).2 := by
  cases op with
  | mkdirAll => exact .mkdirAll d
  | createTemp before after => exact .createTemp d before after _ (freshName_lookup d before after)
  | write name data =>
    simp only [perform]
    split
    · next h => exact .write d name data _ h
    · exact .fail d _
  | chmod name => exact .chmod d name
  | sync name => exact .sync d name
  | close name => exact .close d name
  | rename source target =>
    simp only [perform]
    split
    · exact .fail d _
    · next hs ht => exact .rename d source target _ hs fun b hb => ht b hb
    · exact .fail d _
  | readDir => exact .readDir d
  | readFile name =>
    simp only [perform]
    split
    · next h => exact .readFile d name _ h
    · exact .fail d _
  | remove name =>
    simp only [perform]
    split
    · next h => exact .removeFile d name _ h
    · next h => exact .removeDir d name h
    · exact .fail d _

/-- The run in which every request is performed. -/
def exec : Prog β α → Directory β → α × Directory β
  | .pure a, d => (a, d)
  | .call op next, d => exec (next (perform d op).1) (perform d op).2

@[simp] theorem exec_pure (a : α) (d : Directory β) : exec (.pure a) d = (a, d) := rfl

theorem exec_bind (p : Prog β α) (f : α → Prog β γ) (d : Directory β) :
    exec (p.bind f) d = exec (f (exec p d).1) (exec p d).2 := by
  induction p generalizing d with
  | pure a => rfl
  | call op next ih => exact ih _ _

theorem exec_ifOk {op : Op β} {d d' : Directory β} (h : perform d op = (.ok, d'))
    (success failure : Prog β α) : exec (Prog.ifOk op success failure) d = exec success d' := by
  simp [Prog.ifOk, exec, h]

theorem exec_forEach_cons {ι : Type} (f : ι → Prog β Unit) (x : ι) (xs : List ι)
    (d : Directory β) :
    exec (Prog.forEach f (x :: xs)) d = exec (Prog.forEach f xs) (exec (f x) d).2 := by
  rw [Prog.forEach, exec_bind]

theorem exec_collect {ι : Type} {f : ι → Prog β (Option α)} {d : Directory β}
    (h : ∀ x, (exec (f x) d).2 = d) (xs : List ι) :
    exec (Prog.collect f xs) d = (xs.filterMap fun x => (exec (f x) d).1, d) := by
  induction xs with
  | nil => rfl
  | cons x xs ih =>
    rw [Prog.collect, exec_bind, h x, exec_bind, ih]
    cases ho : (exec (f x) d).1 <;> simp [ho]

end Semantics

section Rules

variable [Inhabited β] (I : Directory β → Prop)

/-- The weakest precondition under which `I` holds before every request of a
run and `Q` at its end. -/
def wp : Prog β α → (α → Directory β → Prop) → Directory β → Prop
  | .pure a, Q, d => I d ∧ Q a d
  | .call op next, Q, d => I d ∧ ∀ r d', Step d op r d' → wp (next r) Q d'

theorem wp_invariant {p : Prog β α} {Q : α → Directory β → Prop} {d : Directory β}
    (h : wp I p Q d) : I d := by
  cases p with
  | pure a => exact h.1
  | call op next => exact h.1

theorem wp_mono {p : Prog β α} {Q Q' : α → Directory β → Prop} {d : Directory β}
    (h : wp I p Q d) (hQ : ∀ a d, I d → Q a d → Q' a d) : wp I p Q' d := by
  induction p generalizing d with
  | pure a => exact ⟨h.1, hQ a d h.1 h.2⟩
  | call op next ih => exact ⟨h.1, fun r d' hs => ih r (h.2 r d' hs)⟩

theorem wp_bind {p : Prog β α} {f : α → Prog β γ} {Q : γ → Directory β → Prop}
    {d : Directory β} (h : wp I p (fun a d' => wp I (f a) Q d') d) : wp I (p.bind f) Q d := by
  induction p generalizing d with
  | pure a => exact h.2
  | call op next ih => exact ⟨h.1, fun r d' hs => ih r (h.2 r d' hs)⟩

theorem wp_ifOk {op : Op β} {success failure : Prog β α} {Q : α → Directory β → Prop}
    {d : Directory β} (hd : I d) (hok : ∀ d', Step d op .ok d' → wp I success Q d')
    (hfail : ∀ r d', Step d op r d' → wp I failure Q d') :
    wp I (Prog.ifOk op success failure) Q d := by
  refine ⟨hd, ?_⟩
  intro r d' hs
  cases r with
  | ok => exact hok d' hs
  | failed => exact hfail _ d' hs
  | created name => exact hfail _ d' hs
  | listing entries => exact hfail _ d' hs
  | contents data => exact hfail _ d' hs

theorem wp_ifOk_passive {op : Op β} (hop : op.passive = true) {success failure : Prog β α}
    {Q : α → Directory β → Prop} {d : Directory β} (hok : wp I success Q d)
    (hfail : wp I failure Q d) : wp I (Prog.ifOk op success failure) Q d := by
  apply wp_ifOk I (wp_invariant I hok)
  · intro d' hs
    exact hs.eq_of_passive hop ▸ hok
  · intro r d' hs
    exact hs.eq_of_passive hop ▸ hfail

theorem wp_forEach {ι : Type} {f : ι → Prog β Unit} {xs : List ι} {d : Directory β} (hd : I d)
    (h : ∀ x ∈ xs, ∀ d, I d → wp I (f x) (fun _ _ => True) d) :
    wp I (Prog.forEach f xs) (fun _ _ => True) d := by
  induction xs generalizing d with
  | nil => exact ⟨hd, trivial⟩
  | cons x xs ih =>
    apply wp_bind
    apply wp_mono I (h x (by simp) d hd)
    intro _ d' hd' _
    exact ih hd' fun y hy => h y (by simp [hy])

theorem wp_advance {p p' : Prog β α} {d d' : Directory β} {Q : α → Directory β → Prop}
    (h : wp I p Q d) (hs : Advance (p, d) (p', d')) : wp I p' Q d' := by
  cases hs with
  | call hstep => exact h.2 _ _ hstep

end Rules

section Runs

variable [Inhabited β]

/-- The requests of a run, each with its reply. -/
abbrev Trace (β : Type) := List (Op β × Reply β)

/-- The complete runs of a program, with whatever requests fail in them. -/
inductive Run : Prog β α → Directory β → Trace β → α → Directory β → Prop
  | pure (a d) : Run (.pure a) d [] a d
  | call {op next d r d₁ t a d'} (hstep : Step d op r d₁) (hnext : Run (next r) d₁ t a d') :
      Run (.call op next) d ((op, r) :: t) a d'

/-- The complete runs in which every reply meets an assumption about the
directory it is given in. -/
inductive RunUnder (A : Directory β → Op β → Reply β → Prop) :
    Prog β α → Directory β → Trace β → α → Directory β → Prop
  | pure (a d) : RunUnder A (.pure a) d [] a d
  | call {op next d r d₁ t a d'} (hstep : Step d op r d₁) (hreply : A d op r)
      (hnext : RunUnder A (next r) d₁ t a d') : RunUnder A (.call op next) d ((op, r) :: t) a d'

variable {A : Directory β → Op β → Reply β → Prop} {d d' : Directory β} {t : Trace β} {a : α}

theorem RunUnder.of_pure {b : α} (h : RunUnder A (.pure b) d t a d') :
    t = [] ∧ a = b ∧ d' = d := by
  cases h
  exact ⟨rfl, rfl, rfl⟩

theorem RunUnder.of_call {op : Op β} {next : Reply β → Prog β α}
    (h : RunUnder A (.call op next) d t a d') :
    ∃ r d₁ t₁, t = (op, r) :: t₁ ∧ Step d op r d₁ ∧ A d op r ∧ RunUnder A (next r) d₁ t₁ a d' := by
  cases h with
  | call hstep hreply hnext => exact ⟨_, _, _, rfl, hstep, hreply, hnext⟩

theorem RunUnder.of_ifOk {op : Op β} {success failure : Prog β α}
    (h : RunUnder A (Prog.ifOk op success failure) d t a d') :
    ∃ r d₁ t₁, t = (op, r) :: t₁ ∧ Step d op r d₁ ∧
      (r = .ok ∧ RunUnder A success d₁ t₁ a d' ∨ r ≠ .ok ∧ RunUnder A failure d₁ t₁ a d') := by
  obtain ⟨r, d₁, t₁, rfl, hstep, -, hnext⟩ := h.of_call
  refine ⟨r, d₁, t₁, rfl, hstep, ?_⟩
  cases r with
  | ok => exact .inl ⟨rfl, hnext⟩
  | failed => exact .inr ⟨by simp, hnext⟩
  | created name => exact .inr ⟨by simp, hnext⟩
  | listing entries => exact .inr ⟨by simp, hnext⟩
  | contents data => exact .inr ⟨by simp, hnext⟩

theorem RunUnder.of_bind {p : Prog β α} {f : α → Prog β γ} {c : γ}
    (h : RunUnder A (p.bind f) d t c d') :
    ∃ t₁ t₂ a d₁, t = t₁ ++ t₂ ∧ RunUnder A p d t₁ a d₁ ∧ RunUnder A (f a) d₁ t₂ c d' := by
  induction p generalizing d t with
  | pure a => exact ⟨[], t, a, d, rfl, .pure a d, h⟩
  | call op next ih =>
    obtain ⟨r, d₀, t₀, rfl, hstep, hreply, hnext⟩ := RunUnder.of_call h
    obtain ⟨t₁, t₂, a, d₁, rfl, hp, hf⟩ := ih r hnext
    exact ⟨(op, r) :: t₁, t₂, a, d₁, rfl, .call hstep hreply hp, hf⟩

theorem run_iff {p : Prog β α} : Run p d t a d' ↔ RunUnder (fun _ _ _ => True) p d t a d' := by
  constructor
  · intro h
    induction h with
    | pure a d => exact .pure a d
    | call hstep _ ih => exact .call hstep trivial ih
  · intro h
    induction h with
    | pure a d => exact .pure a d
    | call hstep _ _ ih => exact .call hstep ih

theorem Run.of_pure {b : α} (h : Run (.pure b) d t a d') : t = [] ∧ a = b ∧ d' = d :=
  (run_iff.mp h).of_pure

theorem Run.of_call {op : Op β} {next : Reply β → Prog β α} (h : Run (.call op next) d t a d') :
    ∃ r d₁ t₁, t = (op, r) :: t₁ ∧ Step d op r d₁ ∧ Run (next r) d₁ t₁ a d' := by
  obtain ⟨r, d₁, t₁, ht, hstep, -, hnext⟩ := (run_iff.mp h).of_call
  exact ⟨r, d₁, t₁, ht, hstep, run_iff.mpr hnext⟩

theorem Run.of_ifOk {op : Op β} {success failure : Prog β α}
    (h : Run (Prog.ifOk op success failure) d t a d') :
    ∃ r d₁ t₁, t = (op, r) :: t₁ ∧ Step d op r d₁ ∧
      (r = .ok ∧ Run success d₁ t₁ a d' ∨ r ≠ .ok ∧ Run failure d₁ t₁ a d') := by
  obtain ⟨r, d₁, t₁, ht, hstep, hnext⟩ := (run_iff.mp h).of_ifOk
  refine ⟨r, d₁, t₁, ht, hstep, ?_⟩
  rcases hnext with ⟨hr, hsuccess⟩ | ⟨hr, hfailure⟩
  · exact .inl ⟨hr, run_iff.mpr hsuccess⟩
  · exact .inr ⟨hr, run_iff.mpr hfailure⟩

theorem Run.of_bind {p : Prog β α} {f : α → Prog β γ} {c : γ} (h : Run (p.bind f) d t c d') :
    ∃ t₁ t₂ a d₁, t = t₁ ++ t₂ ∧ Run p d t₁ a d₁ ∧ Run (f a) d₁ t₂ c d' := by
  obtain ⟨t₁, t₂, a, d₁, ht, hp, hf⟩ := (run_iff.mp h).of_bind
  exact ⟨t₁, t₂, a, d₁, ht, run_iff.mpr hp, run_iff.mpr hf⟩

theorem Run.bind {p : Prog β α} {f : α → Prog β γ} {c : γ} {d₁ : Directory β} {t₁ t₂ : Trace β}
    (hp : Run p d t₁ a d₁) (hf : Run (f a) d₁ t₂ c d') : Run (p.bind f) d (t₁ ++ t₂) c d' := by
  induction hp with
  | pure a d => exact hf
  | call hstep _ ih => exact .call hstep (ih hf)

theorem Step.of_remove {name : String} {r : Reply β} (h : Step d (.remove name) r d') :
    r = .ok ∧ d' = d.erase name ∨ r = .failed ∧ d' = d := by
  cases h with
  | removeFile | removeDir => exact .inl ⟨rfl, rfl⟩
  | fail => exact .inr ⟨rfl, rfl⟩

end Runs

section Assumptions

variable [Inhabited β] {d d' : Directory β} {t : Trace β}

/-- The run in which the marked requests fail and every other one is performed. -/
def execFailing : Prog β α → Directory β → List Bool → Trace β × α × Directory β
  | .pure a, d, _ => ([], a, d)
  | .call op next, d, marks =>
    let outcome := if marks.headD false then (.failed, d) else perform d op
    let rest := execFailing (next outcome.1) outcome.2 marks.tail
    ((op, outcome.1) :: rest.1, rest.2)

/-- A removal is performed whenever it can be. -/
def RemovalsSucceed (d : Directory β) (op : Op β) (r : Reply β) : Prop :=
  ∀ name, op = .remove name → r = (perform d op).1

def Op.isRemoval : Op β → Bool
  | .remove _ => true
  | _ => false

theorem runUnder_execFailing (p : Prog β α) (d : Directory β) (marks : List Bool)
    (h : ∀ e ∈ (execFailing p d marks).1, e.1.isRemoval = true → e.2 ≠ .failed) :
    RunUnder RemovalsSucceed p d (execFailing p d marks).1 (execFailing p d marks).2.1
      (execFailing p d marks).2.2 := by
  induction p generalizing d marks with
  | pure a => exact .pure a d
  | call op next ih =>
    by_cases hmark : marks.headD false = true
    · simp only [execFailing, if_pos hmark, List.forall_mem_cons] at h ⊢
      refine .call (.fail d op) ?_ (ih _ _ _ h.2)
      rintro name rfl
      exact absurd rfl (h.1 rfl)
    · simp only [execFailing, if_neg hmark, List.forall_mem_cons] at h ⊢
      exact .call (perform_step d op) (fun _ _ => rfl) (ih _ _ _ h.2)

/-- The targets of the renames that succeeded. -/
def renamed (t : Trace β) : List String :=
  t.filterMap fun e =>
    match e with
    | (.rename _ target, .ok) => some target
    | _ => none

/-- The names of the temporary files that were created. -/
def created (t : Trace β) : List String :=
  t.filterMap fun e =>
    match e with
    | (.createTemp _ _, .created name) => some name
    | _ => none

/-- The requests that neither create nor rename. -/
def Op.quiet : Op β → Bool
  | .createTemp _ _ | .rename _ _ => false
  | _ => true

omit [Inhabited β] in
@[simp] theorem renamed_append (t t' : Trace β) : renamed (t ++ t') = renamed t ++ renamed t' :=
  List.filterMap_append

omit [Inhabited β] in
@[simp] theorem created_append (t t' : Trace β) : created (t ++ t') = created t ++ created t' :=
  List.filterMap_append

omit [Inhabited β] in
theorem renamed_cons_of_quiet {op : Op β} (hop : op.quiet = true) (r : Reply β) (t : Trace β) :
    renamed ((op, r) :: t) = renamed t := by
  cases op <;> first | rfl | cases hop

omit [Inhabited β] in
theorem created_cons_of_quiet {op : Op β} (hop : op.quiet = true) (r : Reply β) (t : Trace β) :
    created ((op, r) :: t) = created t := by
  cases op <;> first | rfl | cases hop

/-- Removals whose errors are ignored. -/
def Prog.removeAll (paths : List String) : Prog β Unit :=
  Prog.forEach (fun path => .call (.remove path) fun _ => .pure ()) paths

/-- A file whose removal succeeds, or that is not there, is gone after it. -/
theorem Step.eq_erase_of_remove {name : String} {r : Reply β} (h : Step d (.remove name) r d')
    (hr : RemovalsSucceed d (.remove name) r) (hfile : ∀ b, d.lookup name ≠ some (.dir b)) :
    d' = d.erase name := by
  rcases h.of_remove with ⟨-, hd'⟩ | ⟨rfl, rfl⟩
  · exact hd'
  · have hfailed := hr name rfl
    cases hlookup : d'.lookup name with
    | none => exact (FiniteMap.erase_eq_self hlookup).symm
    | some entry =>
      cases entry with
      | file data => simp [perform, hlookup] at hfailed
      | dir empty => exact absurd hlookup (hfile empty)

theorem RunUnder.of_removeAll {paths : List String}
    (h : RunUnder RemovalsSucceed (Prog.removeAll paths) d t () d')
    (hfiles : ∀ path ∈ paths, ∀ b, d.lookup path ≠ some (.dir b)) :
    d' = FiniteMap.eraseAll paths d ∧ renamed t = [] ∧ created t = [] := by
  induction paths generalizing d t with
  | nil =>
    obtain ⟨rfl, -, rfl⟩ := RunUnder.of_pure h
    exact ⟨rfl, rfl, rfl⟩
  | cons path paths ih =>
    obtain ⟨r, d₁, t₁, rfl, hstep, hreply, hrest⟩ := RunUnder.of_call h
    obtain rfl := hstep.eq_erase_of_remove hreply (hfiles path List.mem_cons_self)
    have hfiles' : ∀ path' ∈ paths, ∀ b, (d.erase path).lookup path' ≠ some (.dir b) := by
      intro path' hpath' b
      rw [FiniteMap.lookup_erase]
      split_ifs
      · simp
      · exact hfiles path' (List.mem_cons_of_mem path hpath') b
    obtain ⟨hd', hrenamed, hcreated⟩ := ih hrest hfiles'
    refine ⟨hd', ?_, ?_⟩
    · rwa [renamed_cons_of_quiet rfl]
    · rwa [created_cons_of_quiet rfl]

end Assumptions

end FileSystem
