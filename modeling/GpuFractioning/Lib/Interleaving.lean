import GpuFractioning.Lib.FileSystem

/-!
# A query interleaved with the steps of another process

Two processes share one directory. The first executes operations from a given
set one request at a time; each request may fail, and the process may be killed
after any of them and start again with any operation. The second executes a
query whose requests are performed. While the query runs, every directory it
could have seen is kept in a history, the current one first.

`observes` is the precondition of a query under such interference, and
`Reachable.safe` discharges it: an invariant kept by every operation of the
first process may be assumed of every directory of the history.
-/

namespace FileSystem

variable {β α γ : Type} [Inhabited β]

structure System (β α : Type) where
  dir : Directory β
  process : Prog β Unit
  query : Prog β α
  history : List (Directory β)

namespace System

/-- The history after the directory has become `d`; it is complete once the
query has returned. -/
def seen (s : System β α) (d : Directory β) : List (Directory β) :=
  match s.query with
  | .pure _ => s.history
  | .call _ _ => d :: s.history

inductive Next (ops : Set (Prog β Unit)) (query : Prog β α) : System β α → System β α → Prop
  | process {s p' d'} (h : Advance (s.process, s.dir) (p', d')) :
      Next ops query s { s with dir := d', process := p', history := s.seen d' }
  | start {s} (op) (h : op ∈ ops) : Next ops query s { s with process := op }
  | begin {s} : Next ops query s { s with query := query, history := [s.dir] }
  | query {s op next} (h : s.query = .call op next) :
      Next ops query s
        { s with
          dir := (perform s.dir op).2
          query := next (perform s.dir op).1
          history := (perform s.dir op).2 :: s.history }

/-- Runs from a directory, in which a query may have begun any number of times. -/
inductive Reachable (ops : Set (Prog β Unit)) (query : Prog β α) (d : Directory β) :
    System β α → Prop
  | init : Reachable ops query d ⟨d, .pure (), query, [d]⟩
  | next {s s'} (h : Reachable ops query d s) (hs : Next ops query s s') :
      Reachable ops query d s'

end System

theorem System.Reachable.exec_process {ops : Set (Prog β Unit)} {query : Prog β α}
    {d : Directory β} {s : System β α} (h : Reachable ops query d s) :
    ∃ history, Reachable ops query d
      { s with dir := (exec s.process s.dir).2, process := .pure (), history := history } := by
  obtain ⟨dir, p, q, history⟩ := s
  induction p generalizing dir history with
  | pure _ => exact ⟨history, h⟩
  | call op next ih => exact ih _ _ _ (h.next (.process (.call (perform_step dir op))))

theorem System.Reachable.begin_after {ops : Set (Prog β Unit)} {query : Prog β α}
    {d : Directory β} {s : System β α} (h : Reachable ops query d s) {op : Prog β Unit}
    (hop : op ∈ ops) :
    Reachable ops query d
      ⟨(exec op s.dir).2, .pure (), query, [(exec op s.dir).2]⟩ := by
  obtain ⟨_, hdone⟩ := (h.next (.start op hop)).exec_process
  exact hdone.next .begin

section Rules

variable (I : Directory β → Prop) (A : Op β → Prop)

/-- The weakest precondition of a query while the other process may replace the
directory, any number of times, by another one that satisfies `I`. The query
only reads, and only makes requests that satisfy `A`. -/
def observes : Prog β α → (α → List (Directory β) → Prop) → List (Directory β) → Prop
  | .pure a, Q, h => (∀ e ∈ h, I e) → Q a h
  | .call op next, Q, h => ∀ new d, (∀ e ∈ new ++ h, I e) → (new ++ h).head? = some d →
      A op ∧ (perform d op).2 = d ∧ observes (next (perform d op).1) Q (d :: (new ++ h))

variable {I A}

theorem observes_mono {p : Prog β α} {Q Q' : α → List (Directory β) → Prop}
    {h : List (Directory β)} (hp : observes I A p Q h)
    (hQ : ∀ a new, (∀ e ∈ new ++ h, I e) → Q a (new ++ h) → Q' a (new ++ h)) :
    observes I A p Q' h := by
  induction p generalizing h with
  | pure a => exact fun hI => hQ a [] hI (hp hI)
  | call op next ih =>
    intro new d hnew hd
    obtain ⟨hop, hread, hnext⟩ := hp new d hnew hd
    refine ⟨hop, hread, ih _ hnext ?_⟩
    intro a new' hI hq
    simpa using hQ a (new' ++ d :: new) (by simpa using hI) (by simpa using hq)

theorem observes_bind {p : Prog β α} {f : α → Prog β γ} {Q : γ → List (Directory β) → Prop}
    {h : List (Directory β)} (hp : observes I A p (fun a h' => observes I A (f a) Q h') h)
    (hI : ∀ e ∈ h, I e) : observes I A (p.bind f) Q h := by
  induction p generalizing h with
  | pure a => exact hp hI
  | call op next ih =>
    intro new d hnew hd
    obtain ⟨hop, hread, hnext⟩ := hp new d hnew hd
    have hdI : I d := hnew d (List.mem_of_mem_head? hd)
    exact ⟨hop, hread, ih _ hnext (by
      rintro e (_ | ⟨_, he⟩)
      · exact hdI
      · exact hnew e he)⟩

/-- A loop of queries, each of which establishes a property of its value that
survives a longer history. -/
theorem observes_collect {ι : Type} {f : ι → Prog β (Option α)}
    {P : ι → Option α → List (Directory β) → Prop}
    (hmono : ∀ x o h new, P x o h → P x o (new ++ h))
    (hbody : ∀ x h, observes I A (f x) (P x) h) (xs : List ι) (h : List (Directory β))
    (hI : ∀ e ∈ h, I e) :
    observes I A (Prog.collect f xs)
      (fun as h' => (∀ a ∈ as, ∃ x ∈ xs, P x (some a) h') ∧
        ∀ x ∈ xs, ∃ o, P x o h' ∧ ∀ a ∈ o, a ∈ as) h := by
  induction xs generalizing h with
  | nil => exact fun _ => ⟨by simp, by simp⟩
  | cons x xs ih =>
    apply observes_bind _ hI
    apply observes_mono (hbody x h)
    intro o new hnew ho
    apply observes_bind _ hnew
    apply observes_mono (ih (new ++ h) hnew)
    intro as new' _ has _
    have ho' := hmono x o _ new' ho
    refine ⟨?_, ?_⟩
    · intro a ha
      rcases List.mem_append.mp ha with ha | ha
      · rw [Option.mem_toList.mp ha] at ho'
        exact ⟨x, by simp, ho'⟩
      · obtain ⟨y, hy, hP⟩ := has.1 a ha
        exact ⟨y, by simp [hy], hP⟩
    · intro y hy
      rcases List.mem_cons.mp hy with rfl | hy
      · exact ⟨o, ho', fun a ha => by simp [Option.mem_toList.mpr ha]⟩
      · obtain ⟨o', hP, hsub⟩ := has.2 y hy
        exact ⟨o', hP, fun a ha => by simp [hsub a ha]⟩

/-- The invariant of the whole system: the first process may go on, and so may
the query from the history recorded so far. -/
structure System.Safe (I : Directory β → Prop) (A : Op β → Prop)
    (Q : α → List (Directory β) → Prop) (s : System β α) : Prop where
  process : wp I s.process (fun _ _ => True) s.dir
  query : observes I A s.query Q s.history
  history : ∀ e ∈ s.history, I e
  current : ∀ op next, s.query = .call op next → s.history.head? = some s.dir

variable {ops : Set (Prog β Unit)} {query : Prog β α} {Q : α → List (Directory β) → Prop}

omit [Inhabited β] in
theorem mem_seen {s : System β α} {d e : Directory β} (he : e ∈ s.seen d) :
    e = d ∨ e ∈ s.history := by
  unfold System.seen at he
  split at he
  · exact Or.inr he
  · exact List.mem_cons.mp he

theorem observes_seen {s : System β α} (d : Directory β)
    (h : observes I A s.query Q s.history) : observes I A s.query Q (s.seen d) := by
  unfold System.seen
  split
  · exact h
  · next op next hq =>
    rw [hq] at h ⊢
    intro new e hnew he
    have := h (new ++ [d]) e (by simpa using hnew) (by simpa using he)
    simpa using this

theorem System.Safe.next (hops : ∀ op ∈ ops, ∀ d, I d → wp I op (fun _ _ => True) d)
    (hquery : ∀ d, I d → observes I A query Q [d]) {s s' : System β α} (hs : s.Safe I A Q)
    (h : System.Next ops query s s') : s'.Safe I A Q := by
  have hI : I s.dir := wp_invariant I hs.process
  cases h with
  | @process p' d' hadv =>
    have hwp := wp_advance I hs.process hadv
    refine ⟨hwp, observes_seen d' hs.query, ?_, ?_⟩
    · intro e he
      rcases mem_seen he with rfl | he
      · exact wp_invariant I hwp
      · exact hs.history e he
    · intro op next hq
      have hq' : s.query = .call op next := hq
      simp [System.seen, hq']
  | start op hop => exact ⟨hops op hop _ hI, hs.query, hs.history, hs.current⟩
  | begin => exact ⟨hs.process, hquery _ hI, by simpa using hI, fun _ _ _ => rfl⟩
  | @query op next hq =>
    have hobs := hs.query
    rw [hq] at hobs
    obtain ⟨-, hread, hnext⟩ := hobs [] s.dir (by simpa using hs.history)
      (by simpa using hs.current op next hq)
    simp only [hread]
    refine ⟨hs.process, hnext, ?_, fun _ _ _ => rfl⟩
    rintro e (_ | ⟨_, he⟩)
    · exact hI
    · exact hs.history e he

/-- In every reachable state the query can go on to establish its postcondition. -/
theorem System.Reachable.safe (hops : ∀ op ∈ ops, ∀ d, I d → wp I op (fun _ _ => True) d)
    (hquery : ∀ d, I d → observes I A query Q [d]) {d : Directory β} (hd : I d)
    {s : System β α} (hr : System.Reachable ops query d s) : s.Safe I A Q := by
  induction hr with
  | init => exact ⟨⟨hd, trivial⟩, hquery d hd, by simpa using hd, fun _ _ _ => rfl⟩
  | next _ hs ih => exact ih.next hops hquery hs

theorem System.Safe.request {s : System β α} (hs : s.Safe I A Q) {op : Op β}
    {next : Reply β → Prog β α} (hq : s.query = .call op next) : A op := by
  have hobs := hs.query
  rw [hq] at hobs
  exact (hobs [] s.dir (by simpa using hs.history) (by simpa using hs.current op next hq)).1

theorem System.Safe.result {s : System β α} (hs : s.Safe I A Q) {a : α}
    (hq : s.query = .pure a) : Q a s.history := by
  have hobs := hs.query
  rw [hq] at hobs
  exact hobs hs.history

end Rules

end FileSystem
