import Mathlib.Data.List.DropRight
import Mathlib.Tactic

/-!
# Lists as sequences of components

The pieces of a list between separators, with the empty ones dropped. Runs of
separators and separators at the ends leave no trace in them, so a list of
components has one canonical form: a separator before each component.
-/

namespace Components

variable {α : Type} [DecidableEq α] (sep : α)

/-- The pieces between separators that are not empty. -/
def components (l : List α) : List (List α) := (l.splitOn sep).filter (· ≠ [])

/-- A separator before each component. -/
def render (parts : List (List α)) : List α := parts.flatMap (sep :: ·)

/-- What a component is made of. -/
def IsComponent (part : List α) : Prop := part ≠ [] ∧ sep ∉ part

/-- A piece that has come to its end. -/
def flush (piece : List α) : List (List α) := if piece = [] then [] else [piece]

/-- The components of what is left to read, `piece` having been read since the last separator. -/
def scan (piece : List α) : List α → List (List α)
  | [] => flush piece
  | c :: l => if c = sep then flush piece ++ scan [] l else scan (piece ++ [c]) l

variable {sep}

section Scan

theorem scan_cons_sep (piece l : List α) :
    scan sep piece (sep :: l) = flush piece ++ scan sep [] l := if_pos rfl

theorem scan_cons_of_ne {c : α} (hc : c ≠ sep) (piece l : List α) :
    scan sep piece (c :: l) = scan sep (piece ++ [c]) l := if_neg hc

theorem scan_eq (piece l : List α) :
    scan sep piece l = ((l.splitOn sep).modifyHead (piece ++ ·)).filter (· ≠ []) := by
  induction l generalizing piece with
  | nil => by_cases h : piece = [] <;> simp [scan, flush, h]
  | cons c l ih =>
    rw [List.splitOn, List.splitOnP_cons_eq_if_modifyHead, ← List.splitOn]
    by_cases hc : c = sep
    · subst hc
      have hid : (l.splitOn c).modifyHead ([] ++ ·) = l.splitOn c :=
        congrFun List.modifyHead_id (l.splitOn c)
      rw [scan_cons_sep, ih, hid]
      by_cases h : piece = [] <;> simp [flush, h]
    · rw [scan_cons_of_ne hc, ih, if_neg (by simpa using hc), List.modifyHead_modifyHead]
      congr 2
      funext rest
      simp

theorem components_eq_scan (l : List α) : components sep l = scan sep [] l := by
  have hid : (l.splitOn sep).modifyHead ([] ++ ·) = l.splitOn sep :=
    congrFun List.modifyHead_id (l.splitOn sep)
  rw [scan_eq, hid, components]

theorem scan_append {word : List α} (hword : sep ∉ word) (piece l : List α) :
    scan sep piece (word ++ l) = scan sep (piece ++ word) l := by
  induction word generalizing piece with
  | nil => simp
  | cons c word ih =>
    rw [List.mem_cons, not_or] at hword
    rw [List.cons_append, scan_cons_of_ne (Ne.symm hword.1), ih hword.2, List.append_assoc,
      List.singleton_append]

theorem scan_append_sep (piece l rest : List α) :
    scan sep piece (l ++ sep :: rest) = scan sep piece l ++ scan sep [] rest := by
  induction l generalizing piece with
  | nil => exact scan_cons_sep piece rest
  | cons c l ih =>
    rw [List.cons_append]
    by_cases hc : c = sep
    · subst hc
      rw [scan_cons_sep, scan_cons_sep, ih, List.append_assoc]
    · rw [scan_cons_of_ne hc, scan_cons_of_ne hc, ih]

omit [DecidableEq α] in
theorem isComponent_of_mem_flush {piece part : List α} (hpiece : sep ∉ piece)
    (hpart : part ∈ flush piece) : IsComponent sep part := by
  unfold flush at hpart
  split at hpart
  · cases hpart
  · next hne =>
    rw [List.mem_singleton] at hpart
    subst hpart
    exact ⟨hne, hpiece⟩

theorem isComponent_of_mem_scan {piece l part : List α} (hpiece : sep ∉ piece)
    (hpart : part ∈ scan sep piece l) : IsComponent sep part := by
  induction l generalizing piece with
  | nil => exact isComponent_of_mem_flush hpiece hpart
  | cons c l ih =>
    by_cases hc : c = sep
    · subst hc
      rw [scan_cons_sep, List.mem_append] at hpart
      rcases hpart with hpart | hpart
      · exact isComponent_of_mem_flush hpiece hpart
      · exact ih List.not_mem_nil hpart
    · rw [scan_cons_of_ne hc] at hpart
      apply ih _ hpart
      simp [hpiece, Ne.symm hc]

end Scan

section Components

@[simp] theorem components_nil : components sep ([] : List α) = [] := by
  simp [components]

@[simp] theorem components_cons_sep (l : List α) :
    components sep (sep :: l) = components sep l := by
  rw [components_eq_scan, components_eq_scan, scan_cons_sep]
  rfl

theorem components_append_sep (l rest : List α) :
    components sep (l ++ sep :: rest) = components sep l ++ components sep rest := by
  simp only [components_eq_scan, scan_append_sep]

theorem components_rdropWhile (l : List α) :
    components sep (l.rdropWhile (· = sep)) = components sep l := by
  induction l using List.reverseRecOn with
  | nil => simp
  | append_singleton l c ih =>
    by_cases hc : c = sep
    · subst hc
      rw [List.rdropWhile_concat_pos _ _ _ (by simp), ih, components_append_sep, components_nil,
        List.append_nil]
    · rw [List.rdropWhile_concat_neg _ _ _ (by simpa using hc)]

theorem components_of_isComponent {part : List α} (hpart : IsComponent sep part) :
    components sep part = [part] := by
  have hscan := scan_append hpart.2 [] []
  rw [List.append_nil, List.nil_append, scan, flush, if_neg hpart.1] at hscan
  rw [components_eq_scan, hscan]

theorem isComponent_of_mem_components {l part : List α} (hpart : part ∈ components sep l) :
    IsComponent sep part := by
  rw [components_eq_scan] at hpart
  exact isComponent_of_mem_scan List.not_mem_nil hpart

omit [DecidableEq α] in
theorem render_cons (part : List α) (parts : List (List α)) :
    render sep (part :: parts) = sep :: (part ++ render sep parts) := rfl

theorem components_render {parts : List (List α)}
    (hparts : ∀ part ∈ parts, IsComponent sep part) :
    components sep (render sep parts) = parts := by
  induction parts with
  | nil => exact components_nil
  | cons part parts ih =>
    rw [List.forall_mem_cons] at hparts
    have hpart := components_of_isComponent hparts.1
    have hrest := ih hparts.2
    cases parts with
    | nil => simpa [render] using hpart
    | cons next parts =>
      rw [render_cons, components_cons_sep] at hrest
      rw [render_cons, render_cons, components_cons_sep, components_append_sep, hpart, hrest,
        List.singleton_append]

/-- One list of components starts another exactly if the rendered text of the one, closed by
a separator, starts that of the other. -/
theorem prefix_iff_render {parts others : List (List α)}
    (hparts : ∀ part ∈ parts, IsComponent sep part)
    (hothers : ∀ part ∈ others, IsComponent sep part) :
    parts <+: others ↔
      render sep others = render sep parts ∨ render sep parts ++ [sep] <+: render sep others := by
  constructor
  · rintro ⟨rest, rfl⟩
    have happ : render sep (parts ++ rest) = render sep parts ++ render sep rest := by
      simp [render]
    rw [happ]
    cases rest with
    | nil =>
      left
      simp [render]
    | cons part rest =>
      right
      refine ⟨part ++ render sep rest, ?_⟩
      rw [render_cons, List.append_assoc, List.singleton_append]
  · rintro (heq | ⟨rest, hrest⟩)
    · rw [← components_render hothers, heq, components_render hparts]
    · rw [List.append_assoc, List.singleton_append] at hrest
      rw [← components_render hothers, ← hrest, components_append_sep, components_render hparts]
      exact List.prefix_append _ _

theorem render_scan {l : List α} (hdouble : ¬ [sep, sep] <:+: l)
    (hlast : l.getLast? ≠ some sep) :
    ∀ piece, piece ++ l ≠ [] → (piece = [] → l.head? ≠ some sep) →
      render sep (scan sep piece l) = sep :: (piece ++ l) := by
  induction l with
  | nil =>
    intro piece hne _
    rw [List.append_nil] at hne
    simp [scan, flush, hne, render]
  | cons c l ih =>
    intro piece hne hhead
    have htail : ¬ [sep, sep] <:+: l := fun h => hdouble (h.trans (List.suffix_cons c l).isInfix)
    have hend : l.getLast? ≠ some sep := by
      cases l with
      | nil => simp
      | cons d l => simpa using hlast
    by_cases hc : c = sep
    · subst hc
      have hpiece : piece ≠ [] := fun h => hhead h rfl
      have hrest : l ≠ [] := by
        rintro rfl
        exact hlast rfl
      have hstart : l.head? ≠ some c := by
        intro h
        obtain ⟨rest, rfl⟩ := List.head?_eq_some_iff.mp h
        exact hdouble ⟨[], rest, rfl⟩
      have hih := ih htail hend [] hrest fun _ => hstart
      rw [scan_cons_sep, flush, if_neg hpiece, List.singleton_append, render_cons, hih]
      simp
    · rw [scan_cons_of_ne hc, ih htail hend _ (by simp) (by simp)]
      simp

/-- A text without separators at its ends or next to each other, after one separator, is
rendered from its components. -/
theorem render_components {l : List α} (hne : l ≠ []) (hhead : l.head? ≠ some sep)
    (hdouble : ¬ [sep, sep] <:+: l) (hlast : l.getLast? ≠ some sep) :
    render sep (components sep l) = sep :: l := by
  rw [components_eq_scan]
  exact render_scan hdouble hlast [] hne fun _ => hhead

end Components

section Infix

omit [DecidableEq α] in
theorem infix_append_sep_iff {word : List α} (hword : IsComponent sep word) (l rest : List α) :
    word <:+: l ++ sep :: rest ↔ word <:+: l ∨ word <:+: rest := by
  constructor
  · intro h
    induction l with
    | nil =>
      right
      rcases List.infix_cons_iff.mp h with hpre | hin
      · obtain ⟨c, word, rfl⟩ := List.exists_cons_of_ne_nil hword.1
        obtain ⟨rfl, -⟩ := List.cons_prefix_cons.mp hpre
        exact absurd List.mem_cons_self hword.2
      · exact hin
    | cons c l ih =>
      rcases List.infix_cons_iff.mp h with hpre | hin
      · left
        have hshort : word <+: c :: l := by
          rcases List.prefix_or_prefix_of_prefix hpre (List.prefix_append (c :: l) (sep :: rest))
            with hshort | hlong
          · exact hshort
          · obtain ⟨more, rfl⟩ := hlong
            cases more with
            | nil => simp
            | cons d more =>
              have hsame := (List.prefix_append_right_inj (c :: l)).mp hpre
              obtain ⟨rfl, -⟩ := List.cons_prefix_cons.mp hsame
              exact absurd (by simp) hword.2
        exact hshort.isInfix
      · rcases ih hin with hl | hrest
        · exact Or.inl (hl.trans (List.suffix_cons c l).isInfix)
        · exact Or.inr hrest
  · rintro (h | h)
    · exact h.trans (List.prefix_append l _).isInfix
    · exact h.trans ((List.suffix_cons sep rest).trans (List.suffix_append l _)).isInfix

omit [DecidableEq α] in
theorem exists_infix_flush_iff {word : List α} (hword : word ≠ []) (piece : List α) :
    (∃ part ∈ flush piece, word <:+: part) ↔ word <:+: piece := by
  by_cases h : piece = []
  · simp [flush, h, hword]
  · simp [flush, h]

theorem exists_infix_scan_iff {word : List α} (hword : IsComponent sep word) (l : List α) :
    ∀ piece, (∃ part ∈ scan sep piece l, word <:+: part) ↔ word <:+: piece ++ l := by
  induction l with
  | nil =>
    intro piece
    rw [List.append_nil]
    exact exists_infix_flush_iff hword.1 piece
  | cons c l ih =>
    intro piece
    by_cases hc : c = sep
    · subst hc
      rw [scan_cons_sep, infix_append_sep_iff hword]
      simp only [List.mem_append, or_and_right, exists_or]
      exact or_congr (exists_infix_flush_iff hword.1 piece) (ih [])
    · rw [scan_cons_of_ne hc]
      simpa using ih (piece ++ [c])

theorem infix_iff_exists_component {word : List α} (hword : IsComponent sep word) (l : List α) :
    word <:+: l ↔ ∃ part ∈ components sep l, word <:+: part := by
  rw [components_eq_scan]
  exact (exists_infix_scan_iff hword l []).symm

end Infix

end Components
