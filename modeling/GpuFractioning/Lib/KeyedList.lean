import Mathlib.Data.List.Sort
import Mathlib.Tactic

/-!
# Lists whose elements are found by a key

A list that is searched from the front for the first element with a key. An
element is put in place of the first with its key, or at the end. And lists that
are sorted by a key: `sort.Slice` of the Go standard library leaves open how elements
are ordered neither of which is less than the other; here they stay in their order.
-/

namespace KeyedList

variable {α κ β : Type} [DecidableEq κ]

/-- `replace` says what takes the place of an element with the key of `fresh`. -/
def upsert (key : α → κ) (replace : α → α) (fresh : α) : List α → List α
  | [] => [fresh]
  | x :: xs => if key x = key fresh then replace x :: xs else x :: upsert key replace fresh xs

variable (key : α → κ) {replace : α → α} (fresh : α)

theorem find?_eq_none_iff {l : List α} {k : κ} :
    (l.find? fun x => key x = k) = none ↔ k ∉ l.map key := by
  simp

theorem find?_eq_some_iff {l : List α} (hdistinct : (l.map key).Nodup) {k : κ} {x : α} :
    (l.find? fun x => key x = k) = some x ↔ x ∈ l ∧ key x = k := by
  constructor
  · intro hfind
    exact ⟨List.mem_of_find?_eq_some hfind, by simpa using List.find?_some hfind⟩
  · rintro ⟨hx, rfl⟩
    cases hfind : l.find? fun y => key y = key x with
    | none => exact absurd (List.mem_map_of_mem hx) ((find?_eq_none_iff key).mp hfind)
    | some y =>
      have hkey : key y = key x := by simpa using List.find?_some hfind
      rw [List.inj_on_of_nodup_map hdistinct (List.mem_of_find?_eq_some hfind) hx hkey]

theorem find?_upsert_eq (hkey : ∀ x, key (replace x) = key fresh) (l : List α) (k : κ) :
    ((upsert key replace fresh l).find? fun x => key x = k) =
      if key fresh = k then some ((l.find? fun x => key x = k).elim fresh replace)
      else l.find? fun x => key x = k := by
  induction l with
  | nil => by_cases h : key fresh = k <;> simp [upsert, h]
  | cons x xs ih =>
    unfold upsert
    by_cases hx : key x = key fresh
    · by_cases h : key fresh = k
      · simp [hx, hkey, h]
      · simp [hx, hkey, h]
    · rw [if_neg hx]
      by_cases h : key x = k
      · have hne : ¬ key fresh = k := fun e => hx (h.trans e.symm)
        simp [h, hne]
      · simp only [List.find?_cons, h, decide_false, ih]

theorem find?_upsert (f : α → β) (hkey : ∀ x, key (replace x) = key fresh)
    (hf : ∀ x, f (replace x) = f fresh) (l : List α) (k : κ) :
    ((upsert key replace fresh l).find? fun x => key x = k).map f =
      if key fresh = k then some (f fresh) else (l.find? fun x => key x = k).map f := by
  rw [find?_upsert_eq key fresh hkey]
  by_cases h : key fresh = k
  · cases hfind : l.find? fun x => key x = k <;> simp [h, hf]
  · simp [h]

theorem map_upsert (hkey : ∀ x, key (replace x) = key fresh) (l : List α) :
    (upsert key replace fresh l).map key =
      if key fresh ∈ l.map key then l.map key else l.map key ++ [key fresh] := by
  induction l with
  | nil => simp [upsert]
  | cons x xs ih =>
    unfold upsert
    by_cases hx : key x = key fresh
    · simp [hx, hkey]
    · have hne : ¬ key fresh = key x := fun e => hx e.symm
      rw [if_neg hx, List.map_cons, ih, List.map_cons]
      by_cases hmem : key fresh ∈ xs.map key
      · rw [if_pos hmem, if_pos (List.mem_cons_of_mem _ hmem)]
      · rw [if_neg hmem, if_neg (by simp only [List.mem_cons, hne, hmem, or_self,
          not_false_eq_true]), List.cons_append]

theorem filter_ne_upsert (hkey : ∀ x, key (replace x) = key fresh) (l : List α) :
    ((upsert key replace fresh l).filter fun x => key x ≠ key fresh) =
      l.filter fun x => key x ≠ key fresh := by
  induction l with
  | nil => simp [upsert]
  | cons x xs ih =>
    unfold upsert
    by_cases hx : key x = key fresh
    · simp [hx, hkey]
    · rw [if_neg hx, List.filter_cons, List.filter_cons, ih]

/-- What is listed under a key afterwards: the first element with the key is replaced. -/
theorem filter_upsert (f : α → β) (hkey : ∀ x, key (replace x) = key fresh)
    (hf : ∀ x, f (replace x) = f fresh) (l : List α) (k : κ) :
    ((upsert key replace fresh l).filter fun x => key x = k).map f =
      if key fresh = k then f fresh :: ((l.filter fun x => key x = k).map f).tail
      else (l.filter fun x => key x = k).map f := by
  induction l with
  | nil => by_cases h : key fresh = k <;> simp [upsert, h]
  | cons x xs ih =>
    unfold upsert
    by_cases hx : key x = key fresh
    · by_cases h : key fresh = k
      · simp [hx, hkey, hf, h]
      · simp [hx, hkey, h]
    · rw [if_neg hx]
      by_cases h : key x = k
      · have hne : ¬ key fresh = k := fun e => hx (h.trans e.symm)
        simp [h, hne, ih]
      · simp only [List.filter_cons, h, decide_false, Bool.false_eq_true, if_false, ih]

end KeyedList

namespace GoSort

variable {α β : Type}

/-- `sort.Slice`. -/
def slice (less : α → α → Bool) (l : List α) : List α :=
  l.insertionSort fun a b => less b a = false

theorem perm_slice (less : α → α → Bool) (l : List α) : (slice less l).Perm l :=
  List.perm_insertionSort _ l

theorem pairwise_slice_le [LinearOrder β] (key : α → β) (l : List α) :
    ((slice (fun a b => decide (key a < key b)) l).map key).Pairwise (· ≤ ·) := by
  have htotal : Std.Total fun a b : α => decide (key b < key a) = false :=
    ⟨fun a b => by simpa using le_total (key a) (key b)⟩
  have htrans : IsTrans α fun a b : α => decide (key b < key a) = false :=
    ⟨fun a b c hab hbc => by
      simp only [decide_eq_false_iff_not, not_lt] at *
      exact hab.trans hbc⟩
  rw [List.pairwise_map]
  exact (List.pairwise_insertionSort _ l).imp fun h => by simpa using h

theorem pairwise_slice_lt [LinearOrder β] (key : α → β) {l : List α} (hnodup : (l.map key).Nodup) :
    ((slice (fun a b => decide (key a < key b)) l).map key).Pairwise (· < ·) := by
  have hne : ((slice (fun a b => decide (key a < key b)) l).map key).Nodup :=
    ((perm_slice _ l).map key).nodup_iff.mpr hnodup
  exact ((pairwise_slice_le key l).and hne).imp fun h => lt_of_le_of_ne h.1 h.2

end GoSort
