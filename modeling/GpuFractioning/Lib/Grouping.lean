import GpuFractioning.Lib.FiniteMap

/-!
# Loops that group

A loop over items that updates the table entry of each item's key, and what
the table then holds: for every key the fold over the items of that key. Sums
over a table whose entries are assigned repeatedly are sums without repetition.
-/

namespace FiniteMap

variable {κ α β : Type} [DecidableEq κ]

/-- A loop of updates `m[key x] = f(m[key x], x)`, where a missing entry starts at `init`. -/
def accumulate (key : β → κ) (init : κ → α) (f : α → β → α) (xs : List β) (m : FiniteMap κ α) :
    FiniteMap κ α :=
  xs.foldl (fun m x => m.insert (key x) (f ((m.lookup (key x)).getD (init (key x))) x)) m

/-- The same loop where a missing entry starts at a value that depends on the item. -/
def gather (key : β → κ) (init : β → α) (f : α → β → α) (xs : List β) (m : FiniteMap κ α) :
    FiniteMap κ α :=
  xs.foldl (fun m x => m.insert (key x) (f ((m.lookup (key x)).getD (init x)) x)) m

/-- An entry is the fold over the items of its key, from where the first of them starts. -/
theorem lookup_gather (key : β → κ) (init : β → α) (f : α → β → α) (xs : List β)
    (m : FiniteMap κ α) (k : κ) :
    (gather key init f xs m).lookup k =
      (xs.filter (key · = k)).head?.elim (m.lookup k) fun first =>
        some ((xs.filter (key · = k)).foldl f ((m.lookup k).getD (init first))) := by
  induction xs generalizing m with
  | nil => rfl
  | cons x xs ih =>
    have hstep := ih (m.insert (key x) (f ((m.lookup (key x)).getD (init x)) x))
    rw [gather, List.foldl_cons]
    rw [gather] at hstep
    rw [hstep, lookup_insert]
    by_cases hk : key x = k
    · subst hk
      cases hrest : xs.filter (key · = key x) <;> simp [hrest]
    · have hk' : k ≠ key x := fun h => hk h.symm
      simp [hk, hk']

theorem lookup_accumulate (key : β → κ) (init : κ → α) (f : α → β → α) (xs : List β)
    (m : FiniteMap κ α) (k : κ) :
    (accumulate key init f xs m).lookup k =
      if xs.filter (key · = k) = [] then m.lookup k
      else some ((xs.filter (key · = k)).foldl f ((m.lookup k).getD (init k))) := by
  rw [show accumulate key init f xs m = gather key (init ∘ key) f xs m from rfl, lookup_gather]
  cases hfilter : xs.filter (key · = k) with
  | nil => rfl
  | cons x rest =>
    have hkey : key x = k := by
      have hmem : x ∈ xs.filter (key · = k) := hfilter ▸ List.mem_cons_self
      simpa using (List.mem_filter.mp hmem).2
    simp [hkey]

theorem getD_lookup_count (key : β → κ) (xs : List β) (k : κ) :
    ((accumulate key (fun _ => 0) (fun n _ => n + 1) xs ∅).lookup k).getD 0 =
      (xs.filter (key · = k)).length := by
  have hcount : ∀ (ys : List β) (n : ℕ), ys.foldl (fun n _ => n + 1) n = n + ys.length := by
    intro ys
    induction ys with
    | nil => simp
    | cons y ys ih =>
      intro n
      rw [List.foldl_cons, ih, List.length_cons]
      omega
  rw [lookup_accumulate]
  split_ifs with hnone
  · simp [hnone]
  · simp [hcount]

theorem lookup_foldl_addMissing (add : FiniteMap κ α → κ → FiniteMap κ α) (skip : κ → Prop)
    [DecidablePred skip] (init : κ → α)
    (hadd : ∀ m k, add m k =
      if (m.lookup k).isSome ∨ skip k then m else m.insert k (init k))
    (ks : List κ) (m : FiniteMap κ α) (k : κ) :
    (ks.foldl add m).lookup k =
      (m.lookup k).or (if k ∈ ks ∧ ¬skip k then some (init k) else none) := by
  induction ks generalizing m with
  | nil => simp
  | cons k' ks ih =>
    rw [List.foldl_cons, ih, hadd]
    by_cases hkept : (m.lookup k').isSome ∨ skip k'
    · rw [if_pos hkept]
      by_cases hk : k = k'
      · subst hk
        rcases hkept with hsome | hskip
        · obtain ⟨a, ha⟩ := Option.isSome_iff_exists.mp hsome
          simp [ha]
        · simp [hskip]
      · simp [hk]
    · rw [if_neg hkept, lookup_insert]
      by_cases hk : k = k'
      · subst hk
        simp only [not_or, Option.not_isSome_iff_eq_none] at hkept
        simp [hkept.1, hkept.2]
      · simp [hk]

/-- Assignments that agree on every key leave exactly what was assigned. -/
theorem lookup_insertAll_eq_some {key : β → κ} {val : β → α} {xs : List β}
    (hagree : ∀ x ∈ xs, ∀ y ∈ xs, key x = key y → val x = val y) {k : κ} {a : α} :
    (insertAll key val xs ∅).lookup k = some a ↔ ∃ x ∈ xs, key x = k ∧ val x = a := by
  rw [lookup_insertAll, AList.lookup_empty, Option.or_none]
  constructor
  · intro h
    obtain ⟨x, hx, rfl⟩ := Option.map_eq_some_iff.mp h
    exact ⟨x, List.mem_reverse.mp (List.mem_of_find?_eq_some hx),
      by simpa using List.find?_some hx, rfl⟩
  · rintro ⟨x, hx, rfl, rfl⟩
    cases hfind : xs.reverse.find? fun y => key y = key x with
    | none => exact absurd (List.find?_eq_none.mp hfind x (List.mem_reverse.mpr hx)) (by simp)
    | some y =>
      have hkey : key y = key x := by simpa using List.find?_some hfind
      have hy := List.mem_reverse.mp (List.mem_of_find?_eq_some hfind)
      rw [Option.map_some, hagree y hy x hx hkey]

/-- The entries of a table are those of any list of entries without repetition that has
the same members. -/
theorem pairs_perm {m : FiniteMap κ α} {entries : List (κ × α)} (hnodup : entries.Nodup)
    (hmem : ∀ k a, m.lookup k = some a ↔ (k, a) ∈ entries) : m.pairs.Perm entries := by
  refine (List.perm_ext_iff_of_nodup (List.Nodup.of_map _ (nodup_map_fst_pairs m)) hnodup).mpr ?_
  rintro ⟨k, a⟩
  rw [mem_pairs, hmem]

theorem filter_pairs_key (m : FiniteMap κ α) (k : κ) :
    m.pairs.filter (·.1 = k) = ((m.lookup k).map fun a => (k, a)).toList := by
  cases hlookup : m.lookup k with
  | none =>
    rw [Option.map_none, Option.toList_none, List.filter_eq_nil_iff]
    rintro ⟨k', a⟩ hmem hkey
    have heq : k' = k := of_decide_eq_true hkey
    have hsome := mem_pairs.mp hmem
    rw [heq, hlookup] at hsome
    cases hsome
  | some a =>
    rw [Option.map_some, Option.toList_some]
    have hmem : (k, a) ∈ m.pairs := mem_pairs.mpr hlookup
    have hnodup := nodup_map_fst_pairs m
    generalize m.pairs = entries at hmem hnodup
    induction entries with
    | nil => simp at hmem
    | cons entry entries ih =>
      rw [List.map_cons, List.nodup_cons] at hnodup
      rcases List.mem_cons.mp hmem with rfl | hrest
      · have hnone : entries.filter (·.1 = k) = [] := by
          rw [List.filter_eq_nil_iff]
          intro other hother hkey
          exact hnodup.1 (List.mem_map.mpr ⟨other, hother, of_decide_eq_true hkey⟩)
        simp [hnone]
      · have hne : entry.1 ≠ k := by
          intro heq
          exact hnodup.1 (heq ▸ List.mem_map_of_mem (f := Prod.fst) hrest)
        simp [hne, ih hrest hnodup.2]

end FiniteMap

theorem List.flatMap_eq_of_unique {α β : Type} {l : List α} (hnodup : l.Nodup) {x : α} (hx : x ∈ l)
    {f : α → List β} (hother : ∀ y ∈ l, y ≠ x → f y = []) : l.flatMap f = f x := by
  induction l with
  | nil => cases hx
  | cons y l ih =>
    rw [List.nodup_cons] at hnodup
    rw [List.forall_mem_cons] at hother
    rw [List.flatMap_cons]
    by_cases hy : y = x
    · subst hy
      have hrest : l.flatMap f = [] := by
        rw [List.flatMap_eq_nil_iff]
        exact fun z hz => hother.2 z hz fun heq => hnodup.1 (heq ▸ hz)
      rw [hrest, List.append_nil]
    · have hmem := (List.mem_cons.mp hx).resolve_left fun heq => hy heq.symm
      rw [hother.1 hy, List.nil_append, ih hnodup.2 hmem hother.2]

theorem List.length_filter_eq_sum {β : Type} (p : β → Bool) (l : List β) :
    (l.filter p).length = (l.map fun b => if p b = true then 1 else 0).sum := by
  induction l with
  | nil => rfl
  | cons b l ih =>
    by_cases h : p b = true
    · simp [h, ih, Nat.add_comm]
    · simp [h, ih]

theorem List.sum_length_filter_comm {α β : Type} (r : α → β → Bool) (as : List α) (bs : List β) :
    (as.map fun a => (bs.filter (r a)).length).sum =
      (bs.map fun b => (as.filter (r · b)).length).sum := by
  induction as with
  | nil => simp
  | cons a as ih =>
    have hcons : ∀ b, ((a :: as).filter (r · b)).length =
        (if r a b = true then 1 else 0) + (as.filter (r · b)).length := by
      intro b
      by_cases h : r a b = true
      · simp [h, Nat.add_comm]
      · simp [h]
    simp only [hcons, List.map_cons, List.sum_cons, ih, List.sum_map_add,
      List.length_filter_eq_sum (r a)]

/-- A sum that wraps around at every step wraps around once. -/
theorem Int.foldl_bmod_add {β : Type} (f : β → ℤ) (n : ℕ) (xs : List β) (s : ℤ) :
    xs.foldl (fun sum x => (sum + f x).bmod n) (s.bmod n) = (s + (xs.map f).sum).bmod n := by
  induction xs generalizing s with
  | nil => simp
  | cons x xs ih =>
    rw [List.foldl_cons, Int.bmod_add_bmod, ih, List.map_cons, List.sum_cons, add_assoc]
