import Mathlib.Data.List.AList
import Mathlib.Tactic

/-!
# Finite maps with iteration

The maps of a Go program are keyed tables that are read, written, deleted from
and ranged over. They are represented by association lists without duplicate
keys; the iteration order is the order of the list, and every lemma below is
about lookups, so that no later result depends on that order.
-/

/-- A table from keys to values, iterable in an unspecified order. -/
abbrev FiniteMap (κ α : Type) := AList (fun _ : κ => α)

namespace FiniteMap

variable {κ α β : Type} [DecidableEq κ]

instance [DecidableEq α] : DecidableEq (FiniteMap κ α) := fun m m' =>
  decidable_of_iff (m.entries = m'.entries) AList.ext_iff.symm

/-- The key-value pairs visited by a range loop. -/
def pairs (m : FiniteMap κ α) : List (κ × α) := m.entries.map fun e => (e.1, e.2)

/-- Deletion of every entry that fails the test, in one range loop. -/
def filter (p : κ → α → Bool) (m : FiniteMap κ α) : FiniteMap κ α :=
  ⟨m.entries.filter fun e => p e.1 e.2,
    List.NodupKeys.sublist List.filter_sublist m.nodupKeys⟩

/-- A loop of assignments `m[key x] = val x`. -/
def insertAll (key : β → κ) (val : β → α) (xs : List β) (m : FiniteMap κ α) : FiniteMap κ α :=
  xs.foldl (fun m x => m.insert (key x) (val x)) m

/-- A range loop over `new` that assigns each of its entries. -/
def assignAll (new m : FiniteMap κ α) : FiniteMap κ α := insertAll Prod.fst Prod.snd new.pairs m

/-- A loop of deletions `delete(m, key x)`. -/
def eraseAll (ks : List κ) (m : FiniteMap κ α) : FiniteMap κ α :=
  ks.foldl (fun m k => m.erase k) m

theorem mem_pairs {m : FiniteMap κ α} {k : κ} {a : α} :
    (k, a) ∈ m.pairs ↔ m.lookup k = some a := by
  have h := AList.mem_lookup_iff (a := k) (b := a) (s := m)
  rw [← Option.mem_def, h]
  simp only [pairs, List.mem_map, Prod.mk.injEq]
  constructor
  · rintro ⟨⟨k', a'⟩, he, rfl, rfl⟩
    exact he
  · intro he
    exact ⟨⟨k, a⟩, he, rfl, rfl⟩

omit [DecidableEq κ] in
theorem map_fst_pairs (m : FiniteMap κ α) : m.pairs.map Prod.fst = m.keys := by
  simp [pairs, AList.keys, List.keys, Function.comp_def]

omit [DecidableEq κ] in
theorem nodup_map_fst_pairs (m : FiniteMap κ α) : (m.pairs.map Prod.fst).Nodup := by
  rw [map_fst_pairs]
  exact m.keys_nodup

theorem lookup_insert (m : FiniteMap κ α) (k k' : κ) (a : α) :
    (m.insert k a).lookup k' = if k' = k then some a else m.lookup k' := by
  split_ifs with h
  · subst h
    exact AList.lookup_insert m
  · exact AList.lookup_insert_ne h

theorem lookup_erase (m : FiniteMap κ α) (k k' : κ) :
    (m.erase k).lookup k' = if k' = k then none else m.lookup k' := by
  split_ifs with h
  · subst h
    exact AList.lookup_erase _ m
  · exact AList.lookup_erase_ne h

theorem erase_eq_self {m : FiniteMap κ α} {k : κ} (h : m.lookup k = none) : m.erase k = m := by
  rw [AList.lookup_eq_none] at h
  exact AList.ext (List.kerase_of_notMem_keys h)

theorem erase_insert {m : FiniteMap κ α} {k : κ} (h : m.lookup k = none) (a : α) :
    (m.insert k a).erase k = m := by
  rw [AList.insert_of_notMem (AList.lookup_eq_none.mp h)]
  exact AList.ext (List.kerase_cons_eq rfl)

theorem lookup_filter (p : κ → α → Bool) (m : FiniteMap κ α) (k : κ) :
    (m.filter p).lookup k = (m.lookup k).filter (p k) := by
  ext a
  rw [Option.filter_eq_some_iff, ← mem_pairs, ← mem_pairs]
  simp only [pairs, filter, List.mem_map, List.mem_filter, Prod.mk.injEq]
  constructor
  · rintro ⟨⟨k', a'⟩, ⟨he, hp⟩, rfl, rfl⟩
    exact ⟨⟨⟨k', a'⟩, he, rfl, rfl⟩, hp⟩
  · rintro ⟨⟨⟨k', a'⟩, he, rfl, rfl⟩, hp⟩
    exact ⟨⟨k', a'⟩, ⟨he, hp⟩, rfl, rfl⟩

theorem lookup_insertAll (key : β → κ) (val : β → α) (xs : List β) (m : FiniteMap κ α) (k : κ) :
    (insertAll key val xs m).lookup k =
      ((xs.reverse.find? fun x => key x = k).map val).or (m.lookup k) := by
  induction xs generalizing m with
  | nil => simp [insertAll]
  | cons x xs ih =>
    have h := ih (m.insert (key x) (val x))
    simp only [insertAll, List.foldl_cons] at h ⊢
    rw [h, List.reverse_cons, List.find?_append, lookup_insert]
    cases hf : xs.reverse.find? fun x => key x = k with
    | some y => simp
    | none =>
      by_cases hk : key x = k
      · simp [hk]
      · have hk' : ¬ k = key x := fun e => hk e.symm
        simp [hk, hk']

theorem lookup_assignAll (new m : FiniteMap κ α) (k : κ) :
    (assignAll new m).lookup k = (new.lookup k).or (m.lookup k) := by
  rw [assignAll, lookup_insertAll]
  congr 1
  cases hf : new.pairs.reverse.find? fun x => x.1 = k with
  | some x =>
    have hkey : x.1 = k := by simpa using List.find?_some hf
    have hmem := List.mem_reverse.mp (List.mem_of_find?_eq_some hf)
    rw [← hkey, mem_pairs.mp hmem]
    rfl
  | none =>
    cases hl : new.lookup k with
    | none => rfl
    | some a =>
      have hmem := List.mem_reverse.mpr (mem_pairs.mpr hl)
      simpa using List.find?_eq_none.mp hf (k, a) hmem

theorem lookup_eraseAll (ks : List κ) (m : FiniteMap κ α) (k : κ) :
    (eraseAll ks m).lookup k = if k ∈ ks then none else m.lookup k := by
  induction ks generalizing m with
  | nil => simp [eraseAll]
  | cons k' ks ih =>
    have h := ih (m.erase k')
    simp only [eraseAll, List.foldl_cons] at h ⊢
    rw [h, lookup_erase]
    by_cases hk : k ∈ ks <;> by_cases he : k = k' <;> simp [hk, he]

end FiniteMap
