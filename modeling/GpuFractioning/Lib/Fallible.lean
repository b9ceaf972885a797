import Mathlib.Tactic

/-!
# Loops that stop at the first error

Sequences of checks and loops whose steps may fail, as functions into `Except`.
Each lemma says when such a computation succeeds, and with what.
-/

namespace Fallible

variable {ε α β κ σ : Type}

/-- A check, with the error of one that fails. -/
def require (holds : Bool) (err : ε) : Except ε Unit := if holds then .ok () else .error err

@[simp] theorem require_eq_ok_iff {holds : Bool} {err : ε} {u : Unit} :
    require holds err = .ok u ↔ holds = true := by
  cases holds <;> simp [require]

@[simp] theorem bind_eq_ok_iff {x : Except ε α} {f : α → Except ε β} {b : β} :
    x >>= f = .ok b ↔ ∃ a, x = .ok a ∧ f a = .ok b := by
  cases x with
  | error err =>
    constructor
    · intro h
      cases h
    · rintro ⟨a, h, -⟩
      cases h
  | ok a =>
    constructor
    · intro h
      exact ⟨a, rfl, h⟩
    · rintro ⟨a', h, hf⟩
      cases h
      exact hf

theorem bind_eq_error_iff {x : Except ε α} {f : α → Except ε β} {err : ε} :
    x >>= f = .error err ↔ x = .error err ∨ ∃ a, x = .ok a ∧ f a = .error err := by
  cases x with
  | error err' =>
    constructor
    · intro h
      cases h
      exact .inl rfl
    · rintro (h | ⟨a, h, -⟩)
      · cases h
        rfl
      · cases h
  | ok a =>
    constructor
    · intro h
      exact .inr ⟨a, rfl, h⟩
    · rintro (h | ⟨a', h, hf⟩)
      · cases h
      · cases h
        exact hf

@[simp] theorem pure_eq_ok_iff {a b : α} : (pure a : Except ε α) = .ok b ↔ a = b :=
  ⟨Except.ok.inj, congrArg Except.ok⟩

theorem mapError_eq_ok_iff {ε' : Type} {f : ε → ε'} {x : Except ε α} {a : α} :
    x.mapError f = .ok a ↔ x = .ok a := by
  cases x <;> simp [Except.mapError]

theorem forM_eq_ok_iff {check : α → Except ε Unit} {xs : List α} {u : Unit} :
    xs.forM check = .ok u ↔ ∀ x ∈ xs, check x = .ok () := by
  induction xs with
  | nil => exact iff_of_true rfl (by simp)
  | cons x xs ih =>
    rw [show (x :: xs).forM check = check x >>= fun _ => xs.forM check from rfl, bind_eq_ok_iff,
      List.forall_mem_cons, ← ih]
    constructor
    · rintro ⟨u, hx, hxs⟩
      exact ⟨hx, hxs⟩
    · rintro ⟨hx, hxs⟩
      exact ⟨(), hx, hxs⟩

theorem foldlM_eq_ok_iff {step : σ → α → Except ε σ} (holds : α → Prop) (next : σ → α → σ)
    (hstep : ∀ s x s', step s x = .ok s' ↔ holds x ∧ s' = next s x) (xs : List α) :
    ∀ s s', xs.foldlM step s = .ok s' ↔ (∀ x ∈ xs, holds x) ∧ s' = xs.foldl next s := by
  induction xs with
  | nil =>
    intro s s'
    rw [List.foldlM_nil, pure_eq_ok_iff, List.foldl_nil, eq_comm]
    simp
  | cons x xs ih =>
    intro s s'
    rw [List.foldlM_cons, bind_eq_ok_iff, List.forall_mem_cons, List.foldl_cons]
    constructor
    · rintro ⟨t, ht, hs'⟩
      obtain ⟨hx, rfl⟩ := (hstep s x t).mp ht
      obtain ⟨hxs, heq⟩ := (ih _ s').mp hs'
      exact ⟨⟨hx, hxs⟩, heq⟩
    · rintro ⟨⟨hx, hxs⟩, heq⟩
      exact ⟨next s x, (hstep s x _).mpr ⟨hx, rfl⟩, (ih _ s').mpr ⟨hxs, heq⟩⟩

theorem mapM_eq_ok_iff {f : α → Except ε β} {xs : List α} {ys : List β} :
    xs.mapM f = .ok ys ↔ List.Forall₂ (fun x y => f x = .ok y) xs ys := by
  induction xs generalizing ys with
  | nil =>
    rw [List.mapM_nil, pure_eq_ok_iff, List.forall₂_nil_left_iff, eq_comm]
  | cons x xs ih =>
    rw [List.mapM_cons, bind_eq_ok_iff, List.forall₂_cons_left_iff]
    constructor
    · rintro ⟨y, hy, h⟩
      obtain ⟨ys', hys, h⟩ := bind_eq_ok_iff.mp h
      exact ⟨y, ys', hy, ih.mp hys, (pure_eq_ok_iff.mp h).symm⟩
    · rintro ⟨y, ys', hy, hys, rfl⟩
      exact ⟨y, hy, bind_eq_ok_iff.mpr ⟨ys', ih.mpr hys, rfl⟩⟩

theorem exists_mapM {f : α → Except ε β} {R : α → β → Prop} {xs : List α}
    (h : ∀ x ∈ xs, ∃ y, f x = .ok y ∧ R x y) :
    ∃ ys, xs.mapM f = .ok ys ∧ List.Forall₂ R xs ys := by
  simp only [mapM_eq_ok_iff]
  induction xs with
  | nil => exact ⟨[], List.Forall₂.nil, List.Forall₂.nil⟩
  | cons x xs ih =>
    rw [List.forall_mem_cons] at h
    obtain ⟨y, hy, hR⟩ := h.1
    obtain ⟨ys, hys, hRs⟩ := ih h.2
    exact ⟨y :: ys, List.Forall₂.cons hy hys, List.Forall₂.cons hR hRs⟩

theorem exists_of_mem_right {R : α → β → Prop} {xs : List α} {ys : List β}
    (h : List.Forall₂ R xs ys) {y : β} (hy : y ∈ ys) : ∃ x ∈ xs, R x y := by
  induction h with
  | nil => cases hy
  | cons hxy _ ih =>
    rcases List.mem_cons.mp hy with rfl | hrest
    · exact ⟨_, List.mem_cons_self, hxy⟩
    · obtain ⟨x, hx, hR⟩ := ih hrest
      exact ⟨x, List.mem_cons_of_mem _ hx, hR⟩

section Distinct

variable [DecidableEq κ]

/-- A loop that checks each element and collects keys that must not repeat. -/
def collectDistinct (check : α → Except ε Unit) (key : α → κ) (duplicate : α → ε)
    (xs : List α) : Except ε (List κ) :=
  xs.foldlM (fun seen x => do
    check x
    require (key x ∉ seen) (duplicate x)
    pure (seen ++ [key x])) []

theorem collectDistinct_eq_ok_iff {check : α → Except ε Unit} {key : α → κ} {duplicate : α → ε}
    {xs : List α} {keys : List κ} :
    collectDistinct check key duplicate xs = .ok keys ↔
      (∀ x ∈ xs, check x = .ok ()) ∧ (xs.map key).Nodup ∧ keys = xs.map key := by
  have hloop : ∀ seen : List κ, seen.Nodup →
      (xs.foldlM (fun seen x => do
        check x
        require (key x ∉ seen) (duplicate x)
        pure (seen ++ [key x])) seen = .ok keys ↔
      (∀ x ∈ xs, check x = .ok ()) ∧ (seen ++ xs.map key).Nodup ∧ keys = seen ++ xs.map key) := by
    induction xs with
    | nil =>
      intro seen hseen
      rw [List.foldlM_nil, pure_eq_ok_iff, eq_comm]
      simp [hseen]
    | cons x xs ih =>
      intro seen hseen
      rw [List.foldlM_cons, bind_eq_ok_iff, List.forall_mem_cons, List.map_cons]
      constructor
      · rintro ⟨seen', hstep, hrest⟩
        simp only [bind_eq_ok_iff, require_eq_ok_iff, decide_eq_true_eq, pure_eq_ok_iff] at hstep
        obtain ⟨u, hcheck, v, hnew, rfl⟩ := hstep
        have hnodup : (seen ++ [key x]).Nodup := by
          rw [List.nodup_append]
          exact ⟨hseen, List.nodup_singleton _, fun a ha b hb hab =>
            hnew (List.mem_singleton.mp hb ▸ hab ▸ ha)⟩
        obtain ⟨hxs, hall, hkeys⟩ := (ih _ hnodup).mp hrest
        rw [List.append_assoc, List.singleton_append] at hall hkeys
        exact ⟨⟨hcheck, hxs⟩, hall, hkeys⟩
      · rintro ⟨⟨hcheck, hxs⟩, hall, hkeys⟩
        rw [← List.singleton_append, ← List.append_assoc] at hall hkeys
        have hnodup := hall.of_append_left
        have hnew : key x ∉ seen := fun hmem =>
          (List.nodup_append.mp hnodup).2.2 _ hmem _ (List.mem_singleton_self _) rfl
        refine ⟨seen ++ [key x], ?_, (ih _ hnodup).mpr ⟨hxs, hall, hkeys⟩⟩
        rw [hcheck, require, if_pos (by simpa using hnew)]
        rfl
  simpa [collectDistinct] using hloop [] List.nodup_nil

end Distinct

end Fallible
