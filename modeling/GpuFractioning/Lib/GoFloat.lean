import Mathlib.Data.Int.Log
import Mathlib.Data.Rat.Floor
import Mathlib.Tactic

/-!
# Rounding to `float64`

The result of an operation on `float64` is the exact one, rounded to 53 significant bits;
a tie goes to the even multiple of the last place. This is so for numbers in the range of
the normal ones, and for zero, which are the only ones that occur.
-/

namespace GoFloat

/-- The nearest integer, of two the even one. -/
def nearestInt (q : ℚ) : ℤ :=
  if 1 / 2 < Int.fract q ∨ (Int.fract q = 1 / 2 ∧ ⌊q⌋ % 2 = 1) then ⌊q⌋ + 1 else ⌊q⌋

/-- The value of the last place. -/
def ulp (q : ℚ) : ℚ := 2 ^ (Int.log 2 |q| - 52)

/-- The `float64` next to a number. -/
def round (q : ℚ) : ℚ := nearestInt (q / ulp q) * ulp q

/-- `float64(n)` for an unsigned 64-bit integer. -/
def ofNat (n : ℕ) : ℚ := round n

theorem abs_nearestInt_sub (q : ℚ) : |nearestInt q - q| ≤ 1 / 2 := by
  have hfract := Int.self_sub_floor q
  have hnonneg := Int.fract_nonneg q
  have hlt := Int.fract_lt_one q
  unfold nearestInt
  rw [abs_le]
  split_ifs with h
  · have hhalf : 1 / 2 ≤ Int.fract q := by
      rcases h with h | h
      · exact h.le
      · exact h.1.ge
    push_cast
    constructor <;> linarith
  · have hhalf : Int.fract q ≤ 1 / 2 := by
      by_contra hgt
      exact h (.inl (not_le.mp hgt))
    constructor <;> linarith

theorem le_nearestInt {k : ℤ} {q : ℚ} (h : k ≤ q) : k ≤ nearestInt q := by
  have hfloor : k ≤ ⌊q⌋ := Int.le_floor.mpr h
  unfold nearestInt
  split_ifs <;> omega

theorem nearestInt_le {k : ℤ} {q : ℚ} (h : q ≤ k) : nearestInt q ≤ k := by
  have habs := abs_le.mp (abs_nearestInt_sub q)
  have hlt : (nearestInt q : ℚ) < k + 1 := by linarith [habs.2]
  have hlt' : nearestInt q < k + 1 := by exact_mod_cast hlt
  omega

theorem ulp_pos (q : ℚ) : 0 < ulp q := by
  unfold ulp
  positivity

theorem ulp_le (q : ℚ) (hq : q ≠ 0) : ulp q ≤ |q| / 2 ^ 52 := by
  have hlog := Int.zpow_log_le_self (b := 2) (by norm_num) (abs_pos.mpr hq)
  unfold ulp
  rw [zpow_sub₀ (by norm_num), zpow_ofNat]
  exact div_le_div_of_nonneg_right (by exact_mod_cast hlog) (by positivity)

/-- The relative error of a rounding. -/
theorem abs_round_sub (q : ℚ) : |round q - q| ≤ |q| / 2 ^ 53 := by
  rcases eq_or_ne q 0 with rfl | hq
  · norm_num [round, nearestInt]
  · have hpos := ulp_pos q
    have herr : round q - q = (nearestInt (q / ulp q) - q / ulp q) * ulp q := by
      rw [round, sub_mul, div_mul_cancel₀ _ hpos.ne']
    calc |round q - q| = |nearestInt (q / ulp q) - q / ulp q| * ulp q := by
          rw [herr, abs_mul, abs_of_pos hpos]
      _ ≤ 1 / 2 * ulp q := mul_le_mul_of_nonneg_right (abs_nearestInt_sub _) hpos.le
      _ ≤ |q| / 2 ^ 53 := by linarith [ulp_le q hq]

theorem round_le_mul {q : ℚ} (hq : 0 ≤ q) : round q ≤ q * (1 + 1 / 2 ^ 53) := by
  have herr := (abs_le.mp (abs_round_sub q)).2
  rw [abs_of_nonneg hq] at herr
  linarith

theorem round_nonneg {q : ℚ} (hq : 0 ≤ q) : 0 ≤ round q := by
  have herr := (abs_le.mp (abs_round_sub q)).1
  rw [abs_of_nonneg hq] at herr
  linarith

/-- Below `2 ^ 53` the integers are multiples of the last place. -/
theorem exists_eq_mul_ulp {q : ℚ} (hq : |q| < 2 ^ 53) (n : ℤ) : ∃ k : ℤ, (n : ℚ) = k * ulp q := by
  have hlog : Int.log 2 |q| ≤ 52 := by
    rcases eq_or_ne q 0 with rfl | hne
    · norm_num
    · have hle := Int.zpow_log_le_self (b := 2) (by norm_num) (abs_pos.mpr hne)
      have hlt : ((2 : ℕ) : ℚ) ^ Int.log 2 |q| < ((2 : ℕ) : ℚ) ^ (53 : ℤ) := by
        refine hle.trans_lt ?_
        norm_num at hq ⊢
        exact hq
      have hexp := (zpow_lt_zpow_iff_right₀ (by norm_num : (1 : ℚ) < (2 : ℕ))).mp hlt
      omega
  obtain ⟨m, hm⟩ := Int.eq_ofNat_of_zero_le (show 0 ≤ 52 - Int.log 2 |q| by omega)
  refine ⟨n * 2 ^ m, ?_⟩
  have hulp : ulp q = ((2 : ℚ) ^ m)⁻¹ := by
    rw [ulp, show Int.log 2 |q| - 52 = -(m : ℤ) by omega, zpow_neg, zpow_natCast]
  rw [hulp]
  push_cast
  field_simp

theorem le_round {q : ℚ} (hq : |q| < 2 ^ 53) {n : ℤ} (h : n ≤ q) : n ≤ round q := by
  obtain ⟨k, hk⟩ := exists_eq_mul_ulp hq n
  have hpos := ulp_pos q
  have hle : (k : ℚ) ≤ q / ulp q := by
    rw [le_div_iff₀ hpos, ← hk]
    exact h
  rw [hk, round]
  exact mul_le_mul_of_nonneg_right (by exact_mod_cast le_nearestInt hle) hpos.le

theorem round_le {q : ℚ} (hq : |q| < 2 ^ 53) {n : ℤ} (h : q ≤ n) : round q ≤ n := by
  obtain ⟨k, hk⟩ := exists_eq_mul_ulp hq n
  have hpos := ulp_pos q
  have hle : q / ulp q ≤ k := by
    rw [div_le_iff₀ hpos, ← hk]
    exact h
  rw [hk, round]
  exact mul_le_mul_of_nonneg_right (by exact_mod_cast nearestInt_le hle) hpos.le

theorem round_intCast {n : ℤ} (h : |(n : ℚ)| < 2 ^ 53) : round n = n :=
  le_antisymm (round_le h le_rfl) (le_round h le_rfl)

theorem round_two_pow : round (2 ^ 53) = 2 ^ 53 := by
  decide +kernel

theorem ofNat_eq_self {n : ℕ} (h : n ≤ 2 ^ 53) : ofNat n = n := by
  rcases h.lt_or_eq with hlt | rfl
  · have hcast : |((n : ℤ) : ℚ)| < 2 ^ 53 := by
      rw [Int.cast_natCast, abs_of_nonneg (by positivity)]
      exact_mod_cast hlt
    exact round_intCast hcast
  · rw [ofNat]
    push_cast
    exact round_two_pow

example : round (2 ^ 53 + 3) = 2 ^ 53 + 4 := by decide +kernel

end GoFloat
