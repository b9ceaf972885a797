import GpuFractioning.Lib.GoFloat
import GpuFractioning.Lib.GoText

/-!
# Durations

`time.ParseDuration`, that it reads back what `time.Duration.String` writes, and the whole
seconds of a duration.
The fraction of a unit is computed exactly. The original multiplies floating-point
numbers there, which is as exact when the unit is a power of ten with at least as many
zeros as the fraction has digits.
-/

namespace GoDuration

section Parser

/-- `unitMap`: nanoseconds by the name of the unit. Both spellings of micro are known. -/
def unitMap : List (String × ℕ) :=
  [("ns", 1), ("us", 10 ^ 3), ("µs", 10 ^ 3), ("μs", 10 ^ 3), ("ms", 10 ^ 6), ("s", 10 ^ 9),
    ("m", 60 * 10 ^ 9), ("h", 3600 * 10 ^ 9)]

def unitOf (name : List Char) : Option ℕ := unitMap.lookup (String.ofList name)

/-- What a number starts with, and what ends the name of a unit. -/
def isNumeral (c : Char) : Bool := c = '.' || c.isDigit

/-- `leadingInt`: the value of the digits in front, unless it passes `2 ^ 63`, and the rest. -/
def leadingInt : ℕ → List Char → Option (ℕ × List Char)
  | x, [] => some (x, [])
  | x, c :: cs =>
    if c.isDigit then
      if x > 2 ^ 63 / 10 then none
      else
        let y := 10 * x + (c.toNat - '0'.toNat)
        if y > 2 ^ 63 then none else leadingInt y cs
    else some (x, c :: cs)

/-- `leadingFraction`: the digits in front as a number and its scale, and the rest;
digits that no longer fit are skipped. -/
def leadingFraction : ℕ → ℕ → Bool → List Char → (ℕ × ℕ) × List Char
  | x, scale, _, [] => ((x, scale), [])
  | x, scale, overflow, c :: cs =>
    if c.isDigit then
      let y := 10 * x + (c.toNat - '0'.toNat)
      if overflow ∨ x > (2 ^ 63 - 1) / 10 ∨ y > 2 ^ 63 then leadingFraction x scale true cs
      else leadingFraction y (scale * 10) false cs
    else ((x, scale), c :: cs)

/-- The fraction that may follow, and the rest. -/
def optionalFraction : List Char → (ℕ × ℕ) × List Char
  | '.' :: cs => leadingFraction 0 1 false cs
  | cs => ((0, 1), cs)

/-- A number with its unit, in nanoseconds, and the rest. -/
def parseTerm (s : List Char) : Option (ℕ × List Char) :=
  if s.head?.all fun c => !isNumeral c then none
  else
    match leadingInt 0 s with
    | none => none
    | some (v, afterInt) =>
      let ((f, scale), afterFraction) := optionalFraction afterInt
      -- no digit before the point and none after it
      if afterInt.length = s.length ∧ afterFraction.length + 1 = s.length then none
      else
        match unitOf (afterFraction.takeWhile fun c => !isNumeral c) with
        | none => none
        | some unit =>
          let total := v * unit + f * unit / scale
          if v > 2 ^ 63 / unit ∨ total > 2 ^ 63 then none
          else some (total, afterFraction.dropWhile fun c => !isNumeral c)

theorem length_leadingInt {x v : ℕ} {s rest : List Char}
    (h : leadingInt x s = some (v, rest)) : rest.length ≤ s.length := by
  induction s generalizing x with
  | nil =>
    cases h
    exact le_rfl
  | cons c cs ih =>
    simp only [leadingInt] at h
    split_ifs at h
    · exact (ih h).trans (Nat.le_succ _)
    · cases h
      exact le_rfl

theorem length_leadingFraction (x scale : ℕ) (overflow : Bool) (s : List Char) :
    (leadingFraction x scale overflow s).2.length ≤ s.length := by
  induction s generalizing x scale overflow with
  | nil => exact le_rfl
  | cons c cs ih =>
    simp only [leadingFraction]
    split_ifs
    · exact (ih _ _ _).trans (Nat.le_succ _)
    · exact (ih _ _ _).trans (Nat.le_succ _)
    · exact le_rfl

theorem length_optionalFraction (s : List Char) : (optionalFraction s).2.length ≤ s.length := by
  unfold optionalFraction
  split
  · exact (length_leadingFraction _ _ _ _).trans (Nat.le_succ _)
  · exact le_rfl

theorem unitOf_nil : unitOf [] = none := by decide

theorem length_parseTerm {s rest : List Char} {v : ℕ} (h : parseTerm s = some (v, rest)) :
    rest.length < s.length := by
  unfold parseTerm at h
  split_ifs at h
  cases hint : leadingInt 0 s with
  | none => simp [hint] at h
  | some p =>
    obtain ⟨n, afterInt⟩ := p
    have hafter := length_leadingInt hint
    have hfraction := length_optionalFraction afterInt
    simp only [hint] at h
    split_ifs at h
    cases hunit : unitOf ((optionalFraction afterInt).2.takeWhile fun c => !isNumeral c) with
    | none => simp [hunit] at h
    | some unit =>
      have hname : (optionalFraction afterInt).2.takeWhile (fun c => !isNumeral c) ≠ [] := by
        intro hnil
        rw [hnil, unitOf_nil] at hunit
        cases hunit
      have hsplit := congrArg List.length (List.takeWhile_append_dropWhile
        (p := fun c => !isNumeral c) (l := (optionalFraction afterInt).2))
      rw [List.length_append] at hsplit
      have hpos := List.length_pos_iff.mpr hname
      simp only [hunit] at h
      split_ifs at h
      cases h
      omega

/-- The loop over the terms; `d` is the sum so far. -/
def parseTerms (s : List Char) (d : ℕ) : Option ℕ :=
  if s = [] then some d
  else
    match h : parseTerm s with
    | none => none
    | some (v, rest) => if d + v > 2 ^ 63 then none else parseTerms rest (d + v)
termination_by s.length
decreasing_by exact length_parseTerm h

/-- `time.ParseDuration`, in nanoseconds. -/
def parseDuration (s : String) : Option ℤ :=
  let (neg, body) := GoStrconv.splitSign s.toList
  if body = ['0'] then some 0
  else if body = [] then none
  else
    match parseTerms body 0 with
    | none => none
    | some d => if neg then some (-(d : ℤ)) else if d > 2 ^ 63 - 1 then none else some d

end Parser

section RoundTrip

/-- What follows digits: nothing, or a character that is none. -/
def NoDigitFirst (s : List Char) : Prop := ∀ c ∈ s.head?, c.isDigit = false

theorem le_ofDigitChars (cs : List Char) (x : ℕ) : x ≤ Nat.ofDigitChars 10 cs x := by
  rw [Nat.ofDigitChars_eq_ofDigitChars_zero]
  exact (Nat.le_mul_of_pos_left x (by positivity)).trans (Nat.le_add_right _ _)

theorem leadingInt_append {digits rest : List Char} (hdigits : ∀ c ∈ digits, c.isDigit = true)
    (hrest : NoDigitFirst rest) {x : ℕ} (hbound : Nat.ofDigitChars 10 digits x ≤ 2 ^ 63) :
    leadingInt x (digits ++ rest) = some (Nat.ofDigitChars 10 digits x, rest) := by
  induction digits generalizing x with
  | nil =>
    cases rest with
    | nil => rfl
    | cons c cs =>
      have hc : c.isDigit = false := hrest c rfl
      simp [leadingInt, hc]
  | cons c cs ih =>
    rw [List.forall_mem_cons] at hdigits
    rw [Nat.ofDigitChars_cons] at hbound ⊢
    have hle := le_ofDigitChars cs (10 * x + (c.toNat - '0'.toNat))
    rw [List.cons_append, leadingInt, if_pos hdigits.1, if_neg (by omega)]
    dsimp only
    rw [if_neg (by omega)]
    exact ih hdigits.2 hbound

theorem leadingFraction_append {digits rest : List Char}
    (hdigits : ∀ c ∈ digits, c.isDigit = true) (hrest : NoDigitFirst rest) {x scale : ℕ}
    (hbound : Nat.ofDigitChars 10 digits x ≤ 2 ^ 63 - 1) :
    leadingFraction x scale false (digits ++ rest) =
      ((Nat.ofDigitChars 10 digits x, scale * 10 ^ digits.length), rest) := by
  induction digits generalizing x scale with
  | nil =>
    cases rest with
    | nil => simp [leadingFraction]
    | cons c cs =>
      have hc : c.isDigit = false := hrest c rfl
      simp [leadingFraction, hc]
  | cons c cs ih =>
    rw [List.forall_mem_cons] at hdigits
    rw [Nat.ofDigitChars_cons] at hbound ⊢
    have hle := le_ofDigitChars cs (10 * x + (c.toNat - '0'.toNat))
    have hfits : ¬((false = true) ∨ x > (2 ^ 63 - 1) / 10 ∨
        10 * x + (c.toNat - '0'.toNat) > 2 ^ 63) := by
      simp only [Bool.false_eq_true, false_or]
      omega
    rw [List.cons_append, leadingFraction, if_pos hdigits.1]
    dsimp only
    rw [if_neg hfits, ih hdigits.2 hbound, List.length_cons, pow_succ', mul_assoc]

/-- The digits of a fraction behind their point; without digits there is no point. -/
def pointed : List Char → List Char
  | [] => []
  | c :: cs => '.' :: c :: cs

theorem optionalFraction_pointed {kept rest : List Char} (hkept : ∀ c ∈ kept, c.isDigit = true)
    (hrest : ∀ c ∈ rest.head?, isNumeral c = false)
    (hbound : Nat.ofDigitChars 10 kept 0 ≤ 2 ^ 63 - 1) :
    optionalFraction (pointed kept ++ rest) =
      ((Nat.ofDigitChars 10 kept 0, 10 ^ kept.length), rest) := by
  have hdigit : NoDigitFirst rest := fun c hc => (Bool.or_eq_false_iff.mp (hrest c hc)).2
  cases kept with
  | nil =>
    cases rest with
    | nil => rfl
    | cons c cs =>
      have hpoint : c ≠ '.' := of_decide_eq_false (Bool.or_eq_false_iff.mp (hrest c rfl)).1
      simp [pointed, optionalFraction, hpoint]
  | cons c cs =>
    change leadingFraction 0 1 false ((c :: cs) ++ rest) = _
    rw [leadingFraction_append hkept hdigit hbound, one_mul]

theorem noDigitFirst_pointed {kept rest : List Char} (hrest : NoDigitFirst rest) :
    NoDigitFirst (pointed kept ++ rest) := by
  cases kept with
  | nil => exact hrest
  | cons c cs =>
    intro d hd
    cases hd
    decide

theorem leadingInt_toDigits {n : ℕ} {rest : List Char} (hrest : NoDigitFirst rest)
    (hn : n ≤ 2 ^ 63) : leadingInt 0 (Nat.toDigits 10 n ++ rest) = some (n, rest) := by
  have hdigits : ∀ c ∈ Nat.toDigits 10 n, c.isDigit = true := fun c hc =>
    Nat.isDigit_of_mem_toDigits (by decide) (by decide) hc
  rw [leadingInt_append hdigits hrest (by rwa [Nat.ofDigitChars_ten_toDigits]),
    Nat.ofDigitChars_ten_toDigits]

theorem numeralFirst_toDigits (n : ℕ) (rest : List Char) :
    ¬((Nat.toDigits 10 n ++ rest).head?.all fun c => !isNumeral c) = true := by
  cases hdigits : Nat.toDigits 10 n with
  | nil => exact absurd hdigits Nat.toDigits_ne_nil
  | cons c cs =>
    have hc : c.isDigit = true :=
      Nat.isDigit_of_mem_toDigits (by decide) (by decide) (hdigits ▸ List.mem_cons_self)
    simp [isNumeral, hc]

section UnitName

variable {name rest : List Char} (hname : ∀ c ∈ name, isNumeral c = false)

include hname

theorem not_numeral_of_head? (rest : List Char) (hne : name ≠ []) :
    ∀ c ∈ (name ++ rest).head?, isNumeral c = false := by
  cases name with
  | nil => exact absurd rfl hne
  | cons c cs =>
    intro d hd
    cases hd
    exact hname _ List.mem_cons_self

/-- The name of a unit ends where the next number begins. -/
theorem takeWhile_dropWhile_name (hrest : ∀ c ∈ rest.head?, isNumeral c = true) :
    (name ++ rest).takeWhile (fun c => !isNumeral c) = name ∧
      (name ++ rest).dropWhile (fun c => !isNumeral c) = rest := by
  have hnot : ∀ c ∈ name, (!isNumeral c) = true := by
    intro c hc
    rw [hname c hc]
    rfl
  rw [List.takeWhile_append_of_pos hnot, List.dropWhile_append_of_pos hnot]
  cases rest with
  | nil => simp
  | cons c cs => simp [hrest c rfl]

end UnitName

theorem parseTerm_append {n unit : ℕ} {kept name rest : List Char}
    (hkept : ∀ c ∈ kept, c.isDigit = true) (hfits : Nat.ofDigitChars 10 kept 0 ≤ 2 ^ 63 - 1)
    (hunit : unitOf name = some unit) (hpos : 0 < unit)
    (hname : ∀ c ∈ name, isNumeral c = false) (hrest : ∀ c ∈ rest.head?, isNumeral c = true)
    (hbound : n * unit + Nat.ofDigitChars 10 kept 0 * unit / 10 ^ kept.length ≤ 2 ^ 63) :
    parseTerm (Nat.toDigits 10 n ++ (pointed kept ++ (name ++ rest))) =
      some (n * unit + Nat.ofDigitChars 10 kept 0 * unit / 10 ^ kept.length, rest) := by
  have hne : name ≠ [] := by
    rintro rfl
    rw [unitOf_nil] at hunit
    cases hunit
  have hafter := not_numeral_of_head? hname rest hne
  have hdigit : NoDigitFirst (pointed kept ++ (name ++ rest)) :=
    noDigitFirst_pointed fun c hc => (Bool.or_eq_false_iff.mp (hafter c hc)).2
  have hwhole : n * unit ≤ 2 ^ 63 := (Nat.le_add_right _ _).trans hbound
  have hshort : ¬((pointed kept ++ (name ++ rest)).length =
        (Nat.toDigits 10 n ++ (pointed kept ++ (name ++ rest))).length ∧
      (name ++ rest).length + 1 =
        (Nat.toDigits 10 n ++ (pointed kept ++ (name ++ rest))).length) := by
    have hlength : 0 < (Nat.toDigits 10 n).length := Nat.length_toDigits_pos
    simp only [List.length_append]
    omega
  have hnfits : ¬(n > 2 ^ 63 / unit ∨
      n * unit + Nat.ofDigitChars 10 kept 0 * unit / 10 ^ kept.length > 2 ^ 63) := by
    have hn : n ≤ 2 ^ 63 / unit := (Nat.le_div_iff_mul_le hpos).mpr hwhole
    omega
  obtain ⟨htake, hdrop⟩ := takeWhile_dropWhile_name hname hrest
  unfold parseTerm
  rw [if_neg (numeralFirst_toDigits n _),
    leadingInt_toDigits hdigit ((Nat.le_mul_of_pos_right n hpos).trans hwhole)]
  dsimp only
  rw [optionalFraction_pointed hkept hafter hfits]
  dsimp only
  rw [if_neg hshort, htake, hunit]
  dsimp only
  rw [if_neg hnfits, hdrop]

theorem ofDigitChars_rdropWhile (digits : List Char) :
    Nat.ofDigitChars 10 (digits.rdropWhile (· = '0')) 0 *
        10 ^ (digits.length - (digits.rdropWhile (· = '0')).length) =
      Nat.ofDigitChars 10 digits 0 := by
  let kept := digits.rdropWhile (· = '0')
  let zeros := digits.rtakeWhile (· = '0')
  have hsplit : kept ++ zeros = digits := List.rdropWhile_append_rtakeWhile ..
  have hzeros : zeros = List.replicate zeros.length '0' := by
    refine List.eq_replicate_of_mem fun c hc => ?_
    simpa using List.mem_rtakeWhile_imp hc
  have hlength : digits.length - kept.length = zeros.length := by
    rw [← hsplit, List.length_append]
    omega
  calc
    Nat.ofDigitChars 10 kept 0 * 10 ^ (digits.length - kept.length)
        = Nat.ofDigitChars 10 (List.replicate zeros.length '0') (Nat.ofDigitChars 10 kept 0) := by
          rw [hlength, Nat.ofDigitChars_replicate_zero, mul_comm]
    _ = Nat.ofDigitChars 10 digits 0 := by
          rw [← hzeros, ← Nat.ofDigitChars_append, hsplit]

theorem exists_toList_fraction (v precision : ℕ) :
    ∃ kept : List Char, (GoText.fraction v precision).toList = pointed kept ∧
      (∀ c ∈ kept, c.isDigit = true) ∧ kept.length ≤ precision ∧
      Nat.ofDigitChars 10 kept 0 * 10 ^ (precision - kept.length) = v % 10 ^ precision := by
  let digits := Nat.toDigits 10 (v % 10 ^ precision)
  let padded := List.replicate (precision - digits.length) '0' ++ digits
  have hdigits : ∀ c ∈ padded, c.isDigit = true := by
    intro c hc
    rcases List.mem_append.mp hc with hc | hc
    · rw [List.eq_of_mem_replicate hc]
      decide
    · exact Nat.isDigit_of_mem_toDigits (by decide) (by decide) hc
  have htext : (GoText.fraction v precision).toList =
      pointed (padded.rdropWhile (· = '0')) := by
    cases hkept : padded.rdropWhile (· = '0') with
    | nil => simp only [GoText.fraction, padded, digits, hkept, String.toList_empty, pointed]
    | cons c cs => simp [GoText.fraction, padded, digits, hkept, pointed]
  rcases Nat.eq_zero_or_pos precision with rfl | hpos
  · refine ⟨[], ?_, by simp, le_rfl, by simp [Nat.mod_one]⟩
    have hzero : padded.rdropWhile (· = '0') = [] := by
      simp [padded, digits, Nat.mod_one, Nat.toDigits_zero]
    rw [htext, hzero]
  · have hlength : padded.length = precision := by
      have hle : digits.length ≤ precision :=
        (Nat.length_toDigits_le_iff (by decide) hpos).mpr (Nat.mod_lt _ (by positivity))
      rw [List.length_append, List.length_replicate]
      omega
    have hvalue : Nat.ofDigitChars 10 padded 0 = v % 10 ^ precision := by
      rw [Nat.ofDigitChars_append, Nat.ofDigitChars_replicate_zero, mul_zero,
        Nat.ofDigitChars_ten_toDigits]
    refine ⟨padded.rdropWhile (· = '0'), htext, ?_, ?_, ?_⟩
    · intro c hc
      exact hdigits c ((List.rdropWhile_prefix _ _).subset hc)
    · exact hlength ▸ (List.rdropWhile_prefix _ _).length_le
    · rw [← hvalue, ← ofDigitChars_rdropWhile padded, hlength]

theorem parseTerm_unit {n u precision : ℕ} {name : String} {rest : List Char}
    (hprecision : precision ≤ 9) (hunit : unitOf name.toList = some (10 ^ precision))
    (hname : ∀ c ∈ name.toList, isNumeral c = false)
    (hrest : ∀ c ∈ rest.head?, isNumeral c = true)
    (hbound : n * 10 ^ precision + u % 10 ^ precision ≤ 2 ^ 63) :
    parseTerm ((toString n ++ GoText.fraction u precision ++ name).toList ++ rest) =
      some (n * 10 ^ precision + u % 10 ^ precision, rest) := by
  obtain ⟨kept, htext, hkept, hlength, hvalue⟩ := exists_toList_fraction u precision
  have hmod : u % 10 ^ precision < 10 ^ precision := Nat.mod_lt _ (by positivity)
  have hpow : 10 ^ precision ≤ 10 ^ 9 := Nat.pow_le_pow_right (by decide) hprecision
  have hsmall : Nat.ofDigitChars 10 kept 0 ≤ 2 ^ 63 - 1 := by
    have hle : Nat.ofDigitChars 10 kept 0 ≤ u % 10 ^ precision :=
      hvalue ▸ Nat.le_mul_of_pos_right _ (by positivity)
    omega
  have hquotient : Nat.ofDigitChars 10 kept 0 * 10 ^ precision / 10 ^ kept.length =
      u % 10 ^ precision := by
    rw [Nat.mul_div_assoc _ (pow_dvd_pow 10 hlength), Nat.pow_div hlength (by decide), hvalue]
  have hterm := parseTerm_append (n := n) hkept hsmall hunit (by positivity) hname hrest
    (by rwa [hquotient])
  rw [hquotient] at hterm
  rw [← hterm]
  simp only [String.toList_append, Nat.toString_eq_ofList_toDigits, String.toList_ofList, htext,
    List.append_assoc]

theorem parseTerm_whole {n unit : ℕ} {name : String} {rest : List Char}
    (hunit : unitOf name.toList = some unit) (hpos : 0 < unit)
    (hname : ∀ c ∈ name.toList, isNumeral c = false)
    (hrest : ∀ c ∈ rest.head?, isNumeral c = true) (hbound : n * unit ≤ 2 ^ 63) :
    parseTerm ((toString n ++ name).toList ++ rest) = some (n * unit, rest) := by
  have hterm : parseTerm (Nat.toDigits 10 n ++ (pointed [] ++ (name.toList ++ rest))) = _ :=
    parseTerm_append (by simp) (by simp) hunit hpos hname hrest (by simpa using hbound)
  rw [Nat.ofDigitChars_nil, zero_mul, Nat.zero_div, add_zero] at hterm
  rw [← hterm]
  simp only [String.toList_append, Nat.toString_eq_ofList_toDigits, String.toList_ofList,
    List.append_assoc, pointed, List.nil_append]

theorem parseTerms_nil (d : ℕ) : parseTerms [] d = some d := by
  rw [parseTerms, if_pos rfl]

theorem parseTerms_of_parseTerm {s rest : List Char} {v d : ℕ}
    (hterm : parseTerm s = some (v, rest)) (hbound : d + v ≤ 2 ^ 63) :
    parseTerms s d = parseTerms rest (d + v) := by
  have hne : s ≠ [] := by
    rintro rfl
    cases hterm
  rw [parseTerms, if_neg hne]
  split
  · next hnone =>
    rw [hnone] at hterm
    cases hterm
  · next v' rest' hsome =>
    rw [hsome] at hterm
    cases hterm
    rw [if_neg (by omega)]

theorem parseTerms_unit {u n d precision : ℕ} {name : String} (hu : u ≤ 2 ^ 63)
    (hprecision : precision ≤ 9) (hunit : unitOf name.toList = some (10 ^ precision))
    (hname : ∀ c ∈ name.toList, isNumeral c = false)
    (hsum : d + (n * 10 ^ precision + u % 10 ^ precision) = u) :
    parseTerms (toString n ++ GoText.fraction u precision ++ name).toList d = some u := by
  have hterm : parseTerm ((toString n ++ GoText.fraction u precision ++ name).toList ++ []) = _ :=
    parseTerm_unit hprecision hunit hname (by simp) (by omega)
  rw [List.append_nil] at hterm
  rw [parseTerms_of_parseTerm hterm (by omega), parseTerms_nil, hsum]

theorem parseTerms_optional (n unit d : ℕ) (shown : Prop) [Decidable shown] (name : String)
    {rest : List Char} (hunit : unitOf name.toList = some unit) (hpos : 0 < unit)
    (hname : ∀ c ∈ name.toList, isNumeral c = false)
    (hrest : ∀ c ∈ rest.head?, isNumeral c = true) (hzero : ¬shown → n = 0)
    (hbound : d + n * unit ≤ 2 ^ 63) :
    parseTerms ((if shown then toString n ++ name else "").toList ++ rest) d =
      parseTerms rest (d + n * unit) := by
  by_cases hshown : shown
  · rw [if_pos hshown]
    exact parseTerms_of_parseTerm (parseTerm_whole hunit hpos hname hrest (by omega)) hbound
  · rw [if_neg hshown, hzero hshown, zero_mul, add_zero]
    rfl

theorem head?_toString_append (n : ℕ) (tail : List Char) :
    ∀ c ∈ ((toString n).toList ++ tail).head?, isNumeral c = true := by
  intro c hc
  rw [Nat.toString_eq_ofList_toDigits, String.toList_ofList] at hc
  cases hd : Nat.toDigits 10 n with
  | nil => exact absurd hd Nat.toDigits_ne_nil
  | cons c' cs =>
    rw [hd] at hc
    cases hc
    have hdigit : c.isDigit = true := Nat.isDigit_of_mem_toDigits (by decide) (by decide)
      (hd ▸ List.mem_cons_self)
    simp [isNumeral, hdigit]

theorem head?_optional (n : ℕ) (shown : Prop) [Decidable shown] (name : String)
    {rest : List Char} (hrest : ∀ c ∈ rest.head?, isNumeral c = true) :
    ∀ c ∈ ((if shown then toString n ++ name else "").toList ++ rest).head?,
      isNumeral c = true := by
  by_cases hshown : shown
  · rw [if_pos hshown, String.toList_append, List.append_assoc]
    exact head?_toString_append _ _
  · rw [if_neg hshown]
    exact hrest

theorem parseTerms_clock {u : ℕ} (hu : u ≤ 2 ^ 63) :
    let seconds := u / GoText.nanosecondsPerSecond
    let minutes := seconds / 60
    let hours := minutes / 60
    parseTerms ((if hours > 0 then toString hours ++ "h" else "") ++
      (if minutes > 0 then toString (minutes % 60) ++ "m" else "") ++
      toString (seconds % 60) ++ GoText.fraction u 9 ++ "s").toList 0 = some u := by
  intro seconds minutes hours
  have hsum : hours * (3600 * 10 ^ 9) + (minutes % 60) * (60 * 10 ^ 9) +
      ((seconds % 60) * 10 ^ 9 + u % 10 ^ 9) = u := by
    simp only [hours, minutes, seconds, GoText.nanosecondsPerSecond]
    omega
  have hlast : parseTerms (toString (seconds % 60) ++ GoText.fraction u 9 ++ "s").toList
      (hours * (3600 * 10 ^ 9) + (minutes % 60) * (60 * 10 ^ 9)) = some u :=
    parseTerms_unit hu le_rfl (by decide) (by simp [isNumeral]) hsum
  have hsecondsHead : ∀ c ∈ (toString (seconds % 60) ++ GoText.fraction u 9 ++ "s").toList.head?,
      isNumeral c = true := by
    simp only [String.toList_append, List.append_assoc]
    exact head?_toString_append _ _
  have hminutesHead := head?_optional (minutes % 60) (minutes > 0) "m" hsecondsHead
  rw [← hlast]
  calc
    _ = parseTerms ((if hours > 0 then toString hours ++ "h" else "").toList ++
          ((if minutes > 0 then toString (minutes % 60) ++ "m" else "").toList ++
            (toString (seconds % 60) ++ GoText.fraction u 9 ++ "s").toList)) 0 := by
      simp only [String.toList_append, List.append_assoc]
    _ = parseTerms ((if minutes > 0 then toString (minutes % 60) ++ "m" else "").toList ++
          (toString (seconds % 60) ++ GoText.fraction u 9 ++ "s").toList)
          (0 + hours * (3600 * 10 ^ 9)) :=
      parseTerms_optional hours _ 0 _ "h" (by decide) (by decide) (by simp [isNumeral])
        hminutesHead (by omega) (by omega)
    _ = parseTerms (toString (seconds % 60) ++ GoText.fraction u 9 ++ "s").toList
          (0 + hours * (3600 * 10 ^ 9) + (minutes % 60) * (60 * 10 ^ 9)) :=
      parseTerms_optional (minutes % 60) _ _ _ "m" (by decide) (by decide) (by simp [isNumeral])
        hsecondsHead (by omega) (by omega)
    _ = _ := by rw [zero_add]

/-- The text of a number of nanoseconds is read back as that number. -/
theorem parseTerms_magnitudeString {u : ℕ} (hu : u ≤ 2 ^ 63) :
    parseTerms (GoText.magnitudeString u).toList 0 = some u := by
  have hdiv (precision : ℕ) :
      0 + (u / 10 ^ precision * 10 ^ precision + u % 10 ^ precision) = u := by
    rw [zero_add, Nat.div_add_mod']
  unfold GoText.magnitudeString
  dsimp only
  by_cases hzero : u = 0
  · have hterm : parseTerm "0s".toList = some (0, []) := by decide
    rw [if_pos hzero, parseTerms_of_parseTerm hterm (by decide), parseTerms_nil, hzero]
  rw [if_neg hzero]
  by_cases hns : u < 10 ^ 3
  · rw [if_pos hns]
    exact parseTerms_unit hu (by decide) (by decide) (by simp [isNumeral]) (hdiv 0)
  rw [if_neg hns]
  by_cases hus : u < 10 ^ 6
  · rw [if_pos hus]
    exact parseTerms_unit hu (by decide) (by decide) (by simp [isNumeral]) (hdiv 3)
  rw [if_neg hus]
  by_cases hms : u < GoText.nanosecondsPerSecond
  · rw [if_pos hms]
    exact parseTerms_unit hu (by decide) (by decide) (by simp [isNumeral]) (hdiv 6)
  rw [if_neg hms]
  exact parseTerms_clock hu

theorem toList_magnitudeString_ne_nil (u : ℕ) : (GoText.magnitudeString u).toList ≠ [] := by
  unfold GoText.magnitudeString
  dsimp only
  split_ifs <;> simp

theorem parseTerms_zero : parseTerms ['0'] 0 = none := by
  have hterm : parseTerm ['0'] = none := by decide
  rw [parseTerms, if_neg (by simp)]
  split
  · rfl
  · next hsome =>
    rw [hterm] at hsome
    cases hsome

theorem isNumeral_of_parseTerms {c : Char} {cs : List Char} {d v : ℕ}
    (h : parseTerms (c :: cs) d = some v) : isNumeral c = true := by
  by_contra hc
  have hterm : parseTerm (c :: cs) = none := by
    unfold parseTerm
    rw [if_pos (by simp [hc])]
  rw [parseTerms, if_neg (by simp)] at h
  split at h
  · cases h
  · next hsome =>
    rw [hterm] at hsome
    cases hsome

/-- What `Duration.String` writes of an `int64`, `ParseDuration` reads back. -/
theorem parseDuration_durationString {d : ℤ} (hmin : GoStrconv.minInt64 ≤ d)
    (hmax : d ≤ GoStrconv.maxInt64) : parseDuration (GoText.durationString d) = some d := by
  unfold GoStrconv.minInt64 at hmin
  unfold GoStrconv.maxInt64 at hmax
  have hterms := parseTerms_magnitudeString (u := d.natAbs) (by omega)
  obtain ⟨c, cs, hbody⟩ := List.exists_cons_of_ne_nil (toList_magnitudeString_ne_nil d.natAbs)
  rw [hbody] at hterms
  have hbare : c :: cs ≠ ['0'] := by
    intro hzero
    rw [hzero, parseTerms_zero] at hterms
    cases hterms
  have hnumeral := isNumeral_of_parseTerms hterms
  have hunsigned : GoStrconv.splitSign (c :: cs) = (false, c :: cs) := by
    refine GoStrconv.splitSign_of_ne ?_ ?_
    · rintro rfl
      exact absurd hnumeral (by decide)
    · rintro rfl
      exact absurd hnumeral (by decide)
  unfold parseDuration GoText.durationString
  by_cases hneg : d < 0
  · have htext : ("-" ++ GoText.magnitudeString d.natAbs).toList = '-' :: c :: cs := by
      rw [String.toList_append, hbody]
      rfl
    rw [if_pos hneg, htext, GoStrconv.splitSign_minus]
    dsimp only
    rw [if_neg hbare, if_neg (List.cons_ne_nil c cs), hterms]
    dsimp only
    rw [if_pos rfl]
    congr 1
    omega
  · have htext : ("" ++ GoText.magnitudeString d.natAbs).toList = c :: cs := by
      rw [String.toList_append, hbody]
      rfl
    rw [if_neg hneg, htext, hunsigned]
    dsimp only
    rw [if_neg hbare, if_neg (List.cons_ne_nil c cs), hterms]
    dsimp only
    rw [if_neg (by decide), if_neg (by omega)]
    congr 1
    omega

end RoundTrip

section Seconds

/-- `Duration.Seconds`. -/
def seconds (d : ℤ) : ℚ :=
  GoFloat.round (GoFloat.round (d.tdiv (10 ^ 9)) +
    GoFloat.round (GoFloat.round (d.tmod (10 ^ 9)) / 10 ^ 9))

/-- `int64(d.Seconds())`. -/
def wholeSeconds (d : ℤ) : ℤ := if 0 ≤ seconds d then ⌊seconds d⌋ else ⌈seconds d⌉

variable {d : ℤ} (hmin : GoStrconv.minInt64 ≤ d) (hmax : d ≤ GoStrconv.maxInt64)

include hmin hmax

theorem abs_tdiv_le : |((d.tdiv (10 ^ 9) : ℤ) : ℚ)| ≤ 9223372037 := by
  have hsplit := Int.mul_tdiv_add_tmod d (10 ^ 9)
  have hlow := Int.lt_tmod_of_pos d (show (0 : ℤ) < 10 ^ 9 by norm_num)
  have hhigh := Int.tmod_lt_of_pos d (show (0 : ℤ) < 10 ^ 9 by norm_num)
  have hsec : |d.tdiv (10 ^ 9)| ≤ 9223372037 := by
    unfold GoStrconv.minInt64 at hmin
    unfold GoStrconv.maxInt64 at hmax
    rw [abs_le]
    omega
  exact_mod_cast hsec

omit hmin hmax in
theorem abs_tmod_le (d : ℤ) : |((d.tmod (10 ^ 9) : ℤ) : ℚ)| ≤ 10 ^ 9 := by
  have hlow := Int.lt_tmod_of_pos d (show (0 : ℤ) < 10 ^ 9 by norm_num)
  have hhigh := Int.tmod_lt_of_pos d (show (0 : ℤ) < 10 ^ 9 by norm_num)
  have hnsec : |d.tmod (10 ^ 9)| ≤ 10 ^ 9 := by
    rw [abs_le]
    omega
  exact_mod_cast hnsec

omit hmin hmax in
theorem cast_eq_tdiv_add_tmod (d : ℤ) :
    (d : ℚ) = 10 ^ 9 * (d.tdiv (10 ^ 9) : ℤ) + (d.tmod (10 ^ 9) : ℤ) := by
  have hsplit := congrArg (Int.cast : ℤ → ℚ) (Int.mul_tdiv_add_tmod d (10 ^ 9))
  push_cast at hsplit
  exact hsplit.symm

theorem seconds_eq : seconds d =
    GoFloat.round ((d.tdiv (10 ^ 9) : ℤ) + GoFloat.round ((d.tmod (10 ^ 9) : ℤ) / 10 ^ 9)) := by
  have hsec : |((d.tdiv (10 ^ 9) : ℤ) : ℚ)| < 2 ^ 53 :=
    (abs_tdiv_le hmin hmax).trans_lt (by norm_num)
  have hnsec : |((d.tmod (10 ^ 9) : ℤ) : ℚ)| < 2 ^ 53 := (abs_tmod_le d).trans_lt (by norm_num)
  rw [seconds, GoFloat.round_intCast hsec, GoFloat.round_intCast hnsec]

/-- Neither of the other roundings passes a whole second. -/
theorem seconds_bounds :
    ((d / 10 ^ 9 : ℤ) : ℚ) ≤ seconds d ∧ seconds d ≤ ((d / 10 ^ 9 + 1 : ℤ) : ℚ) := by
  have hsec := abs_le.mp (abs_tdiv_le hmin hmax)
  have hnsec := abs_le.mp (abs_tmod_le d)
  have hsplit := cast_eq_tdiv_add_tmod d
  have hfloor : ((10 ^ 9 * (d / 10 ^ 9) : ℤ) : ℚ) ≤ d := Int.cast_le.mpr (by omega)
  have hceil : (d : ℚ) ≤ ((10 ^ 9 * (d / 10 ^ 9 + 1) : ℤ) : ℚ) := Int.cast_le.mpr (by omega)
  push_cast at hfloor hceil
  generalize hsec' : d.tdiv (10 ^ 9) = sec at *
  generalize hnsec' : d.tmod (10 ^ 9) = nsec at *
  have hfraction : |(nsec : ℚ) / 10 ^ 9| ≤ 1 := by
    rw [abs_div, div_le_one (by positivity)]
    exact abs_le.mpr hnsec
  have hsmall : |(nsec : ℚ) / 10 ^ 9| < 2 ^ 53 := hfraction.trans_lt (by norm_num)
  have hlow : ((d / 10 ^ 9 - sec : ℤ) : ℚ) ≤ GoFloat.round (nsec / 10 ^ 9) := by
    refine GoFloat.le_round hsmall ?_
    push_cast
    rw [le_div_iff₀ (by positivity)]
    linarith
  have hhigh : GoFloat.round (nsec / 10 ^ 9) ≤ ((d / 10 ^ 9 + 1 - sec : ℤ) : ℚ) := by
    refine GoFloat.round_le hsmall ?_
    push_cast
    rw [div_le_iff₀ (by positivity)]
    linarith
  have hone : -1 ≤ GoFloat.round (nsec / 10 ^ 9) ∧ GoFloat.round (nsec / 10 ^ 9) ≤ 1 := by
    have hle := abs_le.mp hfraction
    have hlow' := GoFloat.le_round hsmall (n := -1) (by simpa using hle.1)
    have hhigh' := GoFloat.round_le hsmall (n := 1) (by simpa using hle.2)
    exact ⟨by simpa using hlow', by simpa using hhigh'⟩
  have hsum : |(sec : ℚ) + GoFloat.round (nsec / 10 ^ 9)| < 2 ^ 53 := by
    rw [abs_lt]
    constructor <;> linarith [hone.1, hone.2, hsec.1, hsec.2]
  push_cast at hlow hhigh
  rw [seconds_eq hmin hmax, hsec', hnsec']
  constructor
  · refine GoFloat.le_round hsum ?_
    linarith
  · refine GoFloat.round_le hsum ?_
    push_cast
    linarith

theorem wholeSeconds_bounds :
    d / 10 ^ 9 ≤ wholeSeconds d ∧ wholeSeconds d ≤ d / 10 ^ 9 + 1 := by
  obtain ⟨hlow, hhigh⟩ := seconds_bounds hmin hmax
  unfold wholeSeconds
  split_ifs
  · exact ⟨Int.le_floor.mpr hlow, by exact_mod_cast (Int.floor_le _).trans hhigh⟩
  · exact ⟨by exact_mod_cast hlow.trans (Int.le_ceil _), Int.ceil_le.mpr hhigh⟩

omit hmin in
theorem wholeSeconds_mul_le (hnonneg : 0 ≤ d) : wholeSeconds d * 10 ^ 9 ≤ d + d / 2 ^ 51 := by
  have hmin : GoStrconv.minInt64 ≤ d := le_trans (by decide) hnonneg
  have hsplit := cast_eq_tdiv_add_tmod d
  have hsec : (0 : ℚ) ≤ (d.tdiv (10 ^ 9) : ℤ) :=
    Int.cast_nonneg (Int.tdiv_nonneg hnonneg (by norm_num))
  have hnsec : (0 : ℚ) ≤ (d.tmod (10 ^ 9) : ℤ) := Int.cast_nonneg (Int.tmod_nonneg _ hnonneg)
  have heq := seconds_eq hmin hmax
  generalize d.tdiv (10 ^ 9) = sec at *
  generalize d.tmod (10 ^ 9) = nsec at *
  have hfraction := GoFloat.round_le_mul (q := nsec / 10 ^ 9) (by positivity)
  have hpos := GoFloat.round_nonneg (q := nsec / 10 ^ 9) (by positivity)
  have hsum := GoFloat.round_le_mul (q := sec + GoFloat.round (nsec / 10 ^ 9)) (by linarith)
  have hseconds : seconds d * 10 ^ 9 ≤ d * (1 + 1 / 2 ^ 53) ^ 2 := by
    rw [heq, hsplit]
    nlinarith
  have hfloor : (wholeSeconds d : ℚ) ≤ seconds d := by
    have hround := GoFloat.round_nonneg (q := sec + GoFloat.round (nsec / 10 ^ 9)) (by linarith)
    rw [wholeSeconds, if_pos (heq ▸ hround)]
    exact Int.floor_le _
  have hq : (((wholeSeconds d * 10 ^ 9 - d) * 2 ^ 51 : ℤ) : ℚ) ≤ d := by
    have hd : (0 : ℚ) ≤ d := by exact_mod_cast hnonneg
    push_cast
    nlinarith
  have hz : (wholeSeconds d * 10 ^ 9 - d) * 2 ^ 51 ≤ d := by exact_mod_cast hq
  omega

end Seconds

example : wholeSeconds 16777216999999999 = 16777217 := by decide +kernel

end GoDuration
