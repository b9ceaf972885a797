import Mathlib

/-!
# Conversions between numbers and strings

The functions of the Go package `strconv` in base 10, and integers whose base is left to
their text.
-/

namespace GoStrconv

/-- `strconv.FormatInt(n, 10)`, and `strconv.Itoa`. -/
def formatInt (n : ℤ) : String := toString n

theorem repr_ne_minus (m n : ℕ) : Nat.repr m ≠ "-" ++ Nat.repr n := by
  intro h
  have hl := congrArg String.toList h
  simp only [Nat.repr, String.toList_append, String.toList_ofList] at hl
  have hmem : '-' ∈ Nat.toDigits 10 m := by
    rw [hl]
    exact List.mem_cons_self
  exact absurd (Nat.isDigit_of_mem_toDigits (by decide) (by decide) hmem) (by decide)

theorem formatInt_injective {m n : ℤ} (h : formatInt m = formatInt n) : m = n := by
  change Int.repr m = Int.repr n at h
  cases m with
  | ofNat m =>
    cases n with
    | ofNat n => exact congrArg _ (Nat.repr_injective h)
    | negSucc n => exact (repr_ne_minus _ _ h).elim
  | negSucc m =>
    cases n with
    | ofNat n => exact (repr_ne_minus _ _ h.symm).elim
    | negSucc n =>
      have hl := congrArg String.toList h
      simp only [Int.repr, String.toList_append] at hl
      have hrepr := String.toList_inj.mp (List.append_cancel_left hl)
      have hnat := Nat.repr_injective hrepr
      congr 1
      omega

/-- The value of a nonempty list of decimal digits. -/
def parseDigits : List Char → Option ℕ
  | [] => none
  | cs => cs.foldl (fun acc c => acc.bind fun n =>
      if c.isDigit then some (10 * n + (c.toNat - '0'.toNat)) else none) (some 0)

def minInt64 : ℤ := -2 ^ 63

def maxInt64 : ℤ := 2 ^ 63 - 1

/-- `strconv.ParseInt(s, 10, 64)`: an optional sign, digits, and the range of `int64`. -/
def parseInt (s : String) : Option ℤ :=
  let value : Option ℤ :=
    match s.toList with
    | '-' :: cs => (parseDigits cs).map fun n => -(n : ℤ)
    | '+' :: cs => (parseDigits cs).map fun n => (n : ℤ)
    | cs => (parseDigits cs).map fun n => (n : ℤ)
  value.filter fun n => minInt64 ≤ n ∧ n ≤ maxInt64

theorem parseDigits_of_isDigit {cs : List Char} (hne : cs ≠ [])
    (h : ∀ c ∈ cs, c.isDigit = true) : parseDigits cs = some (Nat.ofDigitChars 10 cs 0) := by
  have hfold : ∀ acc : ℕ, cs.foldl (fun acc c => acc.bind fun n =>
      if c.isDigit then some (10 * n + (c.toNat - '0'.toNat)) else none) (some acc) =
        some (Nat.ofDigitChars 10 cs acc) := by
    clear hne
    induction cs with
    | nil => simp
    | cons c cs ih =>
      intro acc
      rw [List.forall_mem_cons] at h
      rw [List.foldl_cons, Option.bind_some, if_pos h.1, ih h.2, Nat.ofDigitChars_cons]
  cases cs with
  | nil => exact absurd rfl hne
  | cons c cs => exact hfold 0

theorem parseDigits_toDigits (n : ℕ) : parseDigits (Nat.toDigits 10 n) = some n := by
  rw [parseDigits_of_isDigit Nat.toDigits_ne_nil fun c hc =>
    Nat.isDigit_of_mem_toDigits (by decide) (by decide) hc, Nat.ofDigitChars_ten_toDigits]

theorem parseInt_of_digits {s : String} (h : ∀ c ∈ s.toList, c.isDigit = true) :
    parseInt s = ((parseDigits s.toList).map fun n => (n : ℤ)).filter
      fun n => minInt64 ≤ n ∧ n ≤ maxInt64 := by
  unfold parseInt
  cases hs : s.toList with
  | nil => rfl
  | cons c cs =>
    rw [hs, List.forall_mem_cons] at h
    have hminus : c ≠ '-' := fun hc => absurd h.1 (by rw [hc]; decide)
    have hplus : c ≠ '+' := fun hc => absurd h.1 (by rw [hc]; decide)
    simp [hminus, hplus]

theorem toList_formatInt_negSucc (m : ℕ) :
    (formatInt (.negSucc m)).toList = '-' :: Nat.toDigits 10 (m + 1) := by
  change ("-" ++ Nat.repr (m + 1)).toList = _
  rw [String.toList_append, Nat.toList_repr]
  rfl

theorem parseInt_formatInt {n : ℤ} (hmin : minInt64 ≤ n) (hmax : n ≤ maxInt64) :
    parseInt (formatInt n) = some n := by
  have hrange : minInt64 ≤ n ∧ n ≤ maxInt64 := ⟨hmin, hmax⟩
  cases n with
  | ofNat m =>
    have hlist : (formatInt (.ofNat m)).toList = Nat.toDigits 10 m := Nat.toList_repr
    rw [parseInt_of_digits, hlist, parseDigits_toDigits]
    · exact Option.filter_eq_some_iff.mpr ⟨rfl, decide_eq_true hrange⟩
    · intro c hc
      rw [hlist] at hc
      exact Nat.isDigit_of_mem_toDigits (by decide) (by decide) hc
  | negSucc m =>
    unfold parseInt
    simp only [toList_formatInt_negSucc, parseDigits_toDigits]
    exact Option.filter_eq_some_iff.mpr ⟨rfl, decide_eq_true hrange⟩

theorem formatInt_ne_empty (n : ℤ) : formatInt n ≠ "" := by
  change Int.repr n ≠ ""
  cases n with
  | ofNat m =>
    intro h
    have hlist := congrArg String.toList h
    rw [Int.repr, Nat.toList_repr] at hlist
    exact Nat.toDigits_ne_nil hlist
  | negSucc m =>
    intro h
    have hlist := congrArg String.toList h
    rw [Int.repr, String.toList_append] at hlist
    exact absurd hlist (by simp)

section BaseZero

/-- An optional sign: whether it is a minus, and what follows. -/
def splitSign : List Char → Bool × List Char
  | '-' :: cs => (true, cs)
  | '+' :: cs => (false, cs)
  | cs => (false, cs)

/-- The base that the first characters choose: whether it is by a letter, the base, and the
digits that remain. -/
def splitBase : List Char → Bool × ℕ × List Char
  | '0' :: c :: d :: ds =>
    if c.toLower = 'b' then (true, 2, d :: ds)
    else if c.toLower = 'o' then (true, 8, d :: ds)
    else if c.toLower = 'x' then (true, 16, d :: ds)
    else (false, 8, c :: d :: ds)
  | '0' :: ds => (false, 8, ds)
  | ds => (false, 10, ds)

def digitValue (c : Char) : Option ℕ :=
  if c.isDigit then some (c.toNat - '0'.toNat)
  else if c.isAlpha then some (c.toLower.toNat - 'a'.toNat + 10)
  else none

/-- Digits of a base, with underscores skipped. -/
def parseInBase (base : ℕ) (cs : List Char) : Option ℕ :=
  cs.foldlM (fun n c =>
    if c = '_' then some n
    else ((digitValue c).filter (· < base)).map (base * n + ·)) 0

/-- `underscoreOK` on digits: every underscore stands between two of them, where a base
chosen by a letter counts as one. -/
def separated : Bool → List Char → Bool
  | afterDigit, [] => afterDigit
  | afterDigit, c :: cs => if c = '_' then afterDigit && separated false cs else separated true cs

/-- `strconv.ParseUint(s, 0, 64)`, up to the range. -/
def parseMagnitude (s : List Char) : Option ℕ :=
  let (lettered, base, digits) := splitBase s
  if s ≠ [] ∧ separated lettered (if lettered then digits else s) then parseInBase base digits
  else none

/-- `strconv.ParseInt(s, 0, 64)`. -/
def parseIntBaseZero (s : String) : Option ℤ :=
  let (neg, magnitude) := splitSign s.toList
  ((parseMagnitude magnitude).map fun n => if neg then -(n : ℤ) else (n : ℤ)).filter
    fun n => minInt64 ≤ n ∧ n ≤ maxInt64

@[simp] theorem splitSign_minus (cs : List Char) : splitSign ('-' :: cs) = (true, cs) := rfl

theorem splitSign_of_ne {c : Char} {cs : List Char} (hminus : c ≠ '-') (hplus : c ≠ '+') :
    splitSign (c :: cs) = (false, c :: cs) := by
  simp [splitSign, hminus, hplus]

theorem splitBase_of_ne {c : Char} {cs : List Char} (hc : c ≠ '0') :
    splitBase (c :: cs) = (false, 10, c :: cs) := by
  unfold splitBase
  split
  · next h => exact absurd (List.cons.inj h).1 hc
  · next h => exact absurd (List.cons.inj h).1 hc
  · rfl

theorem ne_underscore_of_isDigit {c : Char} (hc : c.isDigit = true) : c ≠ '_' := by
  rintro rfl
  exact absurd hc (by decide)

theorem separated_of_isDigit {cs : List Char} (h : ∀ c ∈ cs, c.isDigit = true) :
    separated true cs = true := by
  induction cs with
  | nil => rfl
  | cons c cs ih =>
    rw [List.forall_mem_cons] at h
    rw [separated, if_neg (ne_underscore_of_isDigit h.1), ih h.2]

theorem parseInBase_ten {cs : List Char} (h : ∀ c ∈ cs, c.isDigit = true) :
    parseInBase 10 cs = some (Nat.ofDigitChars 10 cs 0) := by
  unfold parseInBase
  generalize 0 = acc
  induction cs generalizing acc with
  | nil => rfl
  | cons c cs ih =>
    rw [List.forall_mem_cons] at h
    have hvalue : digitValue c = some (c.toNat - '0'.toNat) := if_pos h.1
    have hlt : c.toNat - '0'.toNat < 10 := by
      have hrange := Char.isDigit_iff_toNat.mp h.1
      simp only [Char.reduceToNat] at hrange ⊢
      omega
    rw [List.foldlM_cons, if_neg (ne_underscore_of_isDigit h.1), hvalue,
      Option.filter_some_pos (by simpa using hlt), Nat.ofDigitChars_cons, ← ih h.2]
    rfl

theorem toDigits_ne_zero_cons {n : ℕ} (hn : 0 < n) (cs : List Char) :
    Nat.toDigits 10 n ≠ '0' :: cs := by
  induction n using Nat.strongRecOn generalizing cs with
  | ind n ih =>
    intro h
    by_cases hlt : n < 10
    · rw [Nat.toDigits_of_lt_base hlt] at h
      have hchar : n.digitChar = '0' := (List.cons.inj h).1
      interval_cases n <;> exact absurd hchar (by decide)
    · rw [Nat.toDigits_of_base_le (by decide) (by omega)] at h
      obtain ⟨c, ds, hc⟩ := List.exists_cons_of_ne_nil (Nat.toDigits_ne_nil (n := n / 10) (b := 10))
      rw [hc, List.cons_append] at h
      exact ih (n / 10) (by omega) (by omega) ds (by rw [hc, (List.cons.inj h).1])

theorem parseMagnitude_toDigits (m : ℕ) : parseMagnitude (Nat.toDigits 10 m) = some m := by
  rcases Nat.eq_zero_or_pos m with rfl | hm
  · decide
  · have hdigits : ∀ c ∈ Nat.toDigits 10 m, c.isDigit = true := fun c hc =>
      Nat.isDigit_of_mem_toDigits (by decide) (by decide) hc
    have hvalue := parseInBase_ten hdigits
    rw [Nat.ofDigitChars_ten_toDigits] at hvalue
    obtain ⟨c, cs, hc⟩ := List.exists_cons_of_ne_nil (Nat.toDigits_ne_nil (n := m) (b := 10))
    have hzero : c ≠ '0' := by
      rintro rfl
      exact toDigits_ne_zero_cons hm cs hc
    rw [hc, List.forall_mem_cons] at hdigits
    have hseparated : separated false (c :: cs) = true := by
      rw [separated, if_neg (ne_underscore_of_isDigit hdigits.1), separated_of_isDigit hdigits.2]
    rw [hc] at hvalue ⊢
    unfold parseMagnitude
    rw [splitBase_of_ne hzero]
    simp only [Bool.false_eq_true, if_false]
    rw [if_pos ⟨List.cons_ne_nil c cs, hseparated⟩, hvalue]

/-- What is written in decimal is read back where the base is left to the text. -/
theorem parseIntBaseZero_formatInt {n : ℤ} (hmin : minInt64 ≤ n) (hmax : n ≤ maxInt64) :
    parseIntBaseZero (formatInt n) = some n := by
  have hrange : minInt64 ≤ n ∧ n ≤ maxInt64 := ⟨hmin, hmax⟩
  unfold parseIntBaseZero
  cases n with
  | ofNat m =>
    have hlist : (formatInt (.ofNat m)).toList = Nat.toDigits 10 m := Nat.toList_repr
    have hunsigned : splitSign (Nat.toDigits 10 m) = (false, Nat.toDigits 10 m) := by
      obtain ⟨c, cs, hc⟩ := List.exists_cons_of_ne_nil (Nat.toDigits_ne_nil (n := m) (b := 10))
      have hdigit : c.isDigit = true := Nat.isDigit_of_mem_toDigits (by decide) (by decide)
        (hc ▸ List.mem_cons_self)
      rw [hc]
      refine splitSign_of_ne ?_ ?_
      · rintro rfl
        exact absurd hdigit (by decide)
      · rintro rfl
        exact absurd hdigit (by decide)
    rw [hlist, hunsigned]
    simp only [parseMagnitude_toDigits]
    exact Option.filter_eq_some_iff.mpr ⟨rfl, decide_eq_true hrange⟩
  | negSucc m =>
    rw [toList_formatInt_negSucc, splitSign_minus]
    simp only [parseMagnitude_toDigits]
    exact Option.filter_eq_some_iff.mpr ⟨rfl, decide_eq_true hrange⟩

end BaseZero

/-- `strconv.ParseBool`. -/
def parseBool (s : String) : Option Bool :=
  if s ∈ ["1", "t", "T", "true", "TRUE", "True"] then some true
  else if s ∈ ["0", "f", "F", "false", "FALSE", "False"] then some false
  else none

end GoStrconv
