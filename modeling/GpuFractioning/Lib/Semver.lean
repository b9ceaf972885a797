import GpuFractioning.Lib.GoStrconv

/-!
# Semantic versions

The functions of the Go package `golang.org/x/mod/semver`: a version is a
leading `v` and one to three numbers, the last of three with an optional
prerelease and an optional build suffix.
-/

namespace Semver

structure Version where
  major : ℕ
  minor : ℕ
  patch : ℕ
  /-- What a shorthand leaves out. -/
  short : List Char
  prerelease : List (List Char)
  build : List Char
  deriving DecidableEq, Repr

/-- A number without leading zeros, and what follows it. -/
def parseNumber (l : List Char) : Option (ℕ × List Char) :=
  let digits := l.takeWhile Char.isDigit
  if digits = [] ∨ (digits.head? = some '0' ∧ digits ≠ ['0']) then none
  else some (digits.foldl (fun n c => 10 * n + (c.toNat - '0'.toNat)) 0, l.dropWhile Char.isDigit)

def isIdentChar (c : Char) : Bool := c.isAlphanum || c = '-'

def isNum (ident : List Char) : Bool := ident.all Char.isDigit

/-- A numeric identifier with a leading zero. -/
def isBadNum (ident : List Char) : Bool :=
  isNum ident && ident.length > 1 && ident.head? = some '0'

/-- Dot-separated identifiers up to the first `+`, and what follows them. -/
def parsePrerelease (l : List Char) : Option (List (List Char) × List Char) :=
  let idents := (l.takeWhile (· ≠ '+')).splitOn '.'
  if idents.all fun ident => ident ≠ [] && ident.all isIdentChar && !isBadNum ident then
    some (idents, l.dropWhile (· ≠ '+'))
  else none

def validBuild (l : List Char) : Bool :=
  (l.splitOn '.').all fun ident => ident ≠ [] && ident.all isIdentChar

/-- The suffixes of a version with all three numbers. -/
def parseSuffix (major minor patch : ℕ) (l : List Char) : Option Version := do
  let (prerelease, l) ←
    match l with
    | '-' :: rest => parsePrerelease rest
    | _ => some ([], l)
  match l with
  | [] => some ⟨major, minor, patch, [], prerelease, []⟩
  | '+' :: rest =>
    if validBuild rest then some ⟨major, minor, patch, [], prerelease, '+' :: rest⟩ else none
  | _ => none

def parse (v : String) : Option Version :=
  match v.toList with
  | 'v' :: l => do
    let (major, l) ← parseNumber l
    match l with
    | [] => some ⟨major, 0, 0, ".0.0".toList, [], []⟩
    | '.' :: l =>
      let (minor, l) ← parseNumber l
      match l with
      | [] => some ⟨major, minor, 0, ".0".toList, [], []⟩
      | '.' :: l =>
        let (patch, l) ← parseNumber l
        parseSuffix major minor patch l
      | _ => none
    | _ => none
  | _ => none

/-- `semver.IsValid`. -/
def isValid (v : String) : Bool := (parse v).isSome

/-- `semver.Canonical`: shorthands are completed and the build suffix is dropped. -/
def canonical (v : String) : String :=
  match parse v with
  | none => ""
  | some p =>
    if p.build ≠ [] then String.ofList (v.toList.take (v.toList.length - p.build.length))
    else String.ofList (v.toList ++ p.short)

def compareIdent (x y : List Char) : Ordering :=
  if isNum x then
    if isNum y then (compare x.length y.length).then (compare (String.ofList x) (String.ofList y))
    else .lt
  else if isNum y then .gt
  else compare (String.ofList x) (String.ofList y)

def compareIdents : List (List Char) → List (List Char) → Ordering
  | [], [] => .eq
  | [], _ :: _ => .lt
  | _ :: _, [] => .gt
  | x :: xs, y :: ys => if x = y then compareIdents xs ys else compareIdent x y

/-- A release comes after its prereleases. -/
def comparePrerelease (x y : List (List Char)) : Ordering :=
  match x, y with
  | [], [] => .eq
  | [], _ :: _ => .gt
  | _ :: _, [] => .lt
  | x, y => compareIdents x y

/-- `semver.Compare`; an invalid version comes before every valid one. -/
def compareVersions (v w : String) : Ordering :=
  match parse v, parse w with
  | none, none => .eq
  | none, some _ => .lt
  | some _, none => .gt
  | some p, some q =>
    (compare p.major q.major).then <| (compare p.minor q.minor).then <|
      (compare p.patch q.patch).then <| comparePrerelease p.prerelease q.prerelease

example : compareVersions "v26.7.1-rc.1" "v26.7.1" = .lt := by decide

section Numbers

/-- A decimal without leading zeros. -/
structure Decimal (d : List Char) : Prop where
  nonempty : d ≠ []
  digits : ∀ c ∈ d, c.isDigit = true
  no_leading_zero : d.head? = some '0' → d = ['0']

def value (d : List Char) : ℕ := d.foldl (fun n c => 10 * n + (c.toNat - '0'.toNat)) 0

/-- The text does not begin with a digit. -/
def Stops (l : List Char) : Prop := ∀ c ∈ l.head?, c.isDigit = false

theorem Stops.takeWhile {l : List Char} (h : Stops l) : l.takeWhile Char.isDigit = [] := by
  cases l with
  | nil => rfl
  | cons c l => rw [List.takeWhile_cons_of_neg (by simp [h c rfl])]

theorem Stops.dropWhile {l : List Char} (h : Stops l) : l.dropWhile Char.isDigit = l := by
  cases l with
  | nil => rfl
  | cons c l => rw [List.dropWhile_cons_of_neg (by simp [h c rfl])]

theorem stops_nil : Stops [] := by simp [Stops]

theorem stops_dot (l : List Char) : Stops ('.' :: l) := by
  intro c hc
  cases hc
  decide

theorem parseNumber_append {d rest : List Char} (hd : Decimal d) (hrest : Stops rest) :
    parseNumber (d ++ rest) = some (value d, rest) := by
  have htake : (d ++ rest).takeWhile Char.isDigit = d := by
    rw [List.takeWhile_append_of_pos hd.digits, hrest.takeWhile, List.append_nil]
  have hdrop : (d ++ rest).dropWhile Char.isDigit = rest := by
    rw [List.dropWhile_append_of_pos hd.digits, hrest.dropWhile]
  have hgood : ¬ (d = [] ∨ (d.head? = some '0' ∧ d ≠ ['0'])) := by
    rintro (hempty | ⟨hzero, hne⟩)
    · exact hd.nonempty hempty
    · exact hne (hd.no_leading_zero hzero)
  simp only [parseNumber, htake, hdrop, hgood, if_false, value]

theorem parseNumber_eq_some {l rest : List Char} {n : ℕ} (h : parseNumber l = some (n, rest)) :
    ∃ d, Decimal d ∧ Stops rest ∧ l = d ++ rest ∧ n = value d := by
  simp only [parseNumber] at h
  split_ifs at h with hbad
  simp only [Option.some.injEq, Prod.mk.injEq] at h
  obtain ⟨rfl, rfl⟩ := h
  simp only [not_or, not_and, not_not] at hbad
  refine ⟨l.takeWhile Char.isDigit, ⟨hbad.1, ?_, hbad.2⟩, ?_,
    List.takeWhile_append_dropWhile.symm, rfl⟩
  · intro c hc
    exact List.mem_takeWhile_imp hc
  · intro c hc
    cases hl : l.dropWhile Char.isDigit with
    | nil => simp [hl] at hc
    | cons c' l' =>
      rw [hl] at hc
      cases hc
      have hnot := List.head_dropWhile_not Char.isDigit (l := l) (by simp [hl])
      simpa [hl] using hnot

end Numbers

section Shape

/-- A version with all three numbers and no suffix. -/
def release (d₁ d₂ d₃ : List Char) : List Char := 'v' :: (d₁ ++ '.' :: (d₂ ++ '.' :: d₃))

/-- The grammar of the versions. -/
inductive Shape : List Char → Version → Prop
  | major {d₁} (h₁ : Decimal d₁) : Shape ('v' :: d₁) ⟨value d₁, 0, 0, ".0.0".toList, [], []⟩
  | minor {d₁ d₂} (h₁ : Decimal d₁) (h₂ : Decimal d₂) :
      Shape ('v' :: (d₁ ++ '.' :: d₂)) ⟨value d₁, value d₂, 0, ".0".toList, [], []⟩
  | full {d₁ d₂ d₃ suffix p} (h₁ : Decimal d₁) (h₂ : Decimal d₂) (h₃ : Decimal d₃)
      (hstops : Stops suffix)
      (hsuffix : parseSuffix (value d₁) (value d₂) (value d₃) suffix = some p) :
      Shape (release d₁ d₂ d₃ ++ suffix) p

theorem parse_of_shape {v : String} {p : Version} (h : Shape v.toList p) : parse v = some p := by
  unfold parse
  generalize v.toList = l at h
  cases h with
  | major h₁ =>
    have hone := parseNumber_append h₁ stops_nil
    rw [List.append_nil] at hone
    simp [hone]
  | minor h₁ h₂ =>
    have htwo := parseNumber_append h₂ stops_nil
    rw [List.append_nil] at htwo
    simp [parseNumber_append h₁ (stops_dot _), htwo]
  | full h₁ h₂ h₃ hstops hsuffix =>
    simp [release, parseNumber_append h₁ (stops_dot _), parseNumber_append h₂ (stops_dot _),
      parseNumber_append h₃ hstops, hsuffix]

theorem shape_of_parse {v : String} {p : Version} (h : parse v = some p) : Shape v.toList p := by
  unfold parse at h
  split at h
  · next l hl =>
    rw [hl]
    obtain ⟨⟨major, l₁⟩, hmajor, h⟩ := Option.bind_eq_some_iff.mp h
    obtain ⟨d₁, h₁, hstops₁, rfl, rfl⟩ := parseNumber_eq_some hmajor
    dsimp only at h
    split at h
    · cases h
      rw [List.append_nil]
      exact .major h₁
    · next l₁ =>
      obtain ⟨⟨minor, l₂⟩, hminor, h⟩ := Option.bind_eq_some_iff.mp h
      obtain ⟨d₂, h₂, hstops₂, rfl, rfl⟩ := parseNumber_eq_some hminor
      dsimp only at h
      split at h
      · cases h
        rw [List.append_nil]
        exact .minor h₁ h₂
      · next l₂ =>
        obtain ⟨⟨patch, l₃⟩, hpatch, h⟩ := Option.bind_eq_some_iff.mp h
        obtain ⟨d₃, h₃, hstops₃, rfl, rfl⟩ := parseNumber_eq_some hpatch
        have hshape := Shape.full h₁ h₂ h₃ hstops₃ h
        simpa [release] using hshape
      · cases h
    · cases h
  · cases h

theorem parsePrerelease_length {l rest : List Char} {idents : List (List Char)}
    (h : parsePrerelease l = some (idents, rest)) : rest.length ≤ l.length := by
  simp only [parsePrerelease] at h
  split_ifs at h
  cases h
  exact (List.dropWhile_suffix _).length_le

theorem parseSuffix_end {major minor patch : ℕ} {prerelease : List (List Char)} {l : List Char}
    {p : Version}
    (h : (match l with
      | [] => some (⟨major, minor, patch, [], prerelease, []⟩ : Version)
      | '+' :: rest =>
        if validBuild rest then some ⟨major, minor, patch, [], prerelease, '+' :: rest⟩ else none
      | _ => none) = some p) :
    p = ⟨major, minor, patch, [], prerelease, l⟩ ∧ (l = [] ∨ ∃ rest, l = '+' :: rest) := by
  split at h
  · cases h
    exact ⟨rfl, .inl rfl⟩
  · next rest =>
    split_ifs at h
    cases h
    exact ⟨rfl, .inr ⟨rest, rfl⟩⟩
  · cases h

/-- A suffix keeps the numbers. It is empty, or begins with a character that no number has and
holds the build part. -/
theorem parseSuffix_eq_some {major minor patch : ℕ} {suffix : List Char} {p : Version}
    (h : parseSuffix major minor patch suffix = some p) :
    (p.major, p.minor, p.patch) = (major, minor, patch) ∧ p.short = [] ∧
      p.build.length ≤ suffix.length ∧
      (suffix = [] ∧ p.prerelease = [] ∨
        ∃ c rest, suffix = c :: rest ∧ (c = '-' ∨ c = '+')) := by
  unfold parseSuffix at h
  split at h
  · next rest =>
    obtain ⟨⟨prerelease, l⟩, hpre, h⟩ := Option.bind_eq_some_iff.mp h
    obtain ⟨rfl, -⟩ := parseSuffix_end h
    have hlength := parsePrerelease_length hpre
    refine ⟨rfl, rfl, ?_, .inr ⟨'-', rest, rfl, .inl rfl⟩⟩
    simp only [List.length_cons]
    omega
  · obtain ⟨rfl, hl⟩ := parseSuffix_end h
    refine ⟨rfl, rfl, le_rfl, ?_⟩
    rcases hl with rfl | ⟨rest, rfl⟩
    · exact .inl ⟨rfl, rfl⟩
    · exact .inr ⟨'+', rest, rfl, .inr rfl⟩

end Shape

section Canonical

/-- The three numbers of a version. -/
def Version.numbers (p : Version) : ℕ × ℕ × ℕ := (p.major, p.minor, p.patch)

/-- The text is empty or begins like a prerelease or build suffix. -/
def SuffixLike (l : List Char) : Prop := l = [] ∨ ∃ c rest, l = c :: rest ∧ (c = '-' ∨ c = '+')

theorem SuffixLike.of_prefix {l l' : List Char} (h : SuffixLike l') (hpre : l <+: l') :
    SuffixLike l := by
  cases l with
  | nil => exact .inl rfl
  | cons c rest =>
    right
    rcases h with rfl | ⟨c', rest', rfl, hc⟩
    · simp at hpre
    · rw [List.cons_prefix_cons] at hpre
      exact ⟨c, rest, rfl, hpre.1 ▸ hc⟩

theorem decimal_zero : Decimal ['0'] where
  nonempty := List.cons_ne_nil _ _
  digits := by simp
  no_leading_zero := fun _ => rfl

/-- The canonical form spells out the three numbers, and what it keeps after them is the
beginning of the suffix. -/
theorem canonical_eq {v : String} {p : Version} (h : parse v = some p) :
    ∃ d₁ d₂ d₃ rest, Decimal d₁ ∧ Decimal d₂ ∧ Decimal d₃ ∧
      p.numbers = (value d₁, value d₂, value d₃) ∧ SuffixLike rest ∧
      (canonical v).toList = release d₁ d₂ d₃ ++ rest ∧
      (('-' ∉ v.toList ∧ '+' ∉ v.toList) → rest = []) := by
  have hshape := shape_of_parse h
  simp only [canonical, h]
  generalize v.toList = l at hshape ⊢
  cases hshape with
  | major h₁ =>
    exact ⟨_, ['0'], ['0'], [], h₁, decimal_zero, decimal_zero, rfl, .inl rfl,
      by simp [release], fun _ => rfl⟩
  | minor h₁ h₂ =>
    exact ⟨_, _, ['0'], [], h₁, h₂, decimal_zero, rfl, .inl rfl, by simp [release], fun _ => rfl⟩
  | @full d₁ d₂ d₃ suffix _ h₁ h₂ h₃ hstops hsuffix =>
    obtain ⟨hnumbers, hshort, hbuild, hlike⟩ := parseSuffix_eq_some hsuffix
    have hlike' : SuffixLike suffix := hlike.imp_left fun hnil => hnil.1
    refine ⟨d₁, d₂, d₃, suffix.take (suffix.length - p.build.length), h₁, h₂, h₃, hnumbers,
      hlike'.of_prefix (List.take_prefix _ _), ?_, ?_⟩
    · split_ifs with hno
      · have hlength : (release d₁ d₂ d₃ ++ suffix).length - p.build.length =
            (release d₁ d₂ d₃).length + (suffix.length - p.build.length) := by
          rw [List.length_append]
          omega
        rw [String.toList_ofList, hlength, List.take_length_add_append]
      · have hempty : p.build = [] := by simpa using hno
        simp [hshort, hempty]
    · rintro ⟨hminus, hplus⟩
      rcases hlike' with rfl | ⟨c, rest, rfl, rfl | rfl⟩
      · exact List.take_nil
      · exact absurd (by simp) hminus
      · exact absurd (by simp) hplus

theorem parse_release {v : String} {d₁ d₂ d₃ : List Char} (h₁ : Decimal d₁) (h₂ : Decimal d₂)
    (h₃ : Decimal d₃) (hv : v.toList = release d₁ d₂ d₃) :
    parse v = some ⟨value d₁, value d₂, value d₃, [], [], []⟩ := by
  apply parse_of_shape
  rw [hv, ← List.append_nil (release d₁ d₂ d₃)]
  exact .full h₁ h₂ h₃ stops_nil rfl

theorem Decimal.not_mem {d : List Char} {c : Char} (hd : Decimal d) (hc : c.isDigit = false) :
    c ∉ d := by
  intro hmem
  rw [hd.digits c hmem] at hc
  cases hc

theorem not_mem_release {d₁ d₂ d₃ : List Char} {c : Char} (h₁ : Decimal d₁) (h₂ : Decimal d₂)
    (h₃ : Decimal d₃) (hdigit : c.isDigit = false) (hv : c ≠ 'v') (hdot : c ≠ '.') :
    c ∉ release d₁ d₂ d₃ := by
  simp only [release, List.mem_cons, List.mem_append, not_or]
  exact ⟨hv, h₁.not_mem hdigit, hdot, h₂.not_mem hdigit, hdot, h₃.not_mem hdigit⟩

/-- Lexicographic order of the numbers. -/
def Below : ℕ × ℕ × ℕ → ℕ × ℕ × ℕ → Prop := Prod.Lex (· < ·) (Prod.Lex (· < ·) (· < ·))

theorem compareVersions_lt_iff {v w : String} {p q : Version} (hv : parse v = some p)
    (hw : parse w = some q) (hp : p.prerelease = []) (hq : q.prerelease = []) :
    compareVersions v w = .lt ↔ Below p.numbers q.numbers := by
  simp only [compareVersions, hv, hw, hp, hq, comparePrerelease, Below, Version.numbers,
    Prod.lex_def, Ordering.then_eq_lt, Nat.compare_eq_lt, Nat.compare_eq_eq, reduceCtorEq,
    and_false, or_false]

end Canonical

end Semver
