import Mathlib.Data.List.DropRight
import Mathlib.Tactic

/-!
# String functions of the Go standard library

The functions of the packages `strings` and `unicode` that the modelled
programs call, over Lean's strings. Each is written on the list of
characters; the lemmas say when a normalisation leaves its argument alone and
how prefixes and suffixes are recovered.
-/

namespace GoString

/-- `unicode.IsSpace`. -/
def isSpace (c : Char) : Bool :=
  c.toNat ∈ [0x09, 0x0A, 0x0B, 0x0C, 0x0D, 0x20, 0x85, 0xA0, 0x1680, 0x2028, 0x2029, 0x202F,
    0x205F, 0x3000] || (0x2000 ≤ c.toNat && c.toNat ≤ 0x200A)

def trimChars (p : Char → Bool) (l : List Char) : List Char := (l.dropWhile p).rdropWhile p

/-- `strings.TrimSpace`. -/
def trimSpace (s : String) : String := String.ofList (trimChars isSpace s.toList)

/-- `strings.Trim` with a cutset of one character. -/
def trim (c : Char) (s : String) : String := String.ofList (trimChars (· == c) s.toList)

/-- `strings.TrimRight` with a cutset of one character. -/
def trimRight (c : Char) (s : String) : String := String.ofList (s.toList.rdropWhile (· = c))

/-- `strings.HasPrefix`. -/
def hasPrefix (s pre : String) : Bool := pre.toList.isPrefixOf s.toList

/-- `strings.HasSuffix`. -/
def hasSuffix (s suf : String) : Bool := suf.toList.isSuffixOf s.toList

/-- `strings.TrimSuffix`. -/
def trimSuffix (s suf : String) : String :=
  if hasSuffix s suf then String.ofList (s.toList.take (s.toList.length - suf.toList.length)) else s

/-- `strings.CutPrefix`, without a text where the string does not begin so. -/
def cutPrefix (s pre : String) : Option String :=
  if hasPrefix s pre then some (String.ofList (s.toList.drop pre.toList.length)) else none

/-- `strings.CutSuffix`. -/
def cutSuffix (s suf : String) : Option String :=
  if hasSuffix s suf then some (trimSuffix s suf) else none

/-- `strings.ReplaceAll` of one character by another. -/
def replaceChar (a b : Char) (s : String) : String :=
  String.ofList (s.toList.map fun c => if c = a then b else c)

/-- `strings.Split` at a separator of one character. -/
def split (sep : Char) (s : String) : List String := (s.toList.splitOn sep).map String.ofList

/-- `strings.SplitN`: at most the given number of parts, the last of them not split. -/
def splitNList (sep : Char) : ℕ → List Char → List (List Char)
  | 0, _ => []
  | 1, l => [l]
  | n + 2, l =>
    if sep ∈ l then
      l.takeWhile (· ≠ sep) :: splitNList sep (n + 1) (l.dropWhile (· ≠ sep)).tail
    else [l]

/-- `strings.SplitN` at a separator of one character. -/
def splitN (sep : Char) (n : ℕ) (s : String) : List String :=
  (splitNList sep n s.toList).map String.ofList

/-- `s[:strings.IndexByte(s, c)]`, or `s` when `c` does not occur. -/
def before (c : Char) (s : String) : String := String.ofList (s.toList.takeWhile (· ≠ c))

/-- `strings.Contains`. -/
def contains (s sub : String) : Bool := s.toList.tails.any fun rest => sub.toList.isPrefixOf rest

/-- `strings.ReplaceAll` of a text that is not empty; `skip` characters belong to a match that
has been replaced already. -/
def replaceAllList (old new : List Char) : ℕ → List Char → List Char
  | _, [] => []
  | skip + 1, _ :: cs => replaceAllList old new skip cs
  | 0, c :: cs =>
    if old.isPrefixOf (c :: cs) then new ++ replaceAllList old new (old.length - 1) cs
    else c :: replaceAllList old new 0 cs

/-- `strings.ReplaceAll`. -/
def replaceAll (s old new : String) : String :=
  String.ofList (replaceAllList old.toList new.toList 0 s.toList)

/-- `strings.Replace` of the first occurrence only. -/
def replaceFirstList (old new : List Char) : List Char → List Char
  | [] => []
  | c :: cs =>
    if old.isPrefixOf (c :: cs) then new ++ (c :: cs).drop old.length
    else c :: replaceFirstList old new cs

/-- `strings.Replace(s, old, new, 1)`. -/
def replaceFirst (s old new : String) : String :=
  String.ofList (replaceFirstList old.toList new.toList s.toList)

/-- `strings.Count` of a text that is not empty, with `skip` as for `ReplaceAll`. -/
def countList (sub : List Char) : ℕ → List Char → ℕ
  | _, [] => 0
  | skip + 1, _ :: cs => countList sub skip cs
  | 0, c :: cs =>
    if sub.isPrefixOf (c :: cs) then countList sub (sub.length - 1) cs + 1
    else countList sub 0 cs

/-- `strings.Count`. -/
def count (s sub : String) : ℕ := countList sub.toList 0 s.toList

/-- `unicode.ToUpper`, on the characters whose upper case is an ASCII letter. -/
def toUpperChar (c : Char) : Char :=
  if c = 'ı' then 'I' else if c = 'ſ' then 'S' else c.toUpper

/-- `strings.ToUpper`, up to characters whose upper case is not ASCII. -/
def toUpper (s : String) : String := String.ofList (s.toList.map toUpperChar)

/-- `strings.EqualFold` against a text of ASCII letters other than `k` and `s`, the
two that also fold to characters outside ASCII. -/
def equalFold (s t : String) : Bool := s.toList.map Char.toLower = t.toList.map Char.toLower

/-- What follows the last occurrence of `sep`, which is not empty. -/
def afterLastList (sep : List Char) : List Char → Option (List Char)
  | [] => none
  | c :: cs =>
    match afterLastList sep cs with
    | some r => some r
    | none => if sep.isPrefixOf (c :: cs) then some ((c :: cs).drop sep.length) else none

/-- `s[strings.LastIndex(s, sep)+len(sep):]`, or `s` when `sep` does not occur. -/
def afterLast (sep s : String) : String :=
  match afterLastList sep.toList s.toList with
  | some r => String.ofList r
  | none => s

theorem contains_iff {s sub : String} : contains s sub = true ↔ sub.toList <:+: s.toList := by
  simp only [contains, List.any_eq_true, List.mem_tails, List.isPrefixOf_iff_prefix,
    List.infix_iff_prefix_suffix]
  exact exists_congr fun rest => and_comm

theorem split_intercalate {sep : Char} {parts : List String} (hne : parts ≠ [])
    (hparts : ∀ part ∈ parts, sep ∉ part.toList) :
    split sep ((String.singleton sep).intercalate parts) = parts := by
  have hsplit : ([sep].intercalate (parts.map String.toList)).splitOn sep =
      parts.map String.toList := by
    apply List.splitOn_intercalate
    · simpa using hparts
    · simpa using hne
  rw [split, String.toList_intercalate, String.toList_singleton, hsplit, List.map_map]
  simp [Function.comp_def]

theorem splitNList_append_sep {sep : Char} {part : List Char} (hpart : sep ∉ part) (n : ℕ)
    (rest : List Char) :
    splitNList sep (n + 2) (part ++ sep :: rest) = part :: splitNList sep (n + 1) rest := by
  have htake : (part ++ sep :: rest).takeWhile (· ≠ sep) = part := by
    rw [List.takeWhile_append_of_pos (by simpa using fun c hc => ne_of_mem_of_not_mem hc hpart)]
    simp
  have hdrop : (part ++ sep :: rest).dropWhile (· ≠ sep) = sep :: rest := by
    rw [List.dropWhile_append_of_pos (by simpa using fun c hc => ne_of_mem_of_not_mem hc hpart)]
    simp
  rw [splitNList, if_pos (by simp), htake, hdrop, List.tail_cons]

theorem length_splitNList_le (sep : Char) (n : ℕ) (l : List Char) :
    (splitNList sep n l).length ≤ l.count sep + 1 := by
  induction n generalizing l with
  | zero => simp [splitNList]
  | succ n ih =>
    cases n with
    | zero => simp [splitNList]
    | succ n =>
      by_cases hsep : sep ∈ l
      · obtain ⟨part, rest, rfl, hpart⟩ := List.eq_append_cons_of_mem hsep
        rw [splitNList_append_sep hpart, List.length_cons, List.count_append,
          List.count_cons_self]
        have := ih rest
        omega
      · simp [splitNList, hsep]

theorem trimChars_eq_of_length (p : Char → Bool) {l : List Char}
    (h : l.length ≤ (trimChars p l).length) : trimChars p l = l := by
  have hpre : trimChars p l <+: l.dropWhile p := List.rdropWhile_prefix _ _
  have hsuf : l.dropWhile p <:+ l := List.dropWhile_suffix p
  have hd : l.dropWhile p = l := hsuf.eq_of_length
    (le_antisymm hsuf.length_le (h.trans hpre.length_le))
  have ht : trimChars p l = l.dropWhile p := hpre.eq_of_length
    (le_antisymm hpre.length_le (hsuf.length_le.trans h))
  rw [ht, hd]

theorem trimChars_eq_self (p : Char → Bool) {l : List Char} (h : ∀ c ∈ l, p c = false) :
    trimChars p l = l := by
  have hd : l.dropWhile p = l := by
    cases l with
    | nil => rfl
    | cons c cs => simp [h c (by simp)]
  rw [trimChars, hd, List.rdropWhile_eq_self_iff]
  intro hl
  simp [h _ (List.getLast_mem hl)]

theorem trimChars_trimChars (p : Char → Bool) (l : List Char) :
    trimChars p (trimChars p l) = trimChars p l := by
  have hd : (trimChars p l).dropWhile p = trimChars p l := by
    have hpre : trimChars p l <+: l.dropWhile p := List.rdropWhile_prefix _ _
    cases htrim : trimChars p l with
    | nil => rfl
    | cons c cs =>
      rw [htrim] at hpre
      obtain ⟨rest, hrest⟩ := hpre
      have hhead := List.head?_dropWhile_not p l
      rw [← hrest] at hhead
      exact List.dropWhile_cons_of_neg (by simpa using hhead)
  rw [trimChars, hd, trimChars, List.rdropWhile_idempotent]

theorem trimSpace_trimSpace (s : String) : trimSpace (trimSpace s) = trimSpace s := by
  simp [trimSpace, trimChars_trimChars]

section Trim

variable {p : Char → Bool} {word : List Char}

theorem infix_dropWhile_iff (hne : word ≠ []) (hword : ∀ c ∈ word, p c = false) (l : List Char) :
    word <:+: l.dropWhile p ↔ word <:+: l := by
  induction l with
  | nil => rfl
  | cons c l ih =>
    by_cases hc : p c = true
    · rw [List.dropWhile_cons_of_pos hc, ih, List.infix_cons_iff]
      constructor
      · exact Or.inr
      · rintro (hpre | hin)
        · obtain ⟨d, word, rfl⟩ := List.exists_cons_of_ne_nil hne
          obtain ⟨rfl, -⟩ := List.cons_prefix_cons.mp hpre
          rw [hword d List.mem_cons_self] at hc
          cases hc
        · exact hin
    · rw [List.dropWhile_cons_of_neg hc]

theorem infix_rdropWhile_iff (hne : word ≠ []) (hword : ∀ c ∈ word, p c = false)
    (l : List Char) : word <:+: l.rdropWhile p ↔ word <:+: l := by
  rw [List.rdropWhile, ← List.reverse_infix, List.reverse_reverse,
    infix_dropWhile_iff (by simpa using hne) (by simpa using hword), List.reverse_infix]

theorem infix_trimChars_iff (hne : word ≠ []) (hword : ∀ c ∈ word, p c = false)
    (l : List Char) : word <:+: trimChars p l ↔ word <:+: l := by
  rw [trimChars, infix_rdropWhile_iff hne hword, infix_dropWhile_iff hne hword]

theorem rdropWhile_append_cons {c : Char} (hc : p c = false) (l rest : List Char) :
    (l ++ c :: rest).rdropWhile p = l ++ c :: rest.rdropWhile p := by
  induction rest using List.reverseRecOn with
  | nil => exact List.rdropWhile_concat_neg p l c (by simp [hc])
  | append_singleton rest d ih =>
    rw [← List.cons_append, ← List.append_assoc]
    by_cases hd : p d = true
    · rw [List.rdropWhile_concat_pos _ _ _ hd, List.rdropWhile_concat_pos _ _ _ hd, ih]
    · rw [List.rdropWhile_concat_neg _ _ _ hd, List.rdropWhile_concat_neg _ _ _ hd]
      simp

theorem getLast?_rdropWhile_ne {c : Char} (hc : p c = true) (l : List Char) :
    (l.rdropWhile p).getLast? ≠ some c := by
  intro h
  have hne : l.rdropWhile p ≠ [] := by
    rintro hnil
    rw [hnil] at h
    cases h
  rw [List.getLast?_eq_some_getLast hne, Option.some.injEq] at h
  exact List.rdropWhile_last_not p l hne (h ▸ hc)

theorem trimChars_append_cons {c : Char} (hc : p c = false) (l rest : List Char) :
    trimChars p (l ++ c :: rest) = l.dropWhile p ++ c :: rest.rdropWhile p := by
  have hdrop : (l ++ c :: rest).dropWhile p = l.dropWhile p ++ c :: rest := by
    induction l with
    | nil => exact List.dropWhile_cons_of_neg (by simp [hc])
    | cons d l ih =>
      by_cases hd : p d = true
      · rw [List.cons_append, List.dropWhile_cons_of_pos hd, List.dropWhile_cons_of_pos hd, ih]
      · rw [List.cons_append, List.dropWhile_cons_of_neg hd, List.dropWhile_cons_of_neg hd,
          List.cons_append]
  rw [trimChars, hdrop, rdropWhile_append_cons hc]

end Trim

theorem afterLastList_length_le {sep l r : List Char} (h : afterLastList sep l = some r) :
    r.length + sep.length ≤ l.length := by
  induction l with
  | nil => simp [afterLastList] at h
  | cons c cs ih =>
    simp only [afterLastList] at h
    split at h
    · next r' hr =>
      cases h
      have := ih hr
      simp only [List.length_cons]
      omega
    · split at h
      · next hp =>
        cases h
        have hlen := (List.isPrefixOf_iff_prefix.mp hp).length_le
        simp only [List.length_drop]
        omega
      · cases h

theorem afterLastList_eq_none {sep l : List Char} {c : Char} (hc : c ∈ sep) (hl : c ∉ l) :
    afterLastList sep l = none := by
  induction l with
  | nil => rfl
  | cons d ds ih =>
    have hp : sep.isPrefixOf (d :: ds) = false := by
      rw [Bool.eq_false_iff, ne_eq, List.isPrefixOf_iff_prefix]
      intro h
      exact hl (h.subset hc)
    simp only [List.mem_cons, not_or] at hl
    simp [afterLastList, ih hl.2, hp]

theorem afterLast_eq_self {sep s : String} {c : Char} (hc : c ∈ sep.toList) (hs : c ∉ s.toList) :
    afterLast sep s = s := by
  simp [afterLast, afterLastList_eq_none hc hs]

theorem hasSuffix_iff {s suf : String} :
    hasSuffix s suf = true ↔ ∃ stem : String, s = stem ++ suf := by
  rw [hasSuffix, List.isSuffixOf_iff_suffix]
  constructor
  · rintro ⟨l, hl⟩
    refine ⟨String.ofList l, ?_⟩
    rw [← String.toList_inj]
    simp [hl]
  · rintro ⟨stem, rfl⟩
    exact ⟨stem.toList, by simp⟩

theorem hasPrefix_iff {s pre : String} :
    hasPrefix s pre = true ↔ ∃ rest : String, s = pre ++ rest := by
  rw [hasPrefix, List.isPrefixOf_iff_prefix]
  constructor
  · rintro ⟨l, hl⟩
    refine ⟨String.ofList l, ?_⟩
    rw [← String.toList_inj]
    simp [hl]
  · rintro ⟨rest, rfl⟩
    exact ⟨rest.toList, by simp⟩

@[simp] theorem hasSuffix_append (stem suf : String) : hasSuffix (stem ++ suf) suf = true :=
  hasSuffix_iff.mpr ⟨stem, rfl⟩

@[simp] theorem hasPrefix_append (pre rest : String) : hasPrefix (pre ++ rest) pre = true :=
  hasPrefix_iff.mpr ⟨rest, rfl⟩

@[simp] theorem trimSuffix_append (stem suf : String) : trimSuffix (stem ++ suf) suf = stem := by
  rw [trimSuffix, if_pos (hasSuffix_append stem suf), ← String.toList_inj]
  simp

@[simp] theorem cutPrefix_append (pre rest : String) : cutPrefix (pre ++ rest) pre = some rest := by
  rw [cutPrefix, if_pos (hasPrefix_append pre rest), Option.some.injEq, ← String.toList_inj]
  simp

@[simp] theorem cutSuffix_append (stem suf : String) :
    cutSuffix (stem ++ suf) suf = some stem := by
  rw [cutSuffix, if_pos (hasSuffix_append stem suf), trimSuffix_append]

theorem append_left_injective {stem stem' suf : String} (h : stem ++ suf = stem' ++ suf) :
    stem = stem' := by
  rw [← trimSuffix_append stem suf, h, trimSuffix_append]

/-- A nonempty prefix test of one character looks at the first character only. -/
theorem hasPrefix_append_of_ne_empty {s t : String} {c : Char} (hs : s ≠ "") :
    hasPrefix (s ++ t) (String.singleton c) = hasPrefix s (String.singleton c) := by
  have hl : s.toList ≠ [] := fun h => hs (String.toList_eq_nil_iff.mp h)
  cases hsl : s.toList with
  | nil => exact absurd hsl hl
  | cons d ds => simp [hasPrefix, hsl, List.isPrefixOf]

theorem takeWhile_ne_eq_iff {c : Char} {l k : List Char} (hk : c ∉ k) :
    l.takeWhile (· ≠ c) = k ↔ l = k ∨ k ++ [c] <+: l := by
  have hself : k.takeWhile (· ≠ c) = k := by
    rw [List.takeWhile_eq_self_iff]
    intro d hd
    simp only [ne_eq, decide_eq_true_eq]
    rintro rfl
    exact hk hd
  constructor
  · intro h
    have happ := List.takeWhile_append_dropWhile (p := (· ≠ c)) (l := l)
    rw [h] at happ
    cases hd : l.dropWhile (· ≠ c) with
    | nil =>
      rw [hd, List.append_nil] at happ
      exact Or.inl happ.symm
    | cons d ds =>
      have hhead := List.head?_dropWhile_not (fun d => decide (d ≠ c)) l
      rw [hd] at hhead
      have hc : d = c := by simpa using hhead
      rw [hd, hc] at happ
      exact Or.inr ⟨ds, by simpa using happ⟩
  · rintro (rfl | ⟨rest, rfl⟩)
    · exact hself
    · rw [List.append_assoc, List.takeWhile_append, hself]
      simp

/-- The part before a character is the key exactly of a bare key and of `key`,
the character and a value. -/
theorem before_eq_iff {c : Char} {s key : String} (hkey : c ∉ key.toList) :
    before c s = key ↔ s = key ∨ hasPrefix s (key ++ String.singleton c) = true := by
  rw [before, ← String.toList_inj, String.toList_ofList, takeWhile_ne_eq_iff hkey, hasPrefix,
    List.isPrefixOf_iff_prefix, ← String.toList_inj]
  simp

theorem append_separator_inj {c : Char} {a a' s s' : String} (ha : c ∉ a.toList)
    (ha' : c ∉ a'.toList) :
    a ++ String.singleton c ++ s = a' ++ String.singleton c ++ s' ↔ a = a' ∧ s = s' := by
  constructor
  · intro h
    have hbefore (part rest : String) (hpart : c ∉ part.toList) :
        before c (part ++ String.singleton c ++ rest) = part :=
      (before_eq_iff hpart).mpr (Or.inr (hasPrefix_append _ _))
    have hfirst : a = a' := by rw [← hbefore a s ha, h, hbefore a' s' ha']
    subst hfirst
    refine ⟨rfl, ?_⟩
    rw [← String.toList_inj, String.toList_append (s := a ++ _) (t := s),
      String.toList_append (s := a ++ _) (t := s')] at h
    exact String.toList_inj.mp (List.append_cancel_left h)
  · rintro ⟨rfl, rfl⟩
    rfl

theorem append_last_separator_inj {c : Char} {a a' s s' : List Char}
    (h : a ++ c :: s = a' ++ c :: s') (hs : c ∉ s) (hs' : c ∉ s') : a = a' ∧ s = s' := by
  rcases List.append_eq_append_iff.mp h with ⟨m, rfl, hm⟩ | ⟨m, rfl, hm⟩
  · cases m with
    | nil => simpa using hm
    | cons d m =>
      rw [List.cons_append, List.cons.injEq] at hm
      exact absurd (hm.2 ▸ by simp) hs
  · cases m with
    | nil => simpa using hm.symm
    | cons d m =>
      rw [List.cons_append, List.cons.injEq] at hm
      exact absurd (hm.2 ▸ by simp) hs'

/-- Two texts with a separator inside agree part by part, or one of the first parts reaches
up to a later separator of the other text. -/
theorem append_separator_cases {c : Char} {a a' s s' : String}
    (h : a ++ String.singleton c ++ s = a' ++ String.singleton c ++ s') :
    a = a' ∧ s = s' ∨
      (∃ r, a' = a ++ String.singleton c ++ r ∧ s = r ++ String.singleton c ++ s') ∨
      ∃ r, a = a' ++ String.singleton c ++ r ∧ s' = r ++ String.singleton c ++ s := by
  have hlist : a.toList ++ c :: s.toList = a'.toList ++ c :: s'.toList := by
    rw [← String.toList_inj] at h
    simpa using h
  have hoverlap {b b' u u' : String} {m : List Char} (hb : b'.toList = b.toList ++ m)
      (hm : c :: u.toList = m ++ c :: u'.toList) :
      b = b' ∧ u = u' ∨
        ∃ r, b' = b ++ String.singleton c ++ r ∧ u = r ++ String.singleton c ++ u' := by
    cases m with
    | nil =>
      rw [List.append_nil] at hb
      rw [List.nil_append, List.cons.injEq] at hm
      exact .inl ⟨String.toList_inj.mp hb.symm, String.toList_inj.mp hm.2⟩
    | cons d m =>
      rw [List.cons_append, List.cons.injEq] at hm
      obtain ⟨rfl, hu⟩ := hm
      refine .inr ⟨String.ofList m, ?_, ?_⟩
      · rw [← String.toList_inj]
        simpa using hb
      · rw [← String.toList_inj]
        simpa using hu
  rcases List.append_eq_append_iff.mp hlist with ⟨m, hm, hrest⟩ | ⟨m, hm, hrest⟩
  · rcases hoverlap hm hrest with hparts | hlonger
    · exact .inl hparts
    · exact .inr (.inl hlonger)
  · rcases hoverlap hm hrest with ⟨ha, hs⟩ | hlonger
    · exact .inl ⟨ha.symm, hs.symm⟩
    · exact .inr (.inr hlonger)

theorem exists_mem_splitOn {sep c : Char} {l : List Char} (hc : c ∈ l) (hne : c ≠ sep) :
    ∃ part ∈ l.splitOn sep, c ∈ part := by
  induction l with
  | nil => cases hc
  | cons d l ih =>
    have hsplit : (d :: l).splitOn sep =
        if d = sep then [] :: l.splitOn sep else (l.splitOn sep).modifyHead (List.cons d) := by
      rw [List.splitOn, List.splitOnP_cons_eq_if_modifyHead, List.splitOn]
      simp
    rw [hsplit]
    by_cases hd : d = sep
    · rw [if_pos hd]
      have hl : c ∈ l := (List.mem_cons.mp hc).resolve_left fun heq => hne (heq.trans hd)
      obtain ⟨part, hpart, hmem⟩ := ih hl
      exact ⟨part, List.mem_cons_of_mem _ hpart, hmem⟩
    · rw [if_neg hd]
      cases hparts : l.splitOn sep with
      | nil => exact absurd hparts (List.splitOnP_ne_nil _ _)
      | cons first rest =>
        rw [List.modifyHead_cons]
        rcases List.mem_cons.mp hc with rfl | hl
        · exact ⟨c :: first, List.mem_cons_self, List.mem_cons_self⟩
        · obtain ⟨part, hpart, hmem⟩ := ih hl
          rw [hparts] at hpart
          rcases List.mem_cons.mp hpart with rfl | hrest
          · exact ⟨d :: part, List.mem_cons_self, List.mem_cons_of_mem d hmem⟩
          · exact ⟨part, List.mem_cons_of_mem _ hrest, hmem⟩

end GoString
