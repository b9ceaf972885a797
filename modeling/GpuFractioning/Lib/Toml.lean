import GpuFractioning.Lib.GoText

/-!
# Reading TOML

The part of the format that small configuration files use: tables under dotted
bare keys, and entries whose values are booleans or basic strings without
escapes, one to a line and without white space around the tokens.
-/

namespace Toml

inductive Value where
  | bool (b : Bool)
  | string (s : String)
  deriving DecidableEq, Repr

structure Table where
  path : List String
  entries : List (String × Value)
  deriving DecidableEq, Repr

inductive Line where
  | blank
  | header (path : List String)
  | entry (key : String) (value : Value)
  deriving DecidableEq, Repr

section Reader

/-- A letter or digit of ASCII, an underscore or a dash. -/
def isBare (c : Char) : Bool :=
  (0x30 ≤ c.toNat && c.toNat ≤ 0x39) || (0x41 ≤ c.toNat && c.toNat ≤ 0x5A) ||
    (0x61 ≤ c.toNat && c.toNat ≤ 0x7A) || c == '_' || c == '-'

def IsBareKey (s : String) : Prop := s ≠ "" ∧ ∀ c ∈ s.toList, isBare c = true

instance (s : String) : Decidable (IsBareKey s) :=
  decidable_of_iff (s ≠ "" ∧ s.toList.all isBare) (by simp [IsBareKey])

def bareKey (s : String) : Option String := if IsBareKey s then some s else none

/-- A character that stands for itself in a basic string. -/
def isPlain (c : Char) : Bool :=
  c != '"' && c != '\\' && decide (0x20 ≤ c.toNat) && decide (c.toNat ≠ 0x7F)

/-- A plain character of ASCII, which Go's `%q` leaves as it is. -/
def isVerbatim (c : Char) : Bool := isPlain c && decide (c.toNat < 0x80)

/-- What stands behind the opening quote of a basic string. -/
def readBasic (l : List Char) : Option String :=
  if l.getLast? = some '"' ∧ l.dropLast.all isPlain then some (String.ofList l.dropLast) else none

def readValue (text : String) : Option Value :=
  if text = "true" then some (.bool true)
  else if text = "false" then some (.bool false)
  else
    match text.toList with
    | '"' :: rest => (readBasic rest).map .string
    | _ => none

def readLine (line : String) : Option Line :=
  match line.toList with
  | [] => some .blank
  | '[' :: rest =>
    if rest.getLast? = some ']' then
      ((GoString.split '.' (String.ofList rest.dropLast)).mapM bareKey).map .header
    else none
  | l =>
    match l.dropWhile (· ≠ '=') with
    | [] => none
    | _ :: value =>
      (bareKey (String.ofList (l.takeWhile (· ≠ '=')))).bind fun key =>
        (readValue (String.ofList value)).map (.entry key)

/-- An entry belongs to the table before it. No table and no key of a table stands twice. -/
def addLine (tables : List Table) : Line → Option (List Table)
  | .blank => some tables
  | .header path =>
    if path ∈ tables.map Table.path then none else some (tables ++ [⟨path, []⟩])
  | .entry key value =>
    match tables.getLast? with
    | none => none
    | some t =>
      if key ∈ t.entries.map Prod.fst then none
      else some (tables.dropLast ++ [{ t with entries := t.entries ++ [(key, value)] }])

def read (text : String) : Option (List Table) :=
  ((GoString.split '\n' text).mapM readLine).bind (List.foldlM addLine [])

end Reader

section Lookup

/-- The value of a key in the table of a path. -/
def lookup (tables : List Table) (path : List String) (key : String) : Option Value :=
  (tables.find? fun t => t.path = path).bind fun t =>
    (t.entries.find? fun e => e.1 = key).map Prod.snd

/-- A boolean that is off where it is not set. -/
def isOn (tables : List Table) (path : List String) (key : String) : Bool :=
  lookup tables path key = some (.bool true)

def text? (tables : List Table) (path : List String) (key : String) : Option String :=
  match lookup tables path key with
  | some (.string s) => some s
  | _ => none

theorem isOn_of_lookup {tables : List Table} {path : List String} {key : String} {b : Bool}
    (h : lookup tables path key = some (.bool b)) : isOn tables path key = b := by
  rw [isOn, h]
  cases b <;> rfl

end Lookup

section Rendered

theorem isBare_ne {c d : Char} (hc : isBare c = true) (hd : isBare d = false) : c ≠ d := by
  rintro rfl
  rw [hc] at hd
  cases hd

theorem IsBareKey.not_mem {s : String} (h : IsBareKey s) {d : Char} (hd : isBare d = false) :
    d ∉ s.toList := fun hmem => isBare_ne (h.2 d hmem) hd rfl

theorem bareKey_of_isBareKey {s : String} (h : IsBareKey s) : bareKey s = some s := if_pos h

theorem readLine_header {path : List String} (hne : path ≠ []) (hpath : ∀ s ∈ path, IsBareKey s) :
    readLine ("[" ++ ".".intercalate path ++ "]") = some (.header path) := by
  have hchars : ("[" ++ ".".intercalate path ++ "]").toList =
      '[' :: ((".".intercalate path).toList ++ [']']) := by simp
  have hsplit : GoString.split '.' (".".intercalate path) = path :=
    GoString.split_intercalate hne fun s hs => (hpath s hs).not_mem (by decide)
  have hkeys : path.mapM bareKey = some path := by
    clear hne hchars hsplit
    induction path with
    | nil => rfl
    | cons s path ih =>
      rw [List.forall_mem_cons] at hpath
      rw [List.mapM_cons, bareKey_of_isBareKey hpath.1, ih hpath.2]
      rfl
  unfold readLine
  rw [hchars]
  simp only [List.getLast?_concat, if_true, List.dropLast_concat, String.ofList_toList, hsplit,
    hkeys, Option.map_some]

theorem readLine_entry {key : String} (hkey : IsBareKey key) {text : String} {value : Value}
    (hvalue : readValue text = some value) :
    readLine (key ++ "=" ++ text) = some (.entry key value) := by
  obtain ⟨c, l, hl⟩ : ∃ c l, key.toList = c :: l := by
    cases hchars : key.toList with
    | nil => exact absurd (String.toList_eq_nil_iff.mp hchars) hkey.1
    | cons c l => exact ⟨c, l, rfl⟩
  have hbracket : c ≠ '[' :=
    isBare_ne (hkey.2 c (hl ▸ List.mem_cons_self)) (by decide)
  have hequals : ∀ d ∈ key.toList, d ≠ '=' := fun d hd => isBare_ne (hkey.2 d hd) (by decide)
  have hchars : (key ++ "=" ++ text).toList = key.toList ++ '=' :: text.toList := by simp
  have htake : (key.toList ++ '=' :: text.toList).takeWhile (· ≠ '=') = key.toList := by
    rw [List.takeWhile_append_of_pos (by simpa using hequals)]
    simp
  have hdrop : (key.toList ++ '=' :: text.toList).dropWhile (· ≠ '=') = '=' :: text.toList := by
    rw [List.dropWhile_append_of_pos (by simpa using hequals)]
    simp
  unfold readLine
  rw [hchars]
  split
  · next hnil => simp at hnil
  · next rest hhead =>
    rw [hl, List.cons_append, List.cons.injEq] at hhead
    exact absurd hhead.1 hbracket
  · rw [hdrop]
    simp only [htake, String.ofList_toList, bareKey_of_isBareKey hkey, Option.bind_some, hvalue,
      Option.map_some]

theorem readValue_bool (b : Bool) : readValue (toString b) = some (.bool b) := by
  cases b <;> decide

theorem quoteChar_of_isVerbatim {c : Char} (hc : isVerbatim c = true) :
    GoText.quoteChar c = [c] := by
  simp only [isVerbatim, isPlain, Bool.and_eq_true, bne_iff_ne, ne_eq, decide_eq_true_eq] at hc
  obtain ⟨⟨⟨⟨hquote, hslash⟩, hlow⟩, hdelete⟩, hascii⟩ := hc
  have hnamed : ∀ d : Char, d.toNat < 0x20 → c ≠ d := by
    rintro d hd rfl
    omega
  unfold GoText.quoteChar
  rw [if_neg (by simp [hquote, hslash]), if_neg (by omega), if_neg (by omega), if_neg (by omega),
    if_neg (hnamed _ (by decide)), if_neg (hnamed _ (by decide)), if_neg (hnamed _ (by decide)),
    if_neg (by omega), if_neg (by omega), if_neg (by omega)]

theorem quote_of_isVerbatim {s : String} (hs : ∀ c ∈ s.toList, isVerbatim c = true) :
    (GoText.quote s).toList = '"' :: (s.toList ++ ['"']) := by
  have hchars : s.toList.flatMap GoText.quoteChar = s.toList := by
    rw [List.flatMap_congr fun c hc => quoteChar_of_isVerbatim (hs c hc)]
    exact List.flatMap_singleton' _
  rw [GoText.quote, hchars, String.toList_ofList]
  rfl

/-- What Go's `%q` writes of such characters is a basic string. -/
theorem readValue_quote {s : String} (hs : ∀ c ∈ s.toList, isVerbatim c = true) :
    readValue (GoText.quote s) = some (.string s) := by
  have hchars := quote_of_isVerbatim hs
  have hne : ∀ text : String, text.toList.head? ≠ some '"' → GoText.quote s ≠ text := by
    rintro text hhead rfl
    exact hhead (by rw [hchars]; rfl)
  have hplain : s.toList.all isPlain = true :=
    List.all_eq_true.mpr fun c hc => (Bool.and_eq_true_iff.mp (hs c hc)).1
  unfold readValue
  rw [if_neg (hne _ (by decide)), if_neg (hne _ (by decide)), hchars]
  simp only [readBasic, List.getLast?_concat, List.dropLast_concat, hplain, and_self, if_true,
    Option.map_some, String.ofList_toList]

theorem read_lines {lines : List String} (hne : lines ≠ [])
    (hlines : ∀ line ∈ lines, '\n' ∉ line.toList) :
    read ("\n".intercalate lines) = (lines.mapM readLine).bind (List.foldlM addLine []) := by
  rw [read, show "\n" = String.singleton '\n' from rfl, GoString.split_intercalate hne hlines]

end Rendered

end Toml
