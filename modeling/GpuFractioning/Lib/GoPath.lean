import GpuFractioning.Lib.GoString

/-!
# Lexical file paths

`Clean`, `Join` and `Dir` of the Go package `path/filepath`, on a system whose
separator is the slash.
-/

namespace GoPath

/-- One component is put on the stack of those kept so far, the last one first. -/
def cleanStep (rooted : Bool) (stack : List String) (component : String) : List String :=
  if component = "" ∨ component = "." then stack
  else if component = ".." then
    match stack with
    | [] => if rooted then [] else [".."]
    | top :: rest => if top = ".." then ".." :: stack else rest
  else component :: stack

/-- `filepath.Clean`. -/
def clean (path : String) : String :=
  let rooted := GoString.hasPrefix path "/"
  let kept := ((GoString.split '/' path).foldl (cleanStep rooted) []).reverse
  let body := "/".intercalate kept
  if rooted then "/" ++ body else if body = "" then "." else body

/-- `filepath.Join`; leading empty elements are dropped, and nothing is left of none. -/
def join (elements : List String) : String :=
  match elements.dropWhile (· = "") with
  | [] => ""
  | e :: es => clean ("/".intercalate (e :: es))

/-- `filepath.Dir`: everything up to the last slash, cleaned. -/
def dir (path : String) : String :=
  clean (String.ofList (path.toList.rdropWhile (· ≠ '/')))

example : join ["/run/nvidia-mps", "shared/default"] = "/run/nvidia-mps/shared/default" := by decide

/-- A name that `Clean` keeps as one component. -/
structure IsName (name : String) : Prop where
  nonempty : name ≠ ""
  notDot : name ≠ "."
  notDotDot : name ≠ ".."
  noSlash : '/' ∉ name.toList

section Names

variable {name : String}

theorem isName_of_length (hlength : 2 < name.length) (hslash : '/' ∉ name.toList) :
    IsName name where
  nonempty h := absurd (h ▸ hlength) (by decide)
  notDot h := absurd (h ▸ hlength) (by decide)
  notDotDot h := absurd (h ▸ hlength) (by decide)
  noSlash := hslash

theorem split_of_isName (hname : IsName name) : GoString.split '/' name = [name] := by
  have hparts : ∀ part ∈ [name], '/' ∉ part.toList := by
    intro part hpart
    obtain rfl := List.mem_singleton.mp hpart
    exact hname.noSlash
  have hsplit := GoString.split_intercalate (List.cons_ne_nil name []) hparts
  rwa [String.intercalate_singleton] at hsplit

theorem cleanStep_of_isName (hname : IsName name) (rooted : Bool) (stack : List String) :
    cleanStep rooted stack name = name :: stack := by
  simp [cleanStep, hname.nonempty, hname.notDot, hname.notDotDot]

/-- The components of a directory that `Clean` keeps. -/
def keptComponents (dir : String) : List String :=
  ((GoString.split '/' dir).foldl (cleanStep (GoString.hasPrefix (dir ++ "/") "/")) []).reverse

/-- What `Clean` leaves of a directory, up to the slash before a name in it. -/
def cleanParent (dir : String) : String :=
  (if GoString.hasPrefix (dir ++ "/") "/" then "/" else "") ++
    if keptComponents dir = [] then "" else "/".intercalate (keptComponents dir) ++ "/"

theorem hasPrefix_slash_append (s t : String) :
    GoString.hasPrefix (s ++ "/" ++ t) "/" = GoString.hasPrefix (s ++ "/") "/" := by
  have hslash : "/" = String.singleton '/' := by decide
  rw [hslash]
  exact GoString.hasPrefix_append_of_ne_empty (by simp)

theorem split_append_name (hname : IsName name) (dir : String) :
    GoString.split '/' (dir ++ "/" ++ name) = GoString.split '/' dir ++ [name] := by
  rw [← split_of_isName hname]
  simp [GoString.split, List.splitOn_append_cons_self]

theorem intercalate_concat (sep : String) (parts : List String) (part : String) :
    sep.intercalate (parts ++ [part]) =
      (if parts = [] then "" else sep.intercalate parts ++ sep) ++ part := by
  by_cases hnil : parts = []
  · rw [hnil, if_pos rfl, List.nil_append, String.intercalate_singleton, String.empty_append]
  · rw [if_neg hnil, String.intercalate_append_of_ne_nil hnil (List.cons_ne_nil part []),
      String.intercalate_singleton]

theorem clean_append_name (hname : IsName name) (dir : String) :
    clean (dir ++ "/" ++ name) = cleanParent dir ++ name := by
  have hkept : ((GoString.split '/' (dir ++ "/" ++ name)).foldl
      (cleanStep (GoString.hasPrefix (dir ++ "/") "/")) []).reverse =
      keptComponents dir ++ [name] := by
    rw [split_append_name hname, List.foldl_append, List.foldl_cons, List.foldl_nil,
      cleanStep_of_isName hname, List.reverse_cons, keptComponents]
  have hne (before : String) : before ++ name ≠ "" := by simp [hname.nonempty]
  simp only [clean, cleanParent, hasPrefix_slash_append, hkept, intercalate_concat,
    if_neg (hne _)]
  split
  · rw [String.append_assoc]
  · rw [String.empty_append]

theorem clean_of_isName (hname : IsName name) : clean name = name := by
  have hrooted : GoString.hasPrefix name "/" = false := by
    rw [← Bool.not_eq_true, GoString.hasPrefix_iff]
    rintro ⟨rest, rfl⟩
    exact hname.noSlash (by simp)
  rw [clean, hrooted, split_of_isName hname, List.foldl_cons, List.foldl_nil,
    cleanStep_of_isName hname]
  simp [hname.nonempty]

theorem exists_join_eq (dir : String) :
    ∃ parent, ∀ name, IsName name → join [dir, name] = parent ++ name := by
  by_cases hdir : dir = ""
  · refine ⟨"", ?_⟩
    intro name hname
    rw [String.empty_append]
    simpa [join, hdir, hname.nonempty] using clean_of_isName hname
  · refine ⟨cleanParent dir, ?_⟩
    intro name hname
    simpa [join, hdir] using clean_append_name hname dir

theorem exists_join_append (hname : IsName name) (dir parent : String) :
    ∃ before, join [dir, parent ++ "/" ++ name] = before ++ name := by
  by_cases hdir : dir = ""
  · refine ⟨cleanParent parent, ?_⟩
    simpa [join, hdir] using clean_append_name hname parent
  · refine ⟨cleanParent (dir ++ "/" ++ parent), ?_⟩
    simpa [join, hdir, String.append_assoc] using clean_append_name hname (dir ++ "/" ++ parent)

theorem exists_join_extension {extension : String} (hlength : 2 < extension.length)
    (hslash : '/' ∉ extension.toList) (dir stem : String) :
    ∃ before, join [dir, stem ++ extension] = before ++ extension := by
  have hname (last : String) (hlast : '/' ∉ last.toList) : IsName (last ++ extension) := by
    apply isName_of_length
    · rw [String.length_append]
      omega
    · rw [String.toList_append, List.mem_append, not_or]
      exact ⟨hlast, hslash⟩
  by_cases hstem : '/' ∈ stem.toList
  · obtain ⟨after, rest, hsplit, hafter⟩ :=
      List.eq_append_cons_of_mem (List.mem_reverse.mpr hstem)
    have hlast : '/' ∉ (String.ofList after.reverse).toList := by simpa using hafter
    have heq : stem = String.ofList rest.reverse ++ "/" ++ String.ofList after.reverse := by
      rw [← String.toList_inj, ← List.reverse_inj, hsplit]
      simp
    obtain ⟨before, hbefore⟩ :=
      exists_join_append (hname _ hlast) dir (String.ofList rest.reverse)
    refine ⟨before ++ String.ofList after.reverse, ?_⟩
    rw [heq, String.append_assoc, hbefore, String.append_assoc]
  · obtain ⟨parent, hparent⟩ := exists_join_eq dir
    exact ⟨parent ++ stem, by rw [hparent _ (hname stem hstem), String.append_assoc]⟩

end Names

end GoPath
