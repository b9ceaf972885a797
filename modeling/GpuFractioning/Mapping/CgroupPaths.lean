import GpuFractioning.Lib.Components
import GpuFractioning.Mapping.ContainerStore

/-!
# Matching cgroup paths with containers

`normalizeCgroupPath`, the two tests of `cgroupPathMatchesContainer` and
`MatchCgroupPaths` of `common/mapping/store/container_store.go`. A normalised
path is the rendering of its components, so that the tests on texts are
statements about components.
-/

namespace GpuFractioning.Mapping

/-- One pass of the loop: `strings.ReplaceAll(path, "//", "/")`. -/
def replaceSlashes (path : String) : String := GoString.replaceAll path "//" "/"

/-- The loop that removes repeated slashes, with a bound on its passes. -/
def collapseSlashes : ℕ → String → String
  | 0, path => path
  | fuel + 1, path =>
    if GoString.contains path "//" then collapseSlashes fuel (replaceSlashes path) else path

def normalizeCgroupPath (path : String) : String :=
  let path := GoString.trimSpace path
  if path = "" then ""
  else
    let path := if GoString.hasPrefix path "/" then path else "/" ++ path
    -- every pass makes the path shorter, so that the bound is not reached
    let path := collapseSlashes path.toList.length path
    if path ≠ "/" then GoString.trimRight '/' path else path

def cgroupPathContains (processPath containerPath : String) : Bool :=
  let processPath := normalizeCgroupPath processPath
  let containerPath := normalizeCgroupPath containerPath
  if processPath = "" ∨ containerPath = "" ∨ containerPath = "/" then false
  else processPath = containerPath || GoString.hasPrefix processPath (containerPath ++ "/")

def cgroupPathContainsContainerID (processPath containerID : String) : Bool :=
  let processPath := normalizeCgroupPath processPath
  let containerID := normalizeContainerID containerID
  if processPath = "" ∨ containerID = "" then false
  else GoString.contains processPath containerID

def cgroupPathMatchesContainer (processPath : String) (container : ContainerInfo) : Bool :=
  cgroupPathContains processPath container.cgroupPath ||
    cgroupPathContainsContainerID processPath container.containerID

/-- The orders in which the ranges over the map visit it, one for each range. Go leaves them
open. -/
structure RangeOrder (s : ContainerStore) where
  visit : ℕ → List ContainerInfo
  perm : ∀ i, (visit i).Perm (ContainerStore.activeContainers s)

namespace RangeOrder

variable {s : ContainerStore}

/-- The orders after the first range. -/
def later (order : RangeOrder s) : RangeOrder s :=
  ⟨fun i => order.visit (i + 1), fun i => order.perm (i + 1)⟩

/-- Every range visits the containers as the model stores them. -/
def asStored (s : ContainerStore) : RangeOrder s :=
  ⟨fun _ => ContainerStore.activeContainers s, fun _ => List.Perm.refl _⟩

end RangeOrder

/-- `MatchCgroupPaths`: there is one range over the map for each path that is looked at. -/
def matchCgroupPaths {s : ContainerStore} : RangeOrder s → List String → Option ContainerInfo
  | _, [] => none
  | order, path :: paths =>
    match (order.visit 0).find? (cgroupPathMatchesContainer path) with
    | some container => some container
    | none => matchCgroupPaths order.later paths

/-- The components of a path without its outer white space. -/
def pathComponents (path : String) : List String :=
  (GoString.split '/' (GoString.trimSpace path)).filter (· ≠ "")

section Collapse

/-- One pass on the list of characters. -/
def squeeze (l : List Char) : List Char := GoString.replaceAllList ['/', '/'] ['/'] 0 l

theorem toList_replaceSlashes (path : String) :
    (replaceSlashes path).toList = squeeze path.toList := by
  simp [replaceSlashes, GoString.replaceAll, squeeze]

theorem squeeze_double (l : List Char) : squeeze ('/' :: '/' :: l) = '/' :: squeeze l := by
  simp [squeeze, GoString.replaceAllList]

theorem squeeze_cons {c : Char} {l : List Char} (h : ¬ ['/', '/'] <+: c :: l) :
    squeeze (c :: l) = c :: squeeze l := by
  rw [← List.isPrefixOf_iff_prefix] at h
  simp [squeeze, GoString.replaceAllList, h]

/-- The cases of a pass: a pair of slashes is passed over as a whole. -/
theorem squeeze_induction {P : List Char → Prop} (nil : P [])
    (double : ∀ l, P l → P ('/' :: '/' :: l))
    (cons : ∀ c l, ¬ ['/', '/'] <+: c :: l → P l → P (c :: l)) (l : List Char) : P l := by
  induction hn : l.length using Nat.strong_induction_on generalizing l with
  | _ n ih =>
    cases l with
    | nil => exact nil
    | cons c l =>
      subst hn
      by_cases hpair : ['/', '/'] <+: c :: l
      · obtain ⟨rest, hrest⟩ := hpair
        rw [← hrest]
        apply double
        apply ih rest.length _ rest rfl
        rw [← hrest]
        simp
      · exact cons c l hpair (ih l.length (by simp) l rfl)

theorem length_squeeze_le (l : List Char) : (squeeze l).length ≤ l.length := by
  induction l using squeeze_induction with
  | nil => rfl
  | double l ih =>
    rw [squeeze_double]
    simp only [List.length_cons]
    omega
  | cons c l hpair ih =>
    rw [squeeze_cons hpair]
    simp only [List.length_cons]
    omega

theorem length_squeeze_lt {l : List Char} (h : ['/', '/'] <:+: l) :
    (squeeze l).length < l.length := by
  induction l using squeeze_induction with
  | nil => simp at h
  | double l ih =>
    have := length_squeeze_le l
    rw [squeeze_double]
    simp only [List.length_cons]
    omega
  | cons c l hpair ih =>
    have hin := (List.infix_cons_iff.mp h).resolve_left hpair
    have := ih hin
    rw [squeeze_cons hpair]
    simp only [List.length_cons]
    omega

theorem head?_squeeze (l : List Char) : (squeeze l).head? = l.head? := by
  induction l using squeeze_induction with
  | nil => rfl
  | double l ih => rw [squeeze_double, List.head?_cons, List.head?_cons]
  | cons c l hpair ih => rw [squeeze_cons hpair, List.head?_cons, List.head?_cons]

theorem components_squeeze (l : List Char) :
    Components.components '/' (squeeze l) = Components.components '/' l := by
  have hscan : ∀ piece,
      Components.scan '/' piece (squeeze l) = Components.scan '/' piece l := by
    induction l using squeeze_induction with
    | nil =>
      intro piece
      rfl
    | double l ih =>
      intro piece
      rw [squeeze_double, Components.scan_cons_sep, Components.scan_cons_sep,
        Components.scan_cons_sep, ih]
      rfl
    | cons c l hpair ih =>
      intro piece
      rw [squeeze_cons hpair]
      by_cases hc : c = '/'
      · subst hc
        rw [Components.scan_cons_sep, Components.scan_cons_sep, ih]
      · rw [Components.scan_cons_of_ne hc, Components.scan_cons_of_ne hc, ih]
  rw [Components.components_eq_scan, Components.components_eq_scan, hscan]

theorem contains_slashes_iff (path : String) :
    GoString.contains path "//" = true ↔ ['/', '/'] <:+: path.toList :=
  GoString.contains_iff

/-- The loop ends: some pass is the last, and the bound is not what ends it. -/
theorem exists_iterate_collapseSlashes (fuel : ℕ) :
    ∀ path : String, path.toList.length ≤ fuel →
      ∃ passes, (∀ i < passes, GoString.contains (replaceSlashes^[i] path) "//" = true) ∧
        GoString.contains (replaceSlashes^[passes] path) "//" = false ∧
        collapseSlashes fuel path = replaceSlashes^[passes] path := by
  induction fuel with
  | zero =>
    intro path hfuel
    refine ⟨0, by simp, ?_, rfl⟩
    have hempty : path.toList = [] := List.length_eq_zero_iff.mp (by omega)
    rw [Function.iterate_zero, id_eq, Bool.eq_false_iff, ne_eq, contains_slashes_iff, hempty]
    simp
  | succ fuel ih =>
    intro path hfuel
    unfold collapseSlashes
    by_cases hpair : GoString.contains path "//" = true
    · have hlt := length_squeeze_lt ((contains_slashes_iff path).mp hpair)
      rw [← toList_replaceSlashes] at hlt
      obtain ⟨passes, hbefore, hlast, heq⟩ := ih (replaceSlashes path) (by omega)
      refine ⟨passes + 1, ?_, hlast, ?_⟩
      · intro i hi
        cases i with
        | zero => exact hpair
        | succ i => exact hbefore i (by omega)
      · rw [if_pos hpair, heq, Function.iterate_succ_apply]
    · refine ⟨0, by simp, by simpa using hpair, ?_⟩
      rw [if_neg hpair, Function.iterate_zero, id_eq]

theorem iterate_replaceSlashes (passes : ℕ) (path : String) :
    ((replaceSlashes^[passes] path).toList).head? = path.toList.head? ∧
      Components.components '/' (replaceSlashes^[passes] path).toList =
        Components.components '/' path.toList := by
  induction passes with
  | zero => exact ⟨rfl, rfl⟩
  | succ passes ih =>
    rw [Function.iterate_succ_apply', toList_replaceSlashes, head?_squeeze, components_squeeze]
    exact ih

end Collapse

section Normal

/-- A nonblank path before the loop. -/
def rootedPath (path : String) : String :=
  if GoString.hasPrefix path "/" then path else "/" ++ path

theorem head?_rootedPath (path : String) : (rootedPath path).toList.head? = some '/' := by
  unfold rootedPath
  split
  · next h =>
    obtain ⟨rest, rfl⟩ := GoString.hasPrefix_iff.mp h
    simp
  · simp

theorem components_rootedPath (path : String) :
    Components.components '/' (rootedPath path).toList =
      Components.components '/' path.toList := by
  unfold rootedPath
  split
  · rfl
  · rw [String.toList_append, show "/".toList = ['/'] from rfl, List.singleton_append,
      Components.components_cons_sep]

theorem exists_passes_normalizeCgroupPath (path : String) :
    ∃ passes,
      let start := rootedPath (GoString.trimSpace path)
      let last := replaceSlashes^[passes] start
      (∀ i < passes, GoString.contains (replaceSlashes^[i] start) "//" = true) ∧
        GoString.contains last "//" = false ∧
        normalizeCgroupPath path =
          if GoString.trimSpace path = "" then ""
          else if last ≠ "/" then GoString.trimRight '/' last else last := by
  obtain ⟨passes, hbefore, hlast, heq⟩ :=
    exists_iterate_collapseSlashes _ (rootedPath (GoString.trimSpace path)) le_rfl
  refine ⟨passes, hbefore, hlast, ?_⟩
  rw [← heq]
  rfl

/-- A nonblank path is normalised to a slash and its components. -/
theorem normalizeCgroupPath_spec {path : String} (hpath : GoString.trimSpace path ≠ "") :
    ∃ m, (normalizeCgroupPath path).toList = '/' :: m ∧ ¬ ['/', '/'] <:+: '/' :: m ∧
      m.getLast? ≠ some '/' ∧
      Components.components '/' m =
        Components.components '/' (GoString.trimSpace path).toList := by
  obtain ⟨passes, -, hlast, heq⟩ := exists_passes_normalizeCgroupPath path
  obtain ⟨hhead, hcomponents⟩ :=
    iterate_replaceSlashes passes (rootedPath (GoString.trimSpace path))
  rw [heq, if_neg hpath]
  generalize replaceSlashes^[passes] (rootedPath (GoString.trimSpace path)) = last at *
  rw [components_rootedPath] at hcomponents
  rw [head?_rootedPath] at hhead
  rw [Bool.eq_false_iff, ne_eq, contains_slashes_iff] at hlast
  obtain ⟨l, hl⟩ := List.head?_eq_some_iff.mp hhead
  rw [hl, Components.components_cons_sep] at hcomponents
  rw [hl] at hlast
  by_cases hroot : last = "/"
  · rw [if_neg (not_not.mpr hroot)]
    subst hroot
    have hnil : l = [] := (List.cons.inj hl).2.symm
    subst hnil
    exact ⟨[], hl, hlast, by simp, hcomponents⟩
  · rw [if_pos hroot, GoString.trimRight, String.toList_ofList, hl]
    cases l with
    | nil => exact absurd (String.toList_inj.mp hl) hroot
    | cons d l =>
      have hd : d ≠ '/' := by
        rintro rfl
        exact hlast ⟨[], l, rfl⟩
      have htrim : ('/' :: d :: l).rdropWhile (· = '/') = '/' :: (d :: l).rdropWhile (· = '/') := by
        have hwhole := GoString.rdropWhile_append_cons (p := (· = '/')) (c := d) (by simpa using hd)
        rw [show '/' :: d :: l = ['/'] ++ d :: l from rfl, hwhole,
          show d :: l = [] ++ d :: l from rfl, hwhole]
        rfl
      refine ⟨(d :: l).rdropWhile (· = '/'), htrim, ?_, ?_, ?_⟩
      · intro hpair
        rw [← htrim] at hpair
        exact hlast (hpair.trans (List.rdropWhile_prefix _ _).isInfix)
      · exact GoString.getLast?_rdropWhile_ne (by simp) _
      · rw [Components.components_rdropWhile, hcomponents]

theorem normalizeCgroupPath_of_blank {path : String} (hpath : GoString.trimSpace path = "") :
    normalizeCgroupPath path = "" := by
  unfold normalizeCgroupPath
  exact if_pos hpath

end Normal

section Contains

theorem map_toList_pathComponents (path : String) :
    (pathComponents path).map String.toList =
      Components.components '/' (GoString.trimSpace path).toList := by
  unfold pathComponents GoString.split Components.components
  rw [List.filter_map, List.map_map]
  have hid : String.toList ∘ String.ofList = id := by
    funext l
    exact String.toList_ofList
  rw [hid, List.map_id]
  congr 1
  funext l
  simp

theorem isComponent_of_mem_pathComponents (path : String) :
    ∀ part ∈ (pathComponents path).map String.toList, Components.IsComponent '/' part := by
  rw [map_toList_pathComponents]
  exact fun part => Components.isComponent_of_mem_components

theorem pathComponents_of_blank {path : String} (hpath : GoString.trimSpace path = "") :
    pathComponents path = [] := by
  rw [← List.map_eq_nil_iff (f := String.toList), map_toList_pathComponents, hpath]
  rfl

theorem toList_normalizeCgroupPath {path : String} (hpath : pathComponents path ≠ []) :
    (normalizeCgroupPath path).toList =
      Components.render '/' ((pathComponents path).map String.toList) := by
  obtain ⟨m, hm, hpair, hend, hcomponents⟩ :=
    normalizeCgroupPath_spec fun hblank => hpath (pathComponents_of_blank hblank)
  rw [map_toList_pathComponents, hm, ← hcomponents]
  symm
  apply Components.render_components
  · rintro rfl
    apply hpath
    rw [← List.map_eq_nil_iff (f := String.toList), map_toList_pathComponents, ← hcomponents]
    rfl
  · intro hhead
    obtain ⟨rest, rfl⟩ := List.head?_eq_some_iff.mp hhead
    exact hpair ⟨[], rest, rfl⟩
  · exact fun hin => hpair (hin.trans (List.suffix_cons '/' m).isInfix)
  · exact hend

theorem normalizeCgroupPath_eq_root {path : String} (hpath : GoString.trimSpace path ≠ "")
    (hnone : pathComponents path = []) : normalizeCgroupPath path = "/" := by
  obtain ⟨m, hm, hpair, hend, hcomponents⟩ := normalizeCgroupPath_spec hpath
  rw [← map_toList_pathComponents, hnone, List.map_nil] at hcomponents
  have hnil : m = [] := by
    by_contra hne
    have hhead : m.head? ≠ some '/' := by
      intro hhead
      obtain ⟨rest, rfl⟩ := List.head?_eq_some_iff.mp hhead
      exact hpair ⟨[], rest, rfl⟩
    have hrender := Components.render_components hne hhead
      (fun hin => hpair (hin.trans (List.suffix_cons '/' m).isInfix)) hend
    rw [hcomponents] at hrender
    cases hrender
  subst hnil
  exact String.toList_inj.mp hm

theorem normalizeCgroupPath_ne_empty {path : String} (hpath : pathComponents path ≠ []) :
    normalizeCgroupPath path ≠ "" ∧ normalizeCgroupPath path ≠ "/" := by
  have hrender := toList_normalizeCgroupPath hpath
  have hparts := isComponent_of_mem_pathComponents path
  obtain ⟨part, parts, hcons⟩ := List.exists_cons_of_ne_nil hpath
  rw [hcons, List.map_cons] at hrender hparts
  rw [Components.render_cons] at hrender
  have hne := (hparts part.toList List.mem_cons_self).1
  constructor
  · intro hempty
    rw [hempty] at hrender
    cases hrender
  · intro hroot
    rw [hroot] at hrender
    exact hne (List.append_eq_nil_iff.mp (List.cons.inj hrender).2.symm).1

theorem prefix_map_toList {l l' : List String} :
    l.map String.toList <+: l'.map String.toList ↔ l <+: l' :=
  List.prefix_map_iff_of_injective fun _ _ => String.toList_inj.mp

theorem cgroupPathContains_iff (processPath containerPath : String) :
    cgroupPathContains processPath containerPath = true ↔
      pathComponents containerPath ≠ [] ∧
        pathComponents containerPath <+: pathComponents processPath := by
  unfold cgroupPathContains
  dsimp only
  by_cases hcontainer : pathComponents containerPath = []
  · have hshape : normalizeCgroupPath containerPath = "" ∨
        normalizeCgroupPath containerPath = "/" := by
      by_cases hblank : GoString.trimSpace containerPath = ""
      · exact Or.inl (normalizeCgroupPath_of_blank hblank)
      · exact Or.inr (normalizeCgroupPath_eq_root hblank hcontainer)
    rw [if_pos (Or.inr hshape)]
    simp [hcontainer]
  · obtain ⟨hnotEmpty, hnotRoot⟩ := normalizeCgroupPath_ne_empty hcontainer
    by_cases hprocess : pathComponents processPath = []
    · rw [hprocess, List.prefix_nil]
      refine iff_of_false ?_ (fun h => h.1 h.2)
      by_cases hblank : GoString.trimSpace processPath = ""
      · simp [normalizeCgroupPath_of_blank hblank]
      · have hprefix :
            GoString.hasPrefix "/" (normalizeCgroupPath containerPath ++ "/") = false := by
          rw [Bool.eq_false_iff, ne_eq, GoString.hasPrefix, List.isPrefixOf_iff_prefix]
          intro h
          have hlength := h.length_le
          simp only [String.toList_append, List.length_append, show "/".toList.length = 1 from rfl]
            at hlength
          have hpos := List.length_pos_of_ne_nil (mt String.toList_eq_nil_iff.mp hnotEmpty)
          omega
        rw [normalizeCgroupPath_eq_root hblank hprocess, hprefix]
        simp [hnotEmpty, hnotRoot, Ne.symm hnotRoot]
    · have hprocessEmpty := (normalizeCgroupPath_ne_empty hprocess).1
      rw [if_neg (by simp only [hprocessEmpty, hnotEmpty, hnotRoot, or_self, not_false_eq_true])]
      rw [← prefix_map_toList, Components.prefix_iff_render
        (isComponent_of_mem_pathComponents containerPath)
        (isComponent_of_mem_pathComponents processPath),
        ← toList_normalizeCgroupPath hcontainer, ← toList_normalizeCgroupPath hprocess]
      simp [hcontainer, GoString.hasPrefix, String.toList_inj]

/-- Normalisation ends with a path of a fixed shape, and containment is the prefix relation
on components. -/
theorem cgroupPathContains_components (p c : String) :
    (∃ passes,
      let start := rootedPath (GoString.trimSpace p)
      let last := replaceSlashes^[passes] start
      (∀ i < passes, GoString.contains (replaceSlashes^[i] start) "//" = true) ∧
        GoString.contains last "//" = false ∧
        normalizeCgroupPath p =
          if GoString.trimSpace p = "" then ""
          else if last ≠ "/" then GoString.trimRight '/' last else last) ∧
      (normalizeCgroupPath p = "" ∨ GoString.hasPrefix (normalizeCgroupPath p) "/" = true) ∧
      GoString.contains (normalizeCgroupPath p) "//" = false ∧
      (GoString.hasSuffix (normalizeCgroupPath p) "/" = true → normalizeCgroupPath p = "/") ∧
      (cgroupPathContains p c = true ↔
        pathComponents c ≠ [] ∧ pathComponents c <+: pathComponents p) := by
  refine ⟨exists_passes_normalizeCgroupPath p, ?_, ?_, ?_, cgroupPathContains_iff p c⟩
  all_goals by_cases hblank : GoString.trimSpace p = ""
  · exact Or.inl (normalizeCgroupPath_of_blank hblank)
  · obtain ⟨m, hm, -⟩ := normalizeCgroupPath_spec hblank
    right
    rw [GoString.hasPrefix, List.isPrefixOf_iff_prefix, hm]
    exact ⟨m, rfl⟩
  · rw [normalizeCgroupPath_of_blank hblank]
    rfl
  · obtain ⟨m, hm, hpair, -⟩ := normalizeCgroupPath_spec hblank
    rw [Bool.eq_false_iff, ne_eq, contains_slashes_iff, hm]
    exact hpair
  · rw [normalizeCgroupPath_of_blank hblank]
    intro h
    cases h
  · obtain ⟨m, hm, -, hend, -⟩ := normalizeCgroupPath_spec hblank
    rw [GoString.hasSuffix, List.isSuffixOf_iff_suffix, hm]
    rintro ⟨rest, hrest⟩
    cases m with
    | nil => exact String.toList_inj.mp hm
    | cons d m =>
      have hlast := congrArg List.getLast? hrest
      rw [show "/".toList = ['/'] from rfl, List.getLast?_concat, List.getLast?_cons_cons] at hlast
      exact absurd hlast.symm hend

/-- A container path is not found inside one whose component it only starts. -/
example : cgroupPathContains "/a/bc" "/a/b" = false ∧
    cgroupPathContains "a//b/ c/" "/a/b/" = true := by decide

end Contains

section Match

/-- The IDs of container runtimes: no slash, colon, backslash or white space. -/
def PlainID (containerID : String) : Prop :=
  containerID ≠ "" ∧ ∀ c ∈ containerID.toList,
    c ≠ '/' ∧ c ≠ ':' ∧ c ≠ '\\' ∧ GoString.isSpace c = false

instance (containerID : String) : Decidable (PlainID containerID) :=
  decidable_of_iff (containerID ≠ "" ∧ containerID.toList.all fun c =>
    c ≠ '/' && c ≠ ':' && c ≠ '\\' && !GoString.isSpace c) (by simp [PlainID, and_assoc])

variable {containerID : String}

theorem PlainID.isComponent (h : PlainID containerID) :
    Components.IsComponent '/' containerID.toList :=
  ⟨mt String.toList_eq_nil_iff.mp h.1, fun hslash => (h.2 '/' hslash).1 rfl⟩

theorem PlainID.isSpace_eq_false (h : PlainID containerID) :
    ∀ c ∈ containerID.toList, GoString.isSpace c = false := fun c hc => (h.2 c hc).2.2.2

theorem normalizeContainerID_of_plain (h : PlainID containerID) :
    normalizeContainerID containerID = containerID := by
  have hspace : GoString.trimSpace containerID = containerID := by
    rw [GoString.trimSpace, GoString.trimChars_eq_self _ h.isSpace_eq_false, String.ofList_toList]
  have hcut : GoString.afterLast "://" containerID = containerID :=
    GoString.afterLast_eq_self (c := '/') (by decide) h.isComponent.2
  have htrim : GoString.trimChars (· == '/') containerID.toList = containerID.toList := by
    apply GoString.trimChars_eq_self
    intro c hc
    simpa using (h.2 c hc).1
  rw [normalizeContainerID, hspace]
  simp only [h.1, if_false, hcut, GoString.trim, htrim, String.ofList_toList]

/-- Normalisation of a path neither makes nor breaks an occurrence of a plain ID. -/
theorem infix_normalizeCgroupPath_iff (h : PlainID containerID) (path : String) :
    containerID.toList <:+: (normalizeCgroupPath path).toList ↔
      containerID.toList <:+: path.toList := by
  have hne := h.isComponent.1
  rw [← GoString.infix_trimChars_iff hne h.isSpace_eq_false path.toList,
    show GoString.trimChars GoString.isSpace path.toList = (GoString.trimSpace path).toList from
      (String.toList_ofList).symm]
  by_cases hblank : GoString.trimSpace path = ""
  · rw [normalizeCgroupPath_of_blank hblank, hblank]
  · obtain ⟨m, hm, -, -, hcomponents⟩ := normalizeCgroupPath_spec hblank
    rw [Components.infix_iff_exists_component h.isComponent, hm, Components.components_cons_sep,
      hcomponents, ← Components.infix_iff_exists_component h.isComponent]

theorem cgroupPathContainsContainerID_iff (h : PlainID containerID) (path : String) :
    cgroupPathContainsContainerID path containerID = true ↔
      GoString.contains path containerID = true := by
  rw [GoString.contains_iff, ← infix_normalizeCgroupPath_iff h, cgroupPathContainsContainerID,
    normalizeContainerID_of_plain h]
  by_cases hempty : normalizeCgroupPath path = ""
  · rw [if_pos (Or.inl hempty), hempty]
    simpa using h.1
  · rw [if_neg (by simp [hempty, h.1]), GoString.contains_iff]

theorem cgroupPathMatchesContainer_iff {container : ContainerInfo}
    (hpath : container.cgroupPath = "") (h : PlainID container.containerID) (path : String) :
    cgroupPathMatchesContainer path container = true ↔
      GoString.contains path container.containerID = true := by
  have hnone : cgroupPathContains path "" = false := by
    rw [Bool.eq_false_iff, ne_eq, cgroupPathContains_iff]
    exact fun hcontains => hcontains.1 (pathComponents_of_blank rfl)
  rw [cgroupPathMatchesContainer, hpath, hnone, Bool.false_or,
    cgroupPathContainsContainerID_iff h]

theorem mem_of_matchCgroupPaths {s : ContainerStore} (paths : List String) :
    ∀ {order : RangeOrder s} {container : ContainerInfo},
      matchCgroupPaths order paths = some container →
      container ∈ ContainerStore.activeContainers s := by
  induction paths with
  | nil =>
    intro order container h
    cases h
  | cons path paths ih =>
    intro order container h
    unfold matchCgroupPaths at h
    split at h
    · next found hfind =>
      cases h
      exact (order.perm 0).subset (List.mem_of_find?_eq_some hfind)
    · exact ih h

end Match

end GpuFractioning.Mapping
