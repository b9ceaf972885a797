import GpuFractioning.Imagelock.Catalog
import GpuFractioning.Lib.KeyedList
import GpuFractioning.Lib.Grouping

/-!
# The release plan of a catalog

`buildReleasePlan` of `hack/imagelock/catalog.go`: one pass over all
combinations of profile, image and platform, then the checks of what the
exclusions leave. The pass is a fold over the list of combinations; each table
it fills is described by the combinations that are kept.
-/

namespace GpuFractioning.Imagelock

open Fallible

section Types

structure ChartImage where
  name : String
  repo : String
  tag : String
  deriving DecidableEq, Repr

def ChartImage.reference (image : ChartImage) : String := image.repo ++ ":" ++ image.tag

structure LockTarget where
  profile : String
  platform : Platform
  deriving DecidableEq, Repr

structure PlannedImage extends ChartImage where
  profile : String
  platforms : List Platform
  deriving DecidableEq, Repr

structure ReleasePlan where
  targets : List LockTarget
  images : List PlannedImage
  combinationCount : ℕ
  deriving DecidableEq, Repr

/-- What one pass of the innermost loop is about. -/
structure Combination where
  profile : CatalogProfile
  image : CatalogImage
  platform : Platform
  deriving DecidableEq, Repr

def Combination.target (c : Combination) : LockTarget := ⟨c.profile.name, c.platform⟩

/-- The key of the table of planned images. -/
def Combination.key (c : Combination) : String := c.profile.name ++ "\x00" ++ c.image.name

end Types

section Build

def selectorMatches (selector value : String) : Bool :=
  selector = wildcardSelector || selector = value

def CatalogExclusion.covers (exclusion : CatalogExclusion) (c : Combination) : Bool :=
  selectorMatches exclusion.image c.image.name &&
    selectorMatches exclusion.profile c.profile.name &&
    selectorMatches exclusion.platform c.platform.string

/-- The indices of the exclusions that match. -/
def matchingExclusions (exclusions : List CatalogExclusion) (c : Combination) : List ℕ :=
  (exclusions.zipIdx.filter (·.1.covers c)).map Prod.snd

/-- The tag of a profile's images. -/
def CatalogProfile.tag (profile : CatalogProfile) (version : String) : String :=
  GoString.replaceFirst profile.tagTemplate versionPlaceholder version

def ImageCatalog.chartImage (catalog : ImageCatalog) (version : String) (profile : CatalogProfile)
    (image : CatalogImage) : ChartImage :=
  { name := image.name
    repo := catalog.repository ++ "/" ++ image.name
    tag := profile.tag version }

/-- The variables of the pass. -/
structure PlanState where
  matchedExclusions : List ℕ
  targetImageCounts : FiniteMap LockTarget ℕ
  imageCombinationCounts : FiniteMap String ℕ
  planned : FiniteMap String PlannedImage
  combinationCount : ℕ

/-- `counts[key]++`. -/
def increment {κ : Type} [DecidableEq κ] (counts : FiniteMap κ ℕ) (key : κ) : FiniteMap κ ℕ :=
  counts.insert key ((counts.lookup key).getD 0 + 1)

def addPlatform (entry : PlannedImage) (c : Combination) : PlannedImage :=
  { entry with platforms := entry.platforms ++ [c.platform] }

/-- An entry of the table of planned images that has no platform yet. -/
def ImageCatalog.emptyPlanned (catalog : ImageCatalog) (version : String) (c : Combination) :
    PlannedImage :=
  { catalog.chartImage version c.profile c.image with
    profile := c.profile.name
    platforms := [] }

/-- A combination that no exclusion covers. -/
def PlanState.keep (st : PlanState) (catalog : ImageCatalog) (version : String)
    (c : Combination) : PlanState :=
  { st with
    targetImageCounts := increment st.targetImageCounts c.target
    imageCombinationCounts := increment st.imageCombinationCounts c.image.name
    combinationCount := st.combinationCount + 1
    planned := st.planned.insert c.key
      (addPlatform ((st.planned.lookup c.key).getD (catalog.emptyPlanned version c)) c) }

/-- A combination that one exclusion covers. -/
def PlanState.countExclusion (st : PlanState) (index : ℕ) : PlanState :=
  { st with matchedExclusions := st.matchedExclusions.modify index (· + 1) }

def formatInts (values : List ℕ) : String :=
  "[" ++ " ".intercalate (values.map fun n => GoStrconv.formatInt n) ++ "]"

def planCombination (catalog : ImageCatalog) (version : String) (st : PlanState)
    (c : Combination) : Except String PlanState :=
  match matchingExclusions catalog.exclude c with
  | [] => .ok (st.keep catalog version c)
  | [index] => .ok (st.countExclusion index)
  | matching =>
    .error (c.image.name ++ "/" ++ c.profile.name ++ "/" ++ c.platform.string ++
      " is covered by overlapping exclusions " ++ formatInts matching)

def planImage (names : Names) (catalog : ImageCatalog) (version : String)
    (profile : CatalogProfile) (st : PlanState) (image : CatalogImage) :
    Except String PlanState := do
  (names.newTag (catalog.chartImage version profile image).reference).mapError fun err =>
    "profile " ++ GoText.quote profile.name ++ " produces invalid reference for image " ++
      GoText.quote image.name ++ ": " ++ err
  catalog.platforms.foldlM
    (fun st platform => planCombination catalog version st ⟨profile, image, platform⟩) st

def planProfile (names : Names) (catalog : ImageCatalog) (version : String) (st : PlanState)
    (profile : CatalogProfile) : Except String PlanState :=
  catalog.images.foldlM (planImage names catalog version profile) st

def PlanState.initial (catalog : ImageCatalog) : PlanState :=
  { matchedExclusions := List.replicate catalog.exclude.length 0
    targetImageCounts := ∅
    imageCombinationCounts := ∅
    planned := ∅
    combinationCount := 0 }

/-- One target, if the exclusions leave it an image. -/
def planTarget (st : PlanState) (profile : CatalogProfile) (targets : List LockTarget)
    (platform : Platform) : Except String (List LockTarget) := do
  require ((st.targetImageCounts.lookup ⟨profile.name, platform⟩).getD 0 ≠ 0)
    ("exclusions leave " ++ profile.name ++ "/" ++ platform.string ++ " with no images")
  pure (targets ++ [⟨profile.name, platform⟩])

def targetLess (t t' : LockTarget) : Bool :=
  if t.profile ≠ t'.profile then t.profile < t'.profile
  else t.platform.string < t'.platform.string

def plannedLess (image image' : PlannedImage) : Bool :=
  if image.profile ≠ image'.profile then image.profile < image'.profile
  else image.name < image'.name

def buildReleasePlan (names : Names) (catalog : ImageCatalog) (version : String) :
    Except String ReleasePlan := do
  let st ← catalog.profiles.foldlM (planProfile names catalog version) (PlanState.initial catalog)
  st.matchedExclusions.zipIdx.forM fun entry =>
    require (entry.1 ≠ 0)
      (exclusionField entry.2 ++ " does not match any image/profile/platform combination")
  catalog.images.forM fun image =>
    require ((st.imageCombinationCounts.lookup image.name).getD 0 ≠ 0)
      ("exclusions remove image " ++ GoText.quote image.name ++
        " from every profile/platform combination")
  let targets ← catalog.profiles.foldlM
    (fun targets profile => catalog.platforms.foldlM (planTarget st profile) targets) []
  pure
    { targets := GoSort.slice targetLess targets
      -- the range over the table has no order of its own; the images are sorted by their keys
      images := GoSort.slice plannedLess (st.planned.pairs.map Prod.snd)
      combinationCount := st.combinationCount }

end Build

section Pass

variable (names : Names) (catalog : ImageCatalog) (version : String)

/-- Every combination, in the order of the three loops. -/
def ImageCatalog.combinations : List Combination :=
  catalog.profiles.flatMap fun profile =>
    catalog.images.flatMap fun image =>
      catalog.platforms.map fun platform => ⟨profile, image, platform⟩

/-- No exclusion covers the combination. -/
def ImageCatalog.keeps (c : Combination) : Bool := !catalog.exclude.any (·.covers c)

/-- What a combination does to the variables where exclusions do not overlap. -/
def planNext (st : PlanState) (c : Combination) : PlanState :=
  match matchingExclusions catalog.exclude c with
  | [] => st.keep catalog version c
  | index :: _ => st.countExclusion index

/-- The variables after the pass. -/
def ImageCatalog.planState : PlanState :=
  catalog.combinations.foldl (planNext catalog version) (PlanState.initial catalog)

/-- The reference of an image under a profile is well formed, and exclusions do not overlap. -/
def ImageClear (profile : CatalogProfile) (image : CatalogImage) : Prop :=
  names.newTag (catalog.chartImage version profile image).reference = .ok () ∧
    ∀ platform ∈ catalog.platforms,
      (matchingExclusions catalog.exclude ⟨profile, image, platform⟩).length ≤ 1

variable {names catalog version}

theorem mem_combinations {c : Combination} :
    c ∈ catalog.combinations ↔
      c.profile ∈ catalog.profiles ∧ c.image ∈ catalog.images ∧ c.platform ∈ catalog.platforms := by
  simp only [ImageCatalog.combinations, List.mem_flatMap, List.mem_map]
  constructor
  · rintro ⟨profile, hprofile, image, himage, platform, hplatform, rfl⟩
    exact ⟨hprofile, himage, hplatform⟩
  · rintro ⟨hprofile, himage, hplatform⟩
    exact ⟨c.profile, hprofile, c.image, himage, c.platform, hplatform, rfl⟩

theorem planCombination_eq_ok_iff {st st' : PlanState} {c : Combination} :
    planCombination catalog version st c = .ok st' ↔
      (matchingExclusions catalog.exclude c).length ≤ 1 ∧ st' = planNext catalog version st c := by
  unfold planCombination planNext
  cases hmatching : matchingExclusions catalog.exclude c with
  | nil => simp [eq_comm]
  | cons index rest =>
    cases rest with
    | nil => simp [eq_comm]
    | cons index' rest => simp

theorem planImage_eq_ok_iff {profile : CatalogProfile} {st st' : PlanState} {image : CatalogImage} :
    planImage names catalog version profile st image = .ok st' ↔
      ImageClear names catalog version profile image ∧
        st' = catalog.platforms.foldl
          (fun st platform => planNext catalog version st ⟨profile, image, platform⟩) st := by
  have hplatforms := foldlM_eq_ok_iff
    (fun platform => (matchingExclusions catalog.exclude ⟨profile, image, platform⟩).length ≤ 1)
    (fun st platform => planNext catalog version st ⟨profile, image, platform⟩)
    (fun st platform st' => planCombination_eq_ok_iff) catalog.platforms st st'
  rw [planImage, bind_eq_ok_iff]
  constructor
  · rintro ⟨⟨⟩, htag, hloop⟩
    obtain ⟨hclear, heq⟩ := hplatforms.mp hloop
    exact ⟨⟨mapError_eq_ok_iff.mp htag, hclear⟩, heq⟩
  · rintro ⟨⟨htag, hclear⟩, heq⟩
    exact ⟨(), mapError_eq_ok_iff.mpr htag, hplatforms.mpr ⟨hclear, heq⟩⟩

theorem planProfile_eq_ok_iff {st st' : PlanState} {profile : CatalogProfile} :
    planProfile names catalog version st profile = .ok st' ↔
      (∀ image ∈ catalog.images, ImageClear names catalog version profile image) ∧
        st' = catalog.images.foldl (fun st image => catalog.platforms.foldl
          (fun st platform => planNext catalog version st ⟨profile, image, platform⟩) st) st :=
  foldlM_eq_ok_iff (ImageClear names catalog version profile) _
    (fun _ _ _ => planImage_eq_ok_iff) catalog.images st st'

theorem foldlM_planProfile_eq_ok_iff {st : PlanState} :
    catalog.profiles.foldlM (planProfile names catalog version) (PlanState.initial catalog) =
        .ok st ↔
      (∀ profile ∈ catalog.profiles, ∀ image ∈ catalog.images,
        ImageClear names catalog version profile image) ∧
        st = catalog.planState version := by
  rw [foldlM_eq_ok_iff
    (fun profile => ∀ image ∈ catalog.images, ImageClear names catalog version profile image) _
    (fun _ _ _ => planProfile_eq_ok_iff), ImageCatalog.planState, ImageCatalog.combinations]
  simp only [List.foldl_flatMap, List.foldl_map]

end Pass

section Exclusions

variable {exclude : List CatalogExclusion} {c : Combination}

theorem mem_matchingExclusions {index : ℕ} :
    index ∈ matchingExclusions exclude c ↔
      ∃ exclusion, exclude[index]? = some exclusion ∧ exclusion.covers c = true := by
  simp only [matchingExclusions, List.mem_map, List.mem_filter, Prod.exists, exists_eq_right,
    List.mem_zipIdx_iff_getElem?]

theorem length_matchingExclusions (exclude : List CatalogExclusion) (c : Combination) :
    (matchingExclusions exclude c).length = (exclude.filter (·.covers c)).length := by
  have hfst : exclude.zipIdx.map Prod.fst = exclude := List.zipIdx_map_fst 0 exclude
  nth_rewrite 2 [← hfst]
  rw [matchingExclusions, List.length_map, List.filter_map, List.length_map]
  rfl

theorem matchingExclusions_eq_nil_iff (catalog : ImageCatalog) (c : Combination) :
    matchingExclusions catalog.exclude c = [] ↔ catalog.keeps c = true := by
  rw [← List.length_eq_zero_iff, length_matchingExclusions, List.length_eq_zero_iff,
    List.filter_eq_nil_iff]
  simp [ImageCatalog.keeps]

theorem keeps_iff {catalog : ImageCatalog} {c : Combination} :
    catalog.keeps c = true ↔ ∀ exclusion ∈ catalog.exclude, exclusion.covers c = false := by
  simp [ImageCatalog.keeps]

end Exclusions

section Tables

variable {catalog : ImageCatalog} {version : String}

/-- The combinations that are released. -/
def ImageCatalog.kept (catalog : ImageCatalog) : List Combination :=
  catalog.combinations.filter catalog.keeps

theorem field_planState {γ : Type} (field : PlanState → γ) (g : γ → Combination → γ)
    (hkeep : ∀ st c, field (st.keep catalog version c) = g (field st) c)
    (hexclude : ∀ st index, field (st.countExclusion index) = field st) :
    field (catalog.planState version) =
      catalog.kept.foldl g (field (PlanState.initial catalog)) := by
  unfold ImageCatalog.planState ImageCatalog.kept
  generalize PlanState.initial catalog = st
  induction catalog.combinations generalizing st with
  | nil => rfl
  | cons c cs ih =>
    rw [List.foldl_cons, ih]
    have hkeeps := matchingExclusions_eq_nil_iff catalog c
    unfold planNext
    cases hmatching : matchingExclusions catalog.exclude c with
    | nil =>
      rw [List.filter_cons_of_pos (hkeeps.mp hmatching), List.foldl_cons]
      simp only [hkeep]
    | cons index rest =>
      rw [List.filter_cons_of_neg fun h => by simp [hkeeps.mpr h] at hmatching]
      simp only [hexclude]

theorem combinationCount_planState :
    (catalog.planState version).combinationCount = catalog.kept.length := by
  rw [field_planState PlanState.combinationCount (fun n _ => n + 1) (fun _ _ => rfl)
    (fun _ _ => rfl)]
  have hcount : ∀ (cs : List Combination) (n : ℕ),
      cs.foldl (fun n _ => n + 1) n = n + cs.length := by
    intro cs
    induction cs with
    | nil => simp
    | cons c cs ih =>
      intro n
      rw [List.foldl_cons, ih, List.length_cons]
      omega
  rw [hcount, PlanState.initial, Nat.zero_add]

theorem targetImageCounts_planState (target : LockTarget) :
    ((catalog.planState version).targetImageCounts.lookup target).getD 0 =
      (catalog.kept.filter (·.target = target)).length := by
  rw [field_planState PlanState.targetImageCounts (fun m c => increment m c.target)
    (fun _ _ => rfl) (fun _ _ => rfl)]
  exact FiniteMap.getD_lookup_count Combination.target catalog.kept target

theorem imageCombinationCounts_planState (name : String) :
    ((catalog.planState version).imageCombinationCounts.lookup name).getD 0 =
      (catalog.kept.filter (·.image.name = name)).length := by
  rw [field_planState PlanState.imageCombinationCounts (fun m c => increment m c.image.name)
    (fun _ _ => rfl) (fun _ _ => rfl)]
  exact FiniteMap.getD_lookup_count (fun c : Combination => c.image.name) catalog.kept name

theorem planned_planState :
    (catalog.planState version).planned =
      FiniteMap.gather Combination.key (catalog.emptyPlanned version) addPlatform catalog.kept ∅ :=
  field_planState PlanState.planned
    (fun m c => m.insert c.key
      (addPlatform ((m.lookup c.key).getD (catalog.emptyPlanned version c)) c))
    (fun _ _ => rfl) (fun _ _ => rfl)

/-- An exclusion is counted once for each combination it comes first for. -/
theorem matchedExclusions_planState (index : ℕ) :
    (catalog.planState version).matchedExclusions[index]? =
      (List.replicate catalog.exclude.length 0)[index]?.map
        (· + catalog.combinations.countP
          fun c => (matchingExclusions catalog.exclude c).head? = some index) := by
  have hloop : ∀ (cs : List Combination) (st : PlanState),
      (cs.foldl (planNext catalog version) st).matchedExclusions[index]? =
        st.matchedExclusions[index]?.map
          (· + cs.countP fun c => (matchingExclusions catalog.exclude c).head? = some index) := by
    intro cs
    induction cs with
    | nil => simp
    | cons c cs ih =>
      intro st
      rw [List.foldl_cons, ih]
      unfold planNext
      cases hmatching : matchingExclusions catalog.exclude c with
      | nil => simp [hmatching, PlanState.keep]
      | cons first rest =>
        by_cases hfirst : first = index
        · subst hfirst
          simp [hmatching, PlanState.countExclusion, Option.map_map, Function.comp_def,
            Nat.add_assoc, Nat.add_comm]
        · simp [hmatching, PlanState.countExclusion, hfirst]
  exact hloop catalog.combinations (PlanState.initial catalog)

end Tables

section Success

variable {names : Names} {catalog : ImageCatalog} {version : String}

/-- What the exclusions of a catalog must be like for it to be released. -/
structure Releasable (catalog : ImageCatalog) : Prop where
  /-- Every exclusion covers something. -/
  matched : ∀ exclusion ∈ catalog.exclude, ∃ c ∈ catalog.combinations, exclusion.covers c = true
  /-- Nothing is covered twice. -/
  noOverlap : ∀ c ∈ catalog.combinations, (catalog.exclude.filter (·.covers c)).length ≤ 1
  imageKept : ∀ image ∈ catalog.images, ∃ profile ∈ catalog.profiles,
    ∃ platform ∈ catalog.platforms, catalog.keeps ⟨profile, image, platform⟩ = true
  targetKept : ∀ profile ∈ catalog.profiles, ∀ platform ∈ catalog.platforms,
    ∃ image ∈ catalog.images, catalog.keeps ⟨profile, image, platform⟩ = true

/-- Every profile on every platform, in the order of the loops. -/
def ImageCatalog.targets (catalog : ImageCatalog) : List LockTarget :=
  catalog.profiles.flatMap fun profile => catalog.platforms.map fun platform =>
    ⟨profile.name, platform⟩

/-- The plan of a catalog whose exclusions are in order. -/
def ImageCatalog.releasePlan (catalog : ImageCatalog) (version : String) : ReleasePlan :=
  { targets := GoSort.slice targetLess catalog.targets
    images := GoSort.slice plannedLess ((catalog.planState version).planned.pairs.map Prod.snd)
    combinationCount := catalog.kept.length }

theorem mem_kept {c : Combination} :
    c ∈ catalog.kept ↔ c ∈ catalog.combinations ∧ catalog.keeps c = true := List.mem_filter

theorem matchedExclusions_ne_zero_iff
    (hclear : ∀ c ∈ catalog.combinations, (matchingExclusions catalog.exclude c).length ≤ 1) :
    (∀ n ∈ (catalog.planState version).matchedExclusions, n ≠ 0) ↔
      ∀ exclusion ∈ catalog.exclude, ∃ c ∈ catalog.combinations, exclusion.covers c = true := by
  constructor
  · intro hcounts exclusion hexclusion
    obtain ⟨index, hindex⟩ := List.mem_iff_getElem?.mp hexclusion
    obtain ⟨hlt, -⟩ := List.getElem?_eq_some_iff.mp hindex
    have hcount : (catalog.planState version).matchedExclusions[index]? =
        some (catalog.combinations.countP
          fun c => (matchingExclusions catalog.exclude c).head? = some index) := by
      rw [matchedExclusions_planState, List.getElem?_replicate, if_pos hlt, Option.map_some,
        Nat.zero_add]
    have hpos := hcounts _ (List.mem_of_getElem? hcount)
    obtain ⟨c, hc, hhead⟩ := List.countP_pos_iff.mp (Nat.pos_of_ne_zero hpos)
    refine ⟨c, hc, ?_⟩
    have hmem : index ∈ matchingExclusions catalog.exclude c :=
      List.mem_of_head? (of_decide_eq_true hhead)
    obtain ⟨exclusion', hexclusion', hcovers⟩ := mem_matchingExclusions.mp hmem
    rw [hindex, Option.some.injEq] at hexclusion'
    rw [hexclusion']
    exact hcovers
  · intro hmatched n hn hzero
    obtain ⟨index, hindex⟩ := List.mem_iff_getElem?.mp hn
    rw [matchedExclusions_planState, List.getElem?_replicate] at hindex
    split_ifs at hindex with hlt
    · rw [Option.map_some, Nat.zero_add, Option.some.injEq] at hindex
      obtain ⟨c, hc, hcovers⟩ := hmatched _ (List.getElem_mem hlt)
      have hmem : index ∈ matchingExclusions catalog.exclude c :=
        mem_matchingExclusions.mpr ⟨_, List.getElem?_eq_getElem hlt, hcovers⟩
      have hhead : (matchingExclusions catalog.exclude c).head? = some index := by
        have hlength := hclear c hc
        cases hmatching : matchingExclusions catalog.exclude c with
        | nil => simp [hmatching] at hmem
        | cons first rest =>
          rw [hmatching] at hmem hlength
          have hrest : rest = [] := by
            apply List.length_eq_zero_iff.mp
            simp only [List.length_cons] at hlength
            omega
          rw [hrest, List.mem_singleton] at hmem
          rw [List.head?_cons, hmem]
      have hpos : 0 < catalog.combinations.countP
          fun c => (matchingExclusions catalog.exclude c).head? = some index :=
        List.countP_pos_iff.mpr ⟨c, hc, decide_eq_true hhead⟩
      omega
    · cases hindex

theorem imageCombinationCounts_ne_zero_iff {image : CatalogImage}
    (himage : image ∈ catalog.images) :
    ((catalog.planState version).imageCombinationCounts.lookup image.name).getD 0 ≠ 0 ↔
      ∃ profile ∈ catalog.profiles, ∃ platform ∈ catalog.platforms,
        catalog.keeps ⟨profile, image, platform⟩ = true := by
  rw [imageCombinationCounts_planState, ne_eq, List.length_eq_zero_iff, List.filter_eq_nil_iff]
  push Not
  constructor
  · rintro ⟨c, hc, hname⟩
    obtain ⟨hin, hkeeps⟩ := mem_kept.mp hc
    obtain ⟨hprofile, -, hplatform⟩ := mem_combinations.mp hin
    refine ⟨c.profile, hprofile, c.platform, hplatform, ?_⟩
    have hsame : c.image = image := by
      cases hci : c.image
      cases image
      simp_all
    rw [← hsame]
    exact hkeeps
  · rintro ⟨profile, hprofile, platform, hplatform, hkeeps⟩
    exact ⟨⟨profile, image, platform⟩,
      mem_kept.mpr ⟨mem_combinations.mpr ⟨hprofile, himage, hplatform⟩, hkeeps⟩, by simp⟩

theorem targetImageCounts_ne_zero_iff {profile : CatalogProfile} {platform : Platform}
    (hprofile : profile ∈ catalog.profiles) (hplatform : platform ∈ catalog.platforms) :
    ((catalog.planState version).targetImageCounts.lookup ⟨profile.name, platform⟩).getD 0 ≠ 0 ↔
      ∃ image ∈ catalog.images, catalog.keeps ⟨profile, image, platform⟩ = true := by
  rw [targetImageCounts_planState, ne_eq, List.length_eq_zero_iff, List.filter_eq_nil_iff]
  push Not
  constructor
  · rintro ⟨c, hc, htarget⟩
    obtain ⟨hin, hkeeps⟩ := mem_kept.mp hc
    refine ⟨c.image, (mem_combinations.mp hin).2.1, ?_⟩
    have hboth : c.profile.name = profile.name ∧ c.platform = platform := by
      simpa [Combination.target] using htarget
    rw [keeps_iff] at hkeeps ⊢
    intro exclusion hexclusion
    rw [← hkeeps exclusion hexclusion]
    simp only [CatalogExclusion.covers, hboth.1, hboth.2]
  · rintro ⟨image, himage, hkeeps⟩
    exact ⟨⟨profile, image, platform⟩,
      mem_kept.mpr ⟨mem_combinations.mpr ⟨hprofile, himage, hplatform⟩, hkeeps⟩,
      by simp [Combination.target]⟩

theorem planTargets_eq_ok_iff {st : PlanState} {targets : List LockTarget} :
    catalog.profiles.foldlM
        (fun targets profile => catalog.platforms.foldlM (planTarget st profile) targets) [] =
        .ok targets ↔
      (∀ profile ∈ catalog.profiles, ∀ platform ∈ catalog.platforms,
        (st.targetImageCounts.lookup ⟨profile.name, platform⟩).getD 0 ≠ 0) ∧
        targets = catalog.targets := by
  have hplatform : ∀ profile targets platform targets',
      planTarget st profile targets platform = .ok targets' ↔
        (st.targetImageCounts.lookup ⟨profile.name, platform⟩).getD 0 ≠ 0 ∧
          targets' = targets ++ [⟨profile.name, platform⟩] := by
    intro profile targets platform targets'
    simp only [planTarget, bind_eq_ok_iff, require_eq_ok_iff, decide_eq_true_eq, pure_eq_ok_iff]
    constructor
    · rintro ⟨-, hcount, rfl⟩
      exact ⟨hcount, rfl⟩
    · rintro ⟨hcount, rfl⟩
      exact ⟨(), hcount, rfl⟩
  have hprofile := fun targets profile targets' =>
    foldlM_eq_ok_iff _ _ (hplatform profile) catalog.platforms targets targets'
  rw [foldlM_eq_ok_iff _ _ hprofile]
  have hlist : catalog.targets = catalog.profiles.foldl (fun targets profile =>
      catalog.platforms.foldl (fun targets platform => targets ++ [⟨profile.name, platform⟩])
        targets) [] := by
    simp only [List.foldl_append_eq_append, ← List.flatMap_def, List.nil_append]
    simp only [ImageCatalog.targets, List.map_eq_flatMap]
  rw [hlist]

theorem releasable_iff :
    Releasable catalog ↔
      (∀ c ∈ catalog.combinations, (matchingExclusions catalog.exclude c).length ≤ 1) ∧
      (∀ n ∈ (catalog.planState version).matchedExclusions, n ≠ 0) ∧
      (∀ image ∈ catalog.images,
        ((catalog.planState version).imageCombinationCounts.lookup image.name).getD 0 ≠ 0) ∧
      ∀ profile ∈ catalog.profiles, ∀ platform ∈ catalog.platforms,
        ((catalog.planState version).targetImageCounts.lookup ⟨profile.name, platform⟩).getD 0 ≠
          0 := by
  constructor
  · intro h
    have hclear : ∀ c ∈ catalog.combinations,
        (matchingExclusions catalog.exclude c).length ≤ 1 := fun c hc =>
      (length_matchingExclusions catalog.exclude c).trans_le (h.noOverlap c hc)
    refine ⟨hclear, (matchedExclusions_ne_zero_iff hclear).mpr h.matched, ?_, ?_⟩
    · exact fun image himage =>
        (imageCombinationCounts_ne_zero_iff himage).mpr (h.imageKept image himage)
    · exact fun profile hprofile platform hplatform =>
        (targetImageCounts_ne_zero_iff hprofile hplatform).mpr
          (h.targetKept profile hprofile platform hplatform)
  · rintro ⟨hclear, hmatched, himages, htargets⟩
    exact
      { matched := (matchedExclusions_ne_zero_iff hclear).mp hmatched
        noOverlap := fun c hc =>
          (length_matchingExclusions catalog.exclude c).symm.trans_le (hclear c hc)
        imageKept := fun image himage =>
          (imageCombinationCounts_ne_zero_iff himage).mp (himages image himage)
        targetKept := fun profile hprofile platform hplatform =>
          (targetImageCounts_ne_zero_iff hprofile hplatform).mp
            (htargets profile hprofile platform hplatform) }

theorem forall_imageClear_iff :
    (∀ profile ∈ catalog.profiles, ∀ image ∈ catalog.images,
        ImageClear names catalog version profile image) ↔
      (∀ profile ∈ catalog.profiles, ∀ image ∈ catalog.images,
        names.newTag (catalog.chartImage version profile image).reference = .ok ()) ∧
      ∀ c ∈ catalog.combinations, (matchingExclusions catalog.exclude c).length ≤ 1 := by
  constructor
  · intro h
    refine ⟨fun profile hprofile image himage => (h profile hprofile image himage).1, ?_⟩
    intro c hc
    obtain ⟨hprofile, himage, hplatform⟩ := mem_combinations.mp hc
    exact (h c.profile hprofile c.image himage).2 c.platform hplatform
  · rintro ⟨htags, hclear⟩ profile hprofile image himage
    exact ⟨htags profile hprofile image himage, fun platform hplatform =>
      hclear _ (mem_combinations.mpr ⟨hprofile, himage, hplatform⟩)⟩

theorem buildReleasePlan_eq_ok_iff {plan : ReleasePlan} :
    buildReleasePlan names catalog version = .ok plan ↔
      (∀ profile ∈ catalog.profiles, ∀ image ∈ catalog.images,
        names.newTag (catalog.chartImage version profile image).reference = .ok ()) ∧
      Releasable catalog ∧ plan = catalog.releasePlan version := by
  simp only [buildReleasePlan, bind_eq_ok_iff, foldlM_planProfile_eq_ok_iff, forM_eq_ok_iff,
    require_eq_ok_iff, decide_eq_true_eq, planTargets_eq_ok_iff, pure_eq_ok_iff,
    forall_imageClear_iff]
  constructor
  · rintro ⟨st, ⟨⟨htags, hclear⟩, rfl⟩, -, hmatched, -, himages, targets, ⟨htargets, rfl⟩, rfl⟩
    rw [forall_mem_zipIdx_iff (P := (· ≠ 0))] at hmatched
    refine ⟨htags, releasable_iff.mpr ⟨hclear, hmatched, himages, htargets⟩, ?_⟩
    rw [ImageCatalog.releasePlan, combinationCount_planState]
  · rintro ⟨htags, hreleasable, rfl⟩
    obtain ⟨hclear, hmatched, himages, htargets⟩ := releasable_iff.mp hreleasable
    refine ⟨_, ⟨⟨htags, hclear⟩, rfl⟩, (), ?_, (), himages, _, ⟨htargets, rfl⟩, ?_⟩
    · rw [forall_mem_zipIdx_iff (P := (· ≠ 0))]
      exact hmatched
    · rw [ImageCatalog.releasePlan, combinationCount_planState]

end Success

end GpuFractioning.Imagelock
