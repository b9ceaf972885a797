import GpuFractioning.Lib.Fallible
import GpuFractioning.Lib.GoStrconv
import GpuFractioning.Lib.GoString
import GpuFractioning.Lib.GoText

/-!
# The catalog of released images

The types and `validateCatalog` of `hack/imagelock/catalog.go`. A catalog lists
images, profiles and platforms; every combination of them is released unless an
exclusion covers it. What is accepted is said once, as a structure of facts.
-/

namespace GpuFractioning.Imagelock

open Fallible

section Types

structure Platform where
  os : String
  architecture : String
  deriving DecidableEq, Repr

/-- `String`. -/
def Platform.string (p : Platform) : String := p.os ++ "/" ++ p.architecture

structure CatalogImage where
  name : String
  deriving DecidableEq, Repr

structure CatalogProfile where
  name : String
  tagTemplate : String
  deriving DecidableEq, Repr

structure CatalogExclusion where
  image : String
  profile : String
  platform : String
  reason : String
  deriving DecidableEq, Repr

structure ImageCatalog where
  apiVersion : String
  name : String
  artifactName : String
  repository : String
  images : List CatalogImage
  profiles : List CatalogProfile
  platforms : List Platform
  exclude : List CatalogExclusion
  deriving DecidableEq, Repr

/-- What the registry library makes of a name: nothing, or the text of an error. -/
structure Names where
  newRepository : String → Except String Unit
  newTag : String → Except String Unit

end Types

section Validate

def catalogAPIVersion : String := "imagelock.kai-scheduler.io/v1alpha1"

/-- The word `version` in double braces. -/
def versionPlaceholder : String := "\x7b\x7bversion\x7d\x7d"

def wildcardSelector : String := "*"

def isNameChar (c : Char) : Bool := ('a' ≤ c && c ≤ 'z') || ('0' ≤ c && c ≤ '9')

/-- Runs of name characters with single hyphens or dots between them; `after` says whether
the last character read belongs to a run. -/
def matchName : Bool → List Char → Bool
  | after, [] => after
  | after, c :: cs =>
    if isNameChar c then matchName true cs
    else after && (c = '-' || c = '.') && matchName false cs

/-- The regular expression `catalogName`. -/
def catalogName (value : String) : Bool := matchName false value.toList

def imageNames (images : List CatalogImage) : List String := images.map CatalogImage.name

def profileNames (profiles : List CatalogProfile) : List String :=
  profiles.map CatalogProfile.name

def nameError (what value : String) : String :=
  what ++ " " ++ GoText.quote value ++ " must contain lowercase letters, digits, dots, or hyphens"

def uniqueCatalogNames (kind : String) (values : List String) : Except String (List String) := do
  require (values ≠ []) ("catalog must contain at least one " ++ kind)
  collectDistinct (fun value => require (catalogName value) (nameError (kind ++ " name") value)) id
    (fun value => "duplicate " ++ kind ++ " " ++ GoText.quote value) values

/-- Both parts are there, and no slash makes the text of a platform ambiguous. -/
def Platform.valid (p : Platform) : Bool :=
  p.os ≠ "" && p.architecture ≠ "" && !GoString.contains p.os "/" &&
    !GoString.contains p.architecture "/"

def uniquePlatforms (entries : List Platform) : Except String (List String) := do
  require (entries ≠ []) "catalog must contain at least one platform"
  collectDistinct
    (fun entry => require entry.valid
      ("invalid platform " ++ GoText.quote entry.string ++ ", want non-empty os and architecture"))
    Platform.string (fun entry => "duplicate platform " ++ GoText.quote entry.string) entries

def validateSelector (kind selector : String) (known : List String) : Except String Unit :=
  if selector = wildcardSelector then .ok ()
  else if selector = "" then .error (kind ++ " selector must not be empty")
  else require (selector ∈ known) ("unknown " ++ kind ++ " selector " ++ GoText.quote selector)

/-- How an error names an exclusion. -/
def exclusionField (index : ℕ) : String := "exclude[" ++ GoStrconv.formatInt index ++ "]"

def validateExclusion (images profiles platforms : List String)
    (entry : CatalogExclusion × ℕ) : Except String Unit := do
  let (exclusion, index) := entry
  let wrap (err : String) : String := exclusionField index ++ ": " ++ err
  require (GoString.trimSpace exclusion.reason ≠ "")
    (exclusionField index ++ " must include a reason")
  (validateSelector "image" exclusion.image images).mapError wrap
  (validateSelector "profile" exclusion.profile profiles).mapError wrap
  (validateSelector "platform" exclusion.platform platforms).mapError wrap

/-- What tells exclusions apart. -/
def CatalogExclusion.key (exclusion : CatalogExclusion) : String :=
  exclusion.image ++ "\x00" ++ exclusion.profile ++ "\x00" ++ exclusion.platform

def validateCatalog (names : Names) (catalog : ImageCatalog) : Except String Unit := do
  require (catalog.apiVersion = catalogAPIVersion)
    ("apiVersion must be " ++ GoText.quote catalogAPIVersion ++ ", got " ++
      GoText.quote catalog.apiVersion)
  require (catalogName catalog.name) (nameError "name" catalog.name)
  require (catalogName catalog.artifactName) (nameError "artifactName" catalog.artifactName)
  require (!GoString.hasSuffix catalog.repository "/")
    ("repository " ++ GoText.quote catalog.repository ++ " must not have a trailing slash")
  (names.newRepository catalog.repository).mapError fun err =>
    "invalid repository " ++ GoText.quote catalog.repository ++ ": " ++ err
  let images ← uniqueCatalogNames "image" (imageNames catalog.images)
  let profiles ← uniqueCatalogNames "profile" (profileNames catalog.profiles)
  let platforms ← uniquePlatforms catalog.platforms
  catalog.profiles.forM fun profile =>
    require (GoString.count profile.tagTemplate versionPlaceholder = 1)
      ("profile " ++ GoText.quote profile.name ++ " tagTemplate must contain " ++
        GoText.quote versionPlaceholder ++ " exactly once")
  let _ ← collectDistinct (validateExclusion images profiles platforms) (·.1.key)
    (fun entry => exclusionField entry.2 ++ " duplicates an earlier exclusion")
    catalog.exclude.zipIdx

end Validate

section Accepted

/-- A list of names that can be referred to. -/
structure DistinctNames (values : List String) : Prop where
  nonempty : values ≠ []
  valid : ∀ value ∈ values, catalogName value = true
  nodup : values.Nodup

structure DistinctPlatforms (platforms : List Platform) : Prop where
  nonempty : platforms ≠ []
  valid : ∀ p ∈ platforms, p.valid = true
  nodup : (platforms.map Platform.string).Nodup

/-- The wildcard or something that is listed. -/
def KnownSelector (selector : String) (known : List String) : Prop :=
  selector = wildcardSelector ∨ selector ≠ "" ∧ selector ∈ known

structure ValidExclusion (catalog : ImageCatalog) (exclusion : CatalogExclusion) : Prop where
  reason : GoString.trimSpace exclusion.reason ≠ ""
  image : KnownSelector exclusion.image (imageNames catalog.images)
  profile : KnownSelector exclusion.profile (profileNames catalog.profiles)
  platform : KnownSelector exclusion.platform (catalog.platforms.map Platform.string)

/-- The facts about a catalog that validation establishes. -/
structure Accepted (names : Names) (catalog : ImageCatalog) : Prop where
  apiVersion : catalog.apiVersion = catalogAPIVersion
  name : catalogName catalog.name = true
  artifactName : catalogName catalog.artifactName = true
  noSlash : GoString.hasSuffix catalog.repository "/" = false
  repository : names.newRepository catalog.repository = .ok ()
  images : DistinctNames (imageNames catalog.images)
  profiles : DistinctNames (profileNames catalog.profiles)
  platforms : DistinctPlatforms catalog.platforms
  templates : ∀ profile ∈ catalog.profiles,
    GoString.count profile.tagTemplate versionPlaceholder = 1
  exclusions : ∀ exclusion ∈ catalog.exclude, ValidExclusion catalog exclusion
  distinct : (catalog.exclude.map CatalogExclusion.key).Nodup

theorem uniqueCatalogNames_eq_ok_iff {kind : String} {values known : List String} :
    uniqueCatalogNames kind values = .ok known ↔ DistinctNames values ∧ known = values := by
  simp only [uniqueCatalogNames, bind_eq_ok_iff, require_eq_ok_iff, decide_eq_true_eq,
    collectDistinct_eq_ok_iff, List.map_id]
  constructor
  · rintro ⟨-, hne, hvalid, hnodup, hknown⟩
    exact ⟨⟨hne, hvalid, hnodup⟩, hknown⟩
  · rintro ⟨h, hknown⟩
    exact ⟨(), h.nonempty, h.valid, h.nodup, hknown⟩

theorem uniquePlatforms_eq_ok_iff {entries : List Platform} {known : List String} :
    uniquePlatforms entries = .ok known ↔
      DistinctPlatforms entries ∧ known = entries.map Platform.string := by
  simp only [uniquePlatforms, bind_eq_ok_iff, require_eq_ok_iff, decide_eq_true_eq,
    collectDistinct_eq_ok_iff]
  constructor
  · rintro ⟨-, hne, hvalid, hnodup, hknown⟩
    exact ⟨⟨hne, hvalid, hnodup⟩, hknown⟩
  · rintro ⟨h, hknown⟩
    exact ⟨(), h.nonempty, h.valid, h.nodup, hknown⟩

theorem validateSelector_eq_ok_iff {kind selector : String} {known : List String} {u : Unit} :
    validateSelector kind selector known = .ok u ↔ KnownSelector selector known := by
  unfold validateSelector KnownSelector
  split_ifs with hwild hempty
  · simp [hwild]
  · simp [hempty, wildcardSelector]
  · simp [hwild, hempty]

theorem validateExclusion_eq_ok_iff {catalog : ImageCatalog} {entry : CatalogExclusion × ℕ} :
    validateExclusion (imageNames catalog.images) (profileNames catalog.profiles)
        (catalog.platforms.map Platform.string) entry = .ok () ↔
      ValidExclusion catalog entry.1 := by
  simp only [validateExclusion, bind_eq_ok_iff, require_eq_ok_iff, decide_eq_true_eq,
    mapError_eq_ok_iff, validateSelector_eq_ok_iff]
  constructor
  · rintro ⟨-, hreason, -, himage, -, hprofile, hplatform⟩
    exact ⟨hreason, himage, hprofile, hplatform⟩
  · intro h
    exact ⟨(), h.reason, (), h.image, (), h.profile, h.platform⟩

theorem map_key_zipIdx (exclude : List CatalogExclusion) :
    exclude.zipIdx.map (·.1.key) = exclude.map CatalogExclusion.key := by
  have hfst : exclude.zipIdx.map Prod.fst = exclude := List.zipIdx_map_fst 0 exclude
  nth_rewrite 2 [← hfst]
  rw [List.map_map]
  rfl

theorem forall_mem_zipIdx_iff {α : Type} {l : List α} {P : α → Prop} :
    (∀ entry ∈ l.zipIdx, P entry.1) ↔ ∀ x ∈ l, P x := by
  have hfst : l.zipIdx.map Prod.fst = l := List.zipIdx_map_fst 0 l
  nth_rewrite 2 [← hfst]
  rw [List.forall_mem_map]

theorem validateCatalog_eq_ok_iff {names : Names} {catalog : ImageCatalog} :
    validateCatalog names catalog = .ok () ↔ Accepted names catalog := by
  simp only [validateCatalog, bind_eq_ok_iff, require_eq_ok_iff, decide_eq_true_eq,
    mapError_eq_ok_iff, uniqueCatalogNames_eq_ok_iff, uniquePlatforms_eq_ok_iff, forM_eq_ok_iff,
    collectDistinct_eq_ok_iff, pure_eq_ok_iff]
  constructor
  · rintro ⟨-, hversion, -, hname, -, hartifact, -, hslash, ⟨⟩, hrepository, images,
      ⟨himages, rfl⟩, profiles, ⟨hprofiles, rfl⟩, platforms, ⟨hplatforms, rfl⟩, -, htemplates,
      keys, ⟨hexclude, hdistinct, -⟩, -⟩
    simp only [validateExclusion_eq_ok_iff, forall_mem_zipIdx_iff] at hexclude
    rw [map_key_zipIdx] at hdistinct
    exact
      { apiVersion := hversion
        name := hname
        artifactName := hartifact
        noSlash := by simpa using hslash
        repository := hrepository
        images := himages
        profiles := hprofiles
        platforms := hplatforms
        templates := htemplates
        exclusions := hexclude
        distinct := hdistinct }
  · intro h
    refine ⟨(), h.apiVersion, (), h.name, (), h.artifactName, (), by simp [h.noSlash], (),
      h.repository, _, ⟨h.images, rfl⟩, _, ⟨h.profiles, rfl⟩, _, ⟨h.platforms, rfl⟩, (),
      h.templates, _, ⟨?_, ?_, rfl⟩, trivial⟩
    · simpa only [validateExclusion_eq_ok_iff, forall_mem_zipIdx_iff] using h.exclusions
    · rw [map_key_zipIdx]
      exact h.distinct

theorem mem_of_matchName {after : Bool} {l : List Char} (h : matchName after l = true) :
    ∀ c ∈ l, isNameChar c = true ∨ c = '-' ∨ c = '.' := by
  induction l generalizing after with
  | nil => simp
  | cons d l ih =>
    unfold matchName at h
    rw [List.forall_mem_cons]
    split at h
    · next hd => exact ⟨Or.inl hd, ih h⟩
    · simp only [Bool.and_eq_true, Bool.or_eq_true, decide_eq_true_eq] at h
      exact ⟨Or.inr h.1.2, ih h.2⟩

theorem notMem_of_catalogName {value : String} (h : catalogName value = true) {c : Char}
    (hname : isNameChar c = false) (hhyphen : c ≠ '-') (hdot : c ≠ '.') : c ∉ value.toList := by
  intro hmem
  rcases mem_of_matchName h c hmem with hchar | rfl | rfl
  · rw [hname] at hchar
    cases hchar
  · exact hhyphen rfl
  · exact hdot rfl

end Accepted

end GpuFractioning.Imagelock
