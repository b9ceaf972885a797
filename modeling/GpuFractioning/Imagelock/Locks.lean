import GpuFractioning.Imagelock.PlannedImages
import GpuFractioning.Lib.GoPath

/-!
# Resolved images and locks

`resolveImages`, `buildLock`, `lockFileName` and `marshalLocks` of
`hack/imagelock/main.go`. Every planned image is resolved to digests once; the
lock of a profile and a platform collects the images that have a digest for it.
-/

namespace GpuFractioning.Imagelock

open Fallible

section Types

structure ResolvedImage extends ChartImage where
  profile : String
  indexDigest : String
  digestPerPlatform : FiniteMap Platform String

/-- A `digestResolver`, whose answer may also depend on the number of the call. -/
abbrev DigestResolver :=
  ℕ → String → List Platform → Except String (String × FiniteMap Platform String)

structure LockMetadata where
  name : String
  version : String
  deriving DecidableEq, Repr

structure LockedImage where
  name : String
  image : String
  source : String
  indexDigest : String
  deriving DecidableEq, Repr

structure LockSpec where
  profile : String
  platform : Platform
  images : List LockedImage
  deriving DecidableEq, Repr

structure ImageLock where
  apiVersion : String
  kind : String
  metadata : LockMetadata
  spec : LockSpec
  deriving DecidableEq, Repr

/-- The options of a run that the locks depend on. -/
structure Options where
  version : String
  outDir : String
  deriving DecidableEq, Repr

structure LockOutput where
  path : String
  yaml : String
  deriving DecidableEq, Repr

end Types

section Source

def lockAPIVersion : String := "artifacts.run.ai/v1alpha1"

def lockKind : String := "ImageLock"

def standardProfile : String := "standard"

def isHexChar (c : Char) : Bool := ('0' ≤ c && c ≤ '9') || ('a' ≤ c && c ≤ 'f')

/-- The regular expression `sha256Digest`. -/
def sha256Digest (digest : String) : Bool :=
  GoString.hasPrefix digest "sha256:" && (digest.toList.drop 7).length = 64 &&
    (digest.toList.drop 7).all isHexChar

def validateDigests (indexDigest : String) (digestPerPlatform : FiniteMap Platform String)
    (expected : List Platform) : Except String Unit := do
  require (sha256Digest indexDigest) ("bad index digest " ++ GoText.quote indexDigest)
  expected.forM fun platform =>
    match digestPerPlatform.lookup platform with
    | none => .error ("missing " ++ platform.string ++ " digest")
    | some digest =>
      require (sha256Digest digest)
        ("bad " ++ platform.string ++ " digest " ++ GoText.quote digest)

def resolveImage (resolver : DigestResolver) (entry : PlannedImage × ℕ) :
    Except String ResolvedImage := do
  let (image, call) := entry
  let wrap (err : String) : String :=
    "resolve " ++ image.profile ++ " profile image " ++ image.reference ++ ": " ++ err
  let (indexDigest, digestPerPlatform) ←
    (resolver call image.reference image.platforms).mapError wrap
  (validateDigests indexDigest digestPerPlatform image.platforms).mapError wrap
  pure
    { image.toChartImage with
      profile := image.profile
      indexDigest := indexDigest
      digestPerPlatform := digestPerPlatform }

def resolveImages (images : List PlannedImage) (resolver : DigestResolver) :
    Except String (List ResolvedImage) :=
  images.zipIdx.mapM (resolveImage resolver)

/-- What the lock of a target takes from a resolved image. -/
def lockImage (target : LockTarget) (image : ResolvedImage) : Option LockedImage :=
  if image.profile ≠ target.profile then none
  else
    match image.digestPerPlatform.lookup target.platform with
    | none => none
    | some digest =>
      some
        { name := image.name
          image := image.repo ++ "@" ++ digest
          source := image.reference
          indexDigest := image.indexDigest }

def lockedLess (image image' : LockedImage) : Bool := image.name < image'.name

def buildLock (catalogName version : String) (target : LockTarget)
    (resolved : List ResolvedImage) : Except String ImageLock :=
  let images := resolved.filterMap (lockImage target)
  if images = [] then
    .error ("cannot build empty lock for " ++ target.profile ++ "/" ++ target.platform.string)
  else
    .ok
      { apiVersion := lockAPIVersion
        kind := lockKind
        metadata := { name := catalogName, version := version }
        spec :=
          { profile := target.profile
            platform := target.platform
            images := GoSort.slice lockedLess images } }

def lockFileName (artifactName : String) (lock : ImageLock) : String :=
  if lock.spec.profile = standardProfile then
    "imagelock-" ++ artifactName ++ "-" ++ lock.metadata.version ++ "-" ++
      lock.spec.platform.os ++ "-" ++ lock.spec.platform.architecture ++ ".yaml"
  else
    "imagelock-" ++ artifactName ++ "-" ++ lock.metadata.version ++ "-" ++ lock.spec.profile ++
      "-" ++ lock.spec.platform.os ++ "-" ++ lock.spec.platform.architecture ++ ".yaml"

/-- `marshal` is `yaml.Marshal`, with the text of its error. -/
def marshalLock (marshal : ImageLock → Except String String) (opts : Options)
    (catalog : ImageCatalog) (resolved : List ResolvedImage) (target : LockTarget) :
    Except String LockOutput := do
  let lock ← buildLock catalog.name opts.version target resolved
  let yaml ← (marshal lock).mapError fun err =>
    "marshal lock for " ++ target.profile ++ "/" ++ target.platform.string ++ ": " ++ err
  pure
    { path := GoPath.join [opts.outDir, lockFileName catalog.artifactName lock]
      yaml := yaml }

def marshalLocks (marshal : ImageLock → Except String String) (opts : Options)
    (catalog : ImageCatalog) (targets : List LockTarget) (resolved : List ResolvedImage) :
    Except String (List LockOutput) :=
  targets.mapM (marshalLock marshal opts catalog resolved)

end Source

section Resolve

/-- A call is answered with valid digests for exactly the platforms it asks for. -/
def Answers (resolver : DigestResolver) (call : ℕ) (reference : String)
    (platforms : List Platform) : Prop :=
  ∃ indexDigest digestPerPlatform,
    resolver call reference platforms = .ok (indexDigest, digestPerPlatform) ∧
      sha256Digest indexDigest = true ∧
      (∀ platform, platform ∈ platforms ↔ (digestPerPlatform.lookup platform).isSome = true) ∧
      ∀ platform digest, digestPerPlatform.lookup platform = some digest →
        sha256Digest digest = true

/-- What becomes of a planned image that is resolved. -/
structure ResolvedFrom (resolver : DigestResolver) (entry : PlannedImage × ℕ)
    (image : ResolvedImage) : Prop where
  chartImage : image.toChartImage = entry.1.toChartImage
  profile : image.profile = entry.1.profile
  answer : resolver entry.2 entry.1.reference entry.1.platforms =
    .ok (image.indexDigest, image.digestPerPlatform)
  platforms : ∀ platform,
    platform ∈ entry.1.platforms ↔ (image.digestPerPlatform.lookup platform).isSome = true

theorem exists_resolveImage {resolver : DigestResolver} {entry : PlannedImage × ℕ}
    (h : Answers resolver entry.2 entry.1.reference entry.1.platforms) :
    ∃ image, resolveImage resolver entry = .ok image ∧ ResolvedFrom resolver entry image := by
  obtain ⟨image, call⟩ := entry
  obtain ⟨indexDigest, digests, hanswer, hindex, hplatforms, hdigests⟩ := h
  have hvalid : validateDigests indexDigest digests image.platforms = .ok () := by
    rw [validateDigests, bind_eq_ok_iff]
    refine ⟨(), require_eq_ok_iff.mpr hindex, forM_eq_ok_iff.mpr ?_⟩
    intro platform hplatform
    obtain ⟨digest, hdigest⟩ := Option.isSome_iff_exists.mp ((hplatforms platform).mp hplatform)
    simp only [hdigest]
    exact require_eq_ok_iff.mpr (hdigests platform digest hdigest)
  refine ⟨{ image.toChartImage with
    profile := image.profile
    indexDigest := indexDigest
    digestPerPlatform := digests }, ?_, ⟨rfl, rfl, hanswer, hplatforms⟩⟩
  simp only [resolveImage, bind_eq_ok_iff, mapError_eq_ok_iff, pure_eq_ok_iff]
  exact ⟨(indexDigest, digests), hanswer, (), hvalid, rfl⟩

theorem exists_resolveImages {resolver : DigestResolver} {images : List PlannedImage}
    (h : ∀ call image, images[call]? = some image →
      Answers resolver call image.reference image.platforms) :
    ∃ resolved, resolveImages images resolver = .ok resolved ∧
      List.Forall₂ (ResolvedFrom resolver) images.zipIdx resolved := by
  apply exists_mapM
  intro entry hentry
  exact exists_resolveImage (h entry.2 entry.1 (List.mem_zipIdx_iff_getElem?.mp hentry))

theorem lockImage_eq_some_iff {target : LockTarget} {image : ResolvedImage} {locked : LockedImage} :
    lockImage target image = some locked ↔
      image.profile = target.profile ∧
        ∃ digest, image.digestPerPlatform.lookup target.platform = some digest ∧
          locked =
            { name := image.name
              image := image.repo ++ "@" ++ digest
              source := image.reference
              indexDigest := image.indexDigest } := by
  unfold lockImage
  by_cases hprofile : image.profile = target.profile
  · rw [if_neg (not_not.mpr hprofile)]
    cases hlookup : image.digestPerPlatform.lookup target.platform <;> simp [hprofile, eq_comm]
  · simp [hprofile]

/-- The planned images that go into the lock of a target. -/
def inLock (target : LockTarget) (planned : PlannedImage) : Bool :=
  planned.profile = target.profile && target.platform ∈ planned.platforms

theorem ResolvedFrom.map_name_lockImage {resolver : DigestResolver} {entry : PlannedImage × ℕ}
    {image : ResolvedImage} (h : ResolvedFrom resolver entry image) (target : LockTarget) :
    (lockImage target image).map LockedImage.name =
      if inLock target entry.1 = true then some entry.1.name else none := by
  have hname : image.name = entry.1.name := congrArg ChartImage.name h.chartImage
  have hplatform := h.platforms target.platform
  unfold lockImage inLock
  rw [← h.profile, ← hname]
  by_cases hprofile : image.profile = target.profile
  · rw [if_neg (not_not.mpr hprofile)]
    cases hlookup : image.digestPerPlatform.lookup target.platform <;>
      simp_all
  · simp [hprofile]

theorem map_name_filterMap_lockImage {resolver : DigestResolver} {target : LockTarget}
    {entries : List (PlannedImage × ℕ)} {resolved : List ResolvedImage}
    (h : List.Forall₂ (ResolvedFrom resolver) entries resolved) :
    (resolved.filterMap (lockImage target)).map LockedImage.name =
      ((entries.map Prod.fst).filter (inLock target)).map (·.name) := by
  rw [List.map_filterMap]
  induction h with
  | nil => rfl
  | @cons entry image entries resolved hfrom _ ih =>
    rw [List.filterMap_cons, hfrom.map_name_lockImage, List.map_cons]
    by_cases hin : inLock target entry.1 = true
    · simp [hin, ih]
    · simp [hin, ih]

end Resolve

section Coverage

variable {names : Names} {catalog : ImageCatalog} {version : String} {plan : ReleasePlan}
  {resolver : DigestResolver} {resolved : List ResolvedImage}

theorem perm_names_lock (haccepted : Accepted names catalog)
    (hplan : buildReleasePlan names catalog version = .ok plan)
    (hresolved : List.Forall₂ (ResolvedFrom resolver) plan.images.zipIdx resolved)
    {profile : CatalogProfile} {platform : Platform} (hprofile : profile ∈ catalog.profiles)
    (hplatform : platform ∈ catalog.platforms) :
    ((resolved.filterMap (lockImage ⟨profile.name, platform⟩)).map LockedImage.name).Perm
      (imageNames (catalog.keptImages profile platform)) := by
  obtain ⟨-, -, rfl⟩ := buildReleasePlan_eq_ok_iff.mp hplan
  have himages : (catalog.releasePlan version).images.Perm (catalog.plannedImages version) :=
    (GoSort.perm_slice _ _).trans (perm_planned haccepted)
  have hplanned : (catalog.plannedImages version).filter (inLock ⟨profile.name, platform⟩) =
      (catalog.keptImages profile platform).map (catalog.plannedImage version profile) :=
    filter_plannedImages haccepted hprofile hplatform
  have hperm := (himages.filter (inLock ⟨profile.name, platform⟩)).map (·.name)
  rw [hplanned, List.map_map] at hperm
  rw [map_name_filterMap_lockImage hresolved, List.zipIdx_map_fst]
  exact hperm

theorem length_lock (haccepted : Accepted names catalog)
    (hplan : buildReleasePlan names catalog version = .ok plan)
    (hresolved : List.Forall₂ (ResolvedFrom resolver) plan.images.zipIdx resolved)
    {profile : CatalogProfile} {platform : Platform} (hprofile : profile ∈ catalog.profiles)
    (hplatform : platform ∈ catalog.platforms) :
    (resolved.filterMap (lockImage ⟨profile.name, platform⟩)).length =
      (catalog.keptImages profile platform).length := by
  have hlength := (perm_names_lock haccepted hplan hresolved hprofile hplatform).length_eq
  rwa [imageNames, List.length_map, List.length_map] at hlength

/-- What the lock of a profile and a platform lists. -/
structure LockCovers (catalog : ImageCatalog) (version : String) (plan : ReleasePlan)
    (resolver : DigestResolver) (profile : CatalogProfile) (platform : Platform)
    (lock : ImageLock) : Prop where
  ascending : (lock.spec.images.map LockedImage.name).Pairwise (· < ·)
  covers : ∀ name, name ∈ lock.spec.images.map LockedImage.name ↔
    ∃ image ∈ catalog.images, image.name = name ∧
      ∀ exclusion ∈ catalog.exclude, exclusion.covers ⟨profile, image, platform⟩ = false
  pinned : ∀ locked ∈ lock.spec.images, ∃ call planned indexDigest digestPerPlatform digest,
    plan.images[call]? = some planned ∧
      planned.toChartImage = ⟨locked.name, catalog.repository ++ "/" ++ locked.name,
        profile.tag version⟩ ∧
      resolver call planned.reference planned.platforms = .ok (indexDigest, digestPerPlatform) ∧
      digestPerPlatform.lookup platform = some digest ∧
      locked =
        { name := planned.name
          image := planned.repo ++ "@" ++ digest
          source := planned.reference
          indexDigest := indexDigest }

theorem mem_imageNames_keptImages {profile : CatalogProfile} {platform : Platform} {name : String} :
    name ∈ imageNames (catalog.keptImages profile platform) ↔
      ∃ image ∈ catalog.images, image.name = name ∧
        ∀ exclusion ∈ catalog.exclude, exclusion.covers ⟨profile, image, platform⟩ = false := by
  simp only [imageNames, ImageCatalog.keptImages, List.mem_map, List.mem_filter, keeps_iff]
  constructor
  · rintro ⟨image, ⟨himage, hkeeps⟩, hname⟩
    exact ⟨image, himage, hname, hkeeps⟩
  · rintro ⟨image, himage, hname, hkeeps⟩
    exact ⟨image, ⟨himage, hkeeps⟩, hname⟩

theorem exists_of_mem_plan (haccepted : Accepted names catalog)
    (hplan : buildReleasePlan names catalog version = .ok plan) {planned : PlannedImage}
    (hplanned : planned ∈ plan.images) {profile : CatalogProfile}
    (hprofile : profile ∈ catalog.profiles) (hname : planned.profile = profile.name) :
    ∃ image ∈ catalog.images, planned = catalog.plannedImage version profile image := by
  obtain ⟨-, -, rfl⟩ := buildReleasePlan_eq_ok_iff.mp hplan
  have hmem := (perm_planned haccepted).subset ((GoSort.perm_slice _ _).subset hplanned)
  obtain ⟨⟨profile', image⟩, hpair, rfl⟩ := List.mem_map.mp hmem
  obtain ⟨⟨hprofile', himage⟩, -⟩ := mem_releasedPairs.mp hpair
  obtain rfl := haccepted.profile_eq hprofile' hprofile hname
  exact ⟨image, himage, rfl⟩

theorem exists_lock (haccepted : Accepted names catalog)
    (hplan : buildReleasePlan names catalog version = .ok plan)
    (hresolved : List.Forall₂ (ResolvedFrom resolver) plan.images.zipIdx resolved)
    {profile : CatalogProfile} {platform : Platform} (hprofile : profile ∈ catalog.profiles)
    (hplatform : platform ∈ catalog.platforms) :
    ∃ lock, buildLock catalog.name version ⟨profile.name, platform⟩ resolved = .ok lock ∧
      LockCovers catalog version plan resolver profile platform lock ∧
      lock.spec.images.length = (catalog.keptImages profile platform).length := by
  have hperm := perm_names_lock haccepted hplan hresolved hprofile hplatform
  have hne : resolved.filterMap (lockImage ⟨profile.name, platform⟩) ≠ [] := by
    obtain ⟨-, hreleasable, -⟩ := buildReleasePlan_eq_ok_iff.mp hplan
    obtain ⟨image, himage, hkeeps⟩ := hreleasable.targetKept profile hprofile platform hplatform
    intro hnil
    rw [hnil, List.map_nil, List.nil_perm] at hperm
    have hmem : image.name ∈ imageNames (catalog.keptImages profile platform) :=
      List.mem_map_of_mem (List.mem_filter.mpr ⟨himage, hkeeps⟩)
    rw [hperm] at hmem
    cases hmem
  have hnodup : ((resolved.filterMap (lockImage ⟨profile.name, platform⟩)).map
      LockedImage.name).Nodup := by
    rw [hperm.nodup_iff]
    exact haccepted.images.nodup.sublist (List.filter_sublist.map _)
  have hsort := GoSort.perm_slice lockedLess
    (resolved.filterMap (lockImage ⟨profile.name, platform⟩))
  refine ⟨_, by rw [buildLock]; exact if_neg hne, ⟨?_, ?_, ?_⟩, ?_⟩
  · exact GoSort.pairwise_slice_lt LockedImage.name hnodup
  · intro name
    rw [← mem_imageNames_keptImages, ← hperm.mem_iff]
    exact (hsort.map LockedImage.name).mem_iff
  · intro locked hlocked
    obtain ⟨image, himage, hlock⟩ := List.mem_filterMap.mp (hsort.subset hlocked)
    obtain ⟨entry, hentry, hfrom⟩ := exists_of_mem_right hresolved himage
    obtain ⟨himageProfile, digest, hdigest, rfl⟩ := lockImage_eq_some_iff.mp hlock
    have hcall := List.mem_zipIdx_iff_getElem?.mp hentry
    obtain ⟨catalogImage, -, hplanned⟩ := exists_of_mem_plan haccepted hplan
      (List.mem_of_getElem? hcall) hprofile (hfrom.profile.symm.trans himageProfile)
    have hchart := hfrom.chartImage
    refine ⟨entry.2, entry.1, image.indexDigest, image.digestPerPlatform, digest, hcall, ?_,
      hfrom.answer, hdigest, ?_⟩
    · rw [hchart, hplanned]
      rfl
    · rw [hchart]
  · exact hsort.length_eq.trans (length_lock haccepted hplan hresolved hprofile hplatform)

theorem perm_targets (hplan : buildReleasePlan names catalog version = .ok plan) :
    plan.targets.Perm catalog.targets := by
  obtain ⟨-, -, rfl⟩ := buildReleasePlan_eq_ok_iff.mp hplan
  exact GoSort.perm_slice _ _

theorem exists_locks (haccepted : Accepted names catalog)
    (hplan : buildReleasePlan names catalog version = .ok plan)
    (hresolved : List.Forall₂ (ResolvedFrom resolver) plan.images.zipIdx resolved) :
    ∃ locks, (plan.targets.mapM fun target =>
        buildLock catalog.name version target resolved) = .ok locks ∧
      plan.combinationCount = (locks.map (·.spec.images.length)).sum := by
  have hkept : ∀ target ∈ plan.targets,
      ∃ lock, buildLock catalog.name version target resolved = .ok lock ∧
        (resolved.filterMap (lockImage target)).length = lock.spec.images.length := by
    intro target htarget
    obtain ⟨profile, hprofile, hmem⟩ := List.mem_flatMap.mp ((perm_targets hplan).subset htarget)
    obtain ⟨platform, hplatform, rfl⟩ := List.mem_map.mp hmem
    obtain ⟨lock, hlock, -, hlength⟩ :=
      exists_lock haccepted hplan hresolved hprofile hplatform
    exact ⟨lock, hlock,
      (length_lock haccepted hplan hresolved hprofile hplatform).trans hlength.symm⟩
  obtain ⟨locks, hlocks, hlengths⟩ := exists_mapM hkept
  refine ⟨locks, hlocks, ?_⟩
  have hcount : plan.combinationCount = catalog.kept.length := by
    obtain ⟨-, -, rfl⟩ := buildReleasePlan_eq_ok_iff.mp hplan
    rfl
  have hmap : plan.targets.map (fun target => (resolved.filterMap (lockImage target)).length) =
      locks.map (·.spec.images.length) := by
    rw [← List.forall₂_eq_eq_eq, List.forall₂_map_left_iff, List.forall₂_map_right_iff]
    exact hlengths
  have htargets : catalog.targets.map
        (fun target => (resolved.filterMap (lockImage target)).length) =
      catalog.profiles.flatMap fun profile => catalog.platforms.map fun platform =>
        (catalog.keptImages profile platform).length := by
    rw [ImageCatalog.targets, List.map_flatMap]
    apply List.flatMap_congr
    intro profile hprofile
    rw [List.map_map]
    apply List.map_congr_left
    intro platform hplatform
    exact length_lock haccepted hplan hresolved hprofile hplatform
  rw [← hmap, ((perm_targets hplan).map _).sum_eq, htargets, hcount, length_kept]

/-- The locks of a release cover exactly what the catalog says. -/
theorem locks_cover_catalog {names : Names} {catalog : ImageCatalog} {version : String}
    (hvalid : validateCatalog names catalog = .ok ()) :
    ((∀ profile ∈ catalog.profiles, ∀ image ∈ catalog.images,
        names.newTag (catalog.chartImage version profile image).reference = .ok ()) →
      ((∃ plan, buildReleasePlan names catalog version = .ok plan) ↔ Releasable catalog)) ∧
    ∀ plan, buildReleasePlan names catalog version = .ok plan →
      ∀ resolver : DigestResolver,
        (∀ call image, plan.images[call]? = some image →
          Answers resolver call image.reference image.platforms) →
        ∃ resolved, resolveImages plan.images resolver = .ok resolved ∧
          (∀ profile ∈ catalog.profiles, ∀ platform ∈ catalog.platforms,
            ∃ lock, buildLock catalog.name version ⟨profile.name, platform⟩ resolved = .ok lock ∧
              LockCovers catalog version plan resolver profile platform lock) ∧
          plan.targets.Perm catalog.targets ∧
          ∃ locks, (plan.targets.mapM fun target =>
              buildLock catalog.name version target resolved) = .ok locks ∧
            plan.combinationCount = (locks.map (·.spec.images.length)).sum := by
  have haccepted := validateCatalog_eq_ok_iff.mp hvalid
  constructor
  · intro htags
    constructor
    · rintro ⟨plan, hplan⟩
      exact (buildReleasePlan_eq_ok_iff.mp hplan).2.1
    · intro hreleasable
      exact ⟨_, buildReleasePlan_eq_ok_iff.mpr ⟨htags, hreleasable, rfl⟩⟩
  · intro plan hplan resolver hresolver
    obtain ⟨resolved, hok, hresolved⟩ := exists_resolveImages hresolver
    refine ⟨resolved, hok, ?_, perm_targets hplan, exists_locks haccepted hplan hresolved⟩
    intro profile hprofile platform hplatform
    obtain ⟨lock, hlock, hcovers, -⟩ :=
      exists_lock haccepted hplan hresolved hprofile hplatform
    exact ⟨lock, hlock, hcovers⟩

def sampleDigest (c : Char) : String := "sha256:" ++ String.ofList (List.replicate 64 c)

/-- A registry that has every image for every platform. -/
def sampleResolver : DigestResolver := fun _ _ platforms =>
  .ok (sampleDigest 'a', FiniteMap.insertAll id (fun _ => sampleDigest 'b') platforms ∅)

theorem answers_sampleResolver (call : ℕ) (reference : String) (platforms : List Platform) :
    Answers sampleResolver call reference platforms := by
  have hindex : sha256Digest (sampleDigest 'a') = true := by decide +kernel
  have hdigest : sha256Digest (sampleDigest 'b') = true := by decide +kernel
  have hlookup (platform : Platform) :
      (FiniteMap.insertAll id (fun _ => sampleDigest 'b') platforms ∅).lookup platform =
        if platform ∈ platforms then some (sampleDigest 'b') else none := by
    rw [FiniteMap.lookup_insertAll]
    cases hfind : platforms.reverse.find? fun x => id x = platform with
    | none =>
      have hnot : platform ∉ platforms := by
        intro hmem
        exact List.find?_eq_none.mp hfind platform (List.mem_reverse.mpr hmem) (by simp)
      rw [if_neg hnot]
      rfl
    | some x =>
      have hx : x = platform := by simpa using List.find?_some hfind
      have hmem := List.mem_reverse.mp (List.mem_of_find?_eq_some hfind)
      rw [if_pos (hx ▸ hmem)]
      rfl
  refine ⟨_, _, rfl, hindex, ?_, ?_⟩
  · intro platform
    rw [hlookup]
    by_cases hmem : platform ∈ platforms <;> simp [hmem]
  · intro platform digest hsome
    rw [hlookup] at hsome
    split_ifs at hsome
    cases hsome
    exact hdigest

/-- A catalog with one exclusion, which leaves every image and every target something: the
locks of the profile are without the excluded image. -/
theorem locks_cover_catalog_mpsd :
    let names : Names := ⟨fun _ => .ok (), fun _ => .ok ()⟩
    let catalog : ImageCatalog :=
      { apiVersion := catalogAPIVersion
        name := "gpu-fractioning"
        artifactName := "gpu-fractioning"
        repository := "ghcr.io/kai-scheduler/gpu-fractioning"
        images := [⟨"mpsd"⟩, ⟨"fractiond"⟩]
        profiles := [⟨"standard", versionPlaceholder⟩, ⟨"fips", versionPlaceholder ++ "-fips"⟩]
        platforms := [⟨"linux", "amd64"⟩, ⟨"linux", "arm64"⟩]
        exclude := [⟨"mpsd", "fips", "*", "unsupported"⟩] }
    validateCatalog names catalog = .ok () ∧
      ∃ plan resolved lock, buildReleasePlan names catalog "v1.2.3" = .ok plan ∧
        resolveImages plan.images sampleResolver = .ok resolved ∧
        buildLock catalog.name "v1.2.3" ⟨"fips", ⟨"linux", "arm64"⟩⟩ resolved = .ok lock ∧
        "fractiond" ∈ lock.spec.images.map LockedImage.name ∧
        "mpsd" ∉ lock.spec.images.map LockedImage.name := by
  intro names catalog
  have hvalid : validateCatalog names catalog = .ok () := validateCatalog_eq_ok_iff.mpr
    { apiVersion := rfl
      name := by decide
      artifactName := by decide
      noSlash := by decide
      repository := rfl
      images := ⟨by decide, by decide, by decide⟩
      profiles := ⟨by decide, by decide, by decide⟩
      platforms := ⟨by decide, by decide, by decide⟩
      templates := by decide
      exclusions := by
        intro exclusion hexclusion
        obtain rfl := List.mem_singleton.mp hexclusion
        exact ⟨by decide, Or.inr (by decide), Or.inr (by decide), Or.inl rfl⟩
      distinct := by decide }
  have hreleasable : Releasable catalog :=
    { matched := by decide
      noOverlap := by decide
      imageKept := by decide
      targetKept := by decide }
  obtain ⟨hiff, hlocks⟩ := @locks_cover_catalog names catalog "v1.2.3" hvalid
  obtain ⟨plan, hplan⟩ := (hiff fun _ _ _ _ => rfl).mpr hreleasable
  obtain ⟨resolved, hresolved, hall, -⟩ := hlocks plan hplan sampleResolver
    fun call image _ => answers_sampleResolver call image.reference image.platforms
  obtain ⟨lock, hlock, hcovers⟩ := hall ⟨"fips", versionPlaceholder ++ "-fips"⟩ (by decide)
    ⟨"linux", "arm64"⟩ (by decide)
  refine ⟨hvalid, plan, resolved, lock, hplan, hresolved, hlock, ?_, ?_⟩
  · rw [hcovers.covers]
    decide
  · rw [hcovers.covers]
    decide

end Coverage

end GpuFractioning.Imagelock
