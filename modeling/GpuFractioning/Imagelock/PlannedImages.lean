import GpuFractioning.Imagelock.Plan

/-!
# The images of a plan

What the table of planned images holds for an accepted catalog: an entry for
each profile and image that some platform is left to, with those platforms. The
combinations are counted again, by profile and platform.
-/

namespace GpuFractioning.Imagelock

variable {names : Names} {catalog : ImageCatalog} {version : String}

/-- The platforms an image is released for under a profile. -/
def ImageCatalog.keptPlatforms (catalog : ImageCatalog) (profile : CatalogProfile)
    (image : CatalogImage) : List Platform :=
  catalog.platforms.filter fun platform => catalog.keeps ⟨profile, image, platform⟩

def ImageCatalog.plannedImage (catalog : ImageCatalog) (version : String)
    (profile : CatalogProfile) (image : CatalogImage) : PlannedImage :=
  { catalog.chartImage version profile image with
    profile := profile.name
    platforms := catalog.keptPlatforms profile image }

/-- The pairs that some platform is left to. -/
def ImageCatalog.releasedPairs (catalog : ImageCatalog) : List (CatalogProfile × CatalogImage) :=
  (catalog.profiles.product catalog.images).filter fun pair =>
    catalog.keptPlatforms pair.1 pair.2 ≠ []

/-- The planned images, profile by profile. -/
def ImageCatalog.plannedImages (catalog : ImageCatalog) (version : String) : List PlannedImage :=
  catalog.releasedPairs.map fun pair => catalog.plannedImage version pair.1 pair.2

theorem Accepted.profile_eq (h : Accepted names catalog) {profile profile' : CatalogProfile}
    (hprofile : profile ∈ catalog.profiles) (hprofile' : profile' ∈ catalog.profiles)
    (hname : profile.name = profile'.name) : profile = profile' :=
  List.inj_on_of_nodup_map h.profiles.nodup hprofile hprofile' hname

theorem Accepted.image_eq (h : Accepted names catalog) {image image' : CatalogImage}
    (himage : image ∈ catalog.images) (himage' : image' ∈ catalog.images)
    (hname : image.name = image'.name) : image = image' :=
  List.inj_on_of_nodup_map h.images.nodup himage himage' hname

/-- The names of an accepted catalog do not have the separator of the keys. -/
theorem Accepted.key_inj (h : Accepted names catalog) {profile profile' : CatalogProfile}
    {image image' : CatalogImage} (hprofile : profile ∈ catalog.profiles)
    (hprofile' : profile' ∈ catalog.profiles) (himage : image ∈ catalog.images)
    (himage' : image' ∈ catalog.images)
    (hkey : profile.name ++ "\x00" ++ image.name = profile'.name ++ "\x00" ++ image'.name) :
    profile = profile' ∧ image = image' := by
  have hnul : ∀ profile ∈ catalog.profiles, '\x00' ∉ profile.name.toList := fun profile hmem =>
    notMem_of_catalogName (h.profiles.valid profile.name (List.mem_map_of_mem hmem))
      (by decide) (by decide) (by decide)
  obtain ⟨hp, hi⟩ := (GoString.append_separator_inj (hnul _ hprofile) (hnul _ hprofile')).mp hkey
  exact ⟨h.profile_eq hprofile hprofile' hp, h.image_eq himage himage' hi⟩

theorem Accepted.profiles_nodup (h : Accepted names catalog) : catalog.profiles.Nodup :=
  List.Nodup.of_map _ h.profiles.nodup

theorem Accepted.images_nodup (h : Accepted names catalog) : catalog.images.Nodup :=
  List.Nodup.of_map _ h.images.nodup

theorem filter_kept_key (h : Accepted names catalog) {profile : CatalogProfile}
    {image : CatalogImage} (hprofile : profile ∈ catalog.profiles) (himage : image ∈ catalog.images)
    {key : String} (hkey : ∀ platform, (Combination.mk profile image platform).key = key) :
    catalog.kept.filter (·.key = key) =
      (catalog.keptPlatforms profile image).map (⟨profile, image, ·⟩) := by
  have hother : ∀ c ∈ catalog.combinations, c.key = key →
      c.profile = profile ∧ c.image = image := by
    intro c hc hckey
    obtain ⟨hcprofile, hcimage, -⟩ := mem_combinations.mp hc
    exact h.key_inj hcprofile hprofile hcimage himage (hckey.trans (hkey c.platform).symm)
  rw [ImageCatalog.kept, List.filter_filter, ImageCatalog.combinations, List.filter_flatMap,
    List.flatMap_eq_of_unique h.profiles_nodup hprofile, List.filter_flatMap,
    List.flatMap_eq_of_unique h.images_nodup himage, List.filter_map]
  · congr 1
    apply List.filter_congr
    intro platform _
    simp [hkey]
  · intro image' himage' hne
    rw [List.filter_eq_nil_iff]
    intro c hc hkeep
    obtain ⟨platform, hplatform, rfl⟩ := List.mem_map.mp hc
    rw [Bool.and_eq_true, decide_eq_true_eq] at hkeep
    exact hne (hother _ (mem_combinations.mpr ⟨hprofile, himage', hplatform⟩) hkeep.1).2
  · intro profile' hprofile' hne
    rw [List.filter_eq_nil_iff]
    intro c hc hkeep
    rw [Bool.and_eq_true, decide_eq_true_eq] at hkeep
    have hin : c ∈ catalog.combinations := List.mem_flatMap.mpr ⟨profile', hprofile', hc⟩
    have hsame : c.profile = profile' := by
      simp only [List.mem_flatMap, List.mem_map] at hc
      obtain ⟨image', -, platform, -, rfl⟩ := hc
      rfl
    exact hne (hsame.symm.trans (hother c hin hkeep.1).1)

theorem foldl_addPlatform (entry : PlannedImage) (profile : CatalogProfile) (image : CatalogImage)
    (platforms : List Platform) :
    (platforms.map (Combination.mk profile image ·)).foldl addPlatform entry =
      { entry with platforms := entry.platforms ++ platforms } := by
  induction platforms generalizing entry with
  | nil => simp
  | cons platform platforms ih =>
    rw [List.map_cons, List.foldl_cons, ih]
    simp [addPlatform]

theorem lookup_planned (h : Accepted names catalog) {profile : CatalogProfile}
    {image : CatalogImage} (hprofile : profile ∈ catalog.profiles)
    (himage : image ∈ catalog.images) :
    (catalog.planState version).planned.lookup (profile.name ++ "\x00" ++ image.name) =
      if catalog.keptPlatforms profile image = [] then none
      else some (catalog.plannedImage version profile image) := by
  rw [planned_planState, FiniteMap.lookup_gather,
    filter_kept_key h hprofile himage (fun _ => rfl)]
  cases hkept : catalog.keptPlatforms profile image with
  | nil => rfl
  | cons platform platforms =>
    rw [if_neg (by simp), List.map_cons, List.head?_cons, Option.elim_some, ← List.map_cons,
      foldl_addPlatform]
    simp [ImageCatalog.emptyPlanned, ImageCatalog.plannedImage, hkept]

theorem mem_releasedPairs {profile : CatalogProfile} {image : CatalogImage} :
    (profile, image) ∈ catalog.releasedPairs ↔
      (profile ∈ catalog.profiles ∧ image ∈ catalog.images) ∧
        catalog.keptPlatforms profile image ≠ [] := by
  rw [ImageCatalog.releasedPairs, List.mem_filter, List.pair_mem_product, decide_eq_true_eq]

theorem perm_planned (h : Accepted names catalog) :
    ((catalog.planState version).planned.pairs.map Prod.snd).Perm
      (catalog.plannedImages version) := by
  have hnodup : (catalog.releasedPairs.map fun pair =>
      (pair.1.name ++ "\x00" ++ pair.2.name,
        catalog.plannedImage version pair.1 pair.2)).Nodup := by
    apply List.Nodup.map_on
    · rintro ⟨profile, image⟩ hpair ⟨profile', image'⟩ hpair' heq
      obtain ⟨⟨hprofile, himage⟩, -⟩ := mem_releasedPairs.mp hpair
      obtain ⟨⟨hprofile', himage'⟩, -⟩ := mem_releasedPairs.mp hpair'
      obtain ⟨rfl, rfl⟩ := h.key_inj hprofile hprofile' himage himage' (Prod.mk.inj heq).1
      rfl
    · exact (h.profiles_nodup.product h.images_nodup).filter _
  have hperm : (catalog.planState version).planned.pairs.Perm (catalog.releasedPairs.map fun pair =>
      (pair.1.name ++ "\x00" ++ pair.2.name, catalog.plannedImage version pair.1 pair.2)) := by
    apply FiniteMap.pairs_perm hnodup
    intro k planned
    rw [List.mem_map]
    constructor
    · intro hlookup
      have hfirst : catalog.kept.filter (·.key = k) ≠ [] := by
        intro hnone
        rw [planned_planState, FiniteMap.lookup_gather, hnone] at hlookup
        cases hlookup
      obtain ⟨c, hc⟩ := List.exists_mem_of_ne_nil _ hfirst
      obtain ⟨hkept, hkey⟩ := List.mem_filter.mp hc
      obtain ⟨hprofile, himage, -⟩ := mem_combinations.mp (mem_kept.mp hkept).1
      rw [decide_eq_true_eq] at hkey
      subst hkey
      rw [Combination.key, lookup_planned h hprofile himage] at hlookup
      split_ifs at hlookup with hempty
      cases hlookup
      exact ⟨(c.profile, c.image), mem_releasedPairs.mpr ⟨⟨hprofile, himage⟩, hempty⟩, rfl⟩
    · rintro ⟨⟨profile, image⟩, hpair, heq⟩
      obtain ⟨⟨hprofile, himage⟩, hne⟩ := mem_releasedPairs.mp hpair
      cases heq
      rw [lookup_planned h hprofile himage, if_neg hne]
  have hmap := hperm.map Prod.snd
  rw [List.map_map] at hmap
  exact hmap

/-- The images that are released for a profile and a platform. -/
def ImageCatalog.keptImages (catalog : ImageCatalog) (profile : CatalogProfile)
    (platform : Platform) : List CatalogImage :=
  catalog.images.filter fun image => catalog.keeps ⟨profile, image, platform⟩

theorem filter_plannedImages (h : Accepted names catalog) {profile : CatalogProfile}
    {platform : Platform} (hprofile : profile ∈ catalog.profiles)
    (hplatform : platform ∈ catalog.platforms) :
    ((catalog.plannedImages version).filter fun planned =>
        planned.profile = profile.name && platform ∈ planned.platforms) =
      (catalog.keptImages profile platform).map (catalog.plannedImage version profile) := by
  rw [ImageCatalog.plannedImages, ImageCatalog.releasedPairs, List.filter_map,
    List.filter_filter, List.product, List.filter_flatMap,
    List.flatMap_eq_of_unique h.profiles_nodup hprofile, List.filter_map, List.map_map]
  · rw [ImageCatalog.keptImages]
    congr 1
    apply List.filter_congr
    intro image _
    by_cases hkeeps : catalog.keeps ⟨profile, image, platform⟩ = true
    · have hmem : platform ∈ catalog.keptPlatforms profile image :=
        List.mem_filter.mpr ⟨hplatform, hkeeps⟩
      simp [ImageCatalog.plannedImage, hmem, hkeeps, List.ne_nil_of_mem hmem]
    · have hmem : platform ∉ catalog.keptPlatforms profile image := fun hin =>
        hkeeps (List.mem_filter.mp hin).2
      simp [ImageCatalog.plannedImage, hmem, hkeeps]
  · intro profile' hprofile' hne
    rw [List.filter_eq_nil_iff]
    intro pair hpair hkeep
    obtain ⟨image, -, rfl⟩ := List.mem_map.mp hpair
    simp only [Function.comp_apply, ImageCatalog.plannedImage, Bool.and_eq_true,
      decide_eq_true_eq] at hkeep
    exact hne (h.profile_eq hprofile' hprofile hkeep.1.1)

theorem length_kept :
    catalog.kept.length =
      (catalog.profiles.flatMap fun profile => catalog.platforms.map fun platform =>
        (catalog.keptImages profile platform).length).sum := by
  rw [ImageCatalog.kept, ImageCatalog.combinations, List.filter_flatMap, List.length_flatMap,
    List.flatMap_def, List.sum_flatten, List.map_map]
  congr 1
  apply List.map_congr_left
  intro profile _
  rw [Function.comp_apply, List.filter_flatMap, List.length_flatMap]
  have hcount : ∀ image, (((catalog.platforms.map fun platform =>
      (⟨profile, image, platform⟩ : Combination)).filter catalog.keeps).length) =
      (catalog.platforms.filter fun platform =>
        catalog.keeps ⟨profile, image, platform⟩).length := by
    intro image
    rw [List.filter_map, List.length_map]
    rfl
  simp only [hcount]
  exact List.sum_length_filter_comm
    (fun image platform => catalog.keeps ⟨profile, image, platform⟩) _ _

end GpuFractioning.Imagelock
