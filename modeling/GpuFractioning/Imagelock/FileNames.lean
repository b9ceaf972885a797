import GpuFractioning.Imagelock.Publication

/-!
# One file for every target

`lockFileName` joins the profile, the operating system and the architecture with
hyphens, and leaves the standard profile out. Two targets share a file name
exactly when hyphens inside these parts line up with those between them.
-/

namespace GpuFractioning.Imagelock

open FileSystem

section Version

/-- A numeral without leading zeros. -/
def isNumeral : List Char → Bool
  | [] => false
  | c :: cs => (c = '0' && cs = []) || ('1' ≤ c && c ≤ '9' && cs.all Char.isDigit)

def isIdentifierChar (c : Char) : Bool := c.isAlphanum || c = '-'

/-- The regular expression `releaseVersion`: three numerals with dots between them and, from
the first hyphen on, identifiers with dots between them. -/
def releaseVersion (version : String) : Bool :=
  match version.toList with
  | 'v' :: rest =>
    let core := (rest.takeWhile (· ≠ '-')).splitOn '.'
    let prerelease := rest.dropWhile (· ≠ '-')
    core.length = 3 && core.all isNumeral &&
      (prerelease = [] ||
        (prerelease.tail.splitOn '.').all fun part => part ≠ [] && part.all isIdentifierChar)
  | _ => false

example : releaseVersion "v1.2.3-rc.1" = true := by decide

example : releaseVersion "v1.02.3" = false := by decide

theorem slash_notMem_of_isNumeral {part : List Char} (h : isNumeral part = true) :
    '/' ∉ part := by
  cases part with
  | nil => exact List.not_mem_nil
  | cons c cs =>
    simp only [isNumeral, Bool.or_eq_true, Bool.and_eq_true, decide_eq_true_eq,
      List.all_eq_true] at h
    intro hmem
    rcases h with ⟨rfl, rfl⟩ | ⟨⟨hlow, hhigh⟩, hdigits⟩
    · simp at hmem
    · rcases List.mem_cons.mp hmem with rfl | hcs
      · exact absurd hlow (by decide)
      · exact absurd (hdigits '/' hcs) (by decide)

theorem slash_notMem_of_releaseVersion {version : String} (h : releaseVersion version = true) :
    '/' ∉ version.toList := by
  unfold releaseVersion at h
  split at h
  · next rest hrest =>
    simp only [Bool.and_eq_true, Bool.or_eq_true, decide_eq_true_eq, List.all_eq_true] at h
    obtain ⟨⟨-, hcore⟩, hprerelease⟩ := h
    rw [hrest]
    intro hmem
    have hmem : '/' ∈ rest := (List.mem_cons.mp hmem).resolve_left (by decide)
    rw [← List.takeWhile_append_dropWhile (p := (· ≠ '-')) (l := rest), List.mem_append] at hmem
    rcases hmem with hmem | hmem
    · obtain ⟨part, hpart, hslash⟩ := GoString.exists_mem_splitOn hmem (by decide : '/' ≠ '.')
      exact slash_notMem_of_isNumeral (hcore part hpart) hslash
    · cases hdrop : rest.dropWhile (· ≠ '-') with
      | nil =>
        rw [hdrop] at hmem
        cases hmem
      | cons c cs =>
        have hhead := List.head?_dropWhile_not (fun c => decide (c ≠ '-')) rest
        rw [hdrop] at hhead hmem hprerelease
        obtain rfl : c = '-' := by simpa using hhead
        have hcs : '/' ∈ cs := (List.mem_cons.mp hmem).resolve_left (by decide)
        obtain ⟨part, hpart, hslash⟩ := GoString.exists_mem_splitOn hcs (by decide : '/' ≠ '.')
        have hchars := hprerelease.resolve_left (List.cons_ne_nil _ _) part hpart
        exact absurd (hchars.2 '/' hslash) (by decide)
  · cases h

end Version

section Segments

/-- The platform as a file name has it. -/
def Platform.hyphenated (p : Platform) : String := p.os ++ "-" ++ p.architecture

/-- The part of a lock's file name that tells targets apart. -/
def LockTarget.segment (target : LockTarget) : String :=
  if target.profile = standardProfile then target.platform.hyphenated
  else target.profile ++ "-" ++ target.platform.hyphenated

theorem targetFileName_eq_segment (artifactName version : String) (target : LockTarget) :
    targetFileName artifactName version target =
      "imagelock-" ++ artifactName ++ "-" ++ version ++ "-" ++ target.segment ++ ".yaml" := by
  unfold targetFileName lockFileName LockTarget.segment Platform.hyphenated
  split_ifs
  · simp only [String.append_assoc]
  · simp only [String.append_assoc]

theorem targetFileName_inj {artifactName version : String} {target target' : LockTarget} :
    targetFileName artifactName version target = targetFileName artifactName version target' ↔
      target.segment = target'.segment := by
  rw [targetFileName_eq_segment, targetFileName_eq_segment]
  constructor
  · intro h
    exact String.append_right_inj _ |>.mp (GoString.append_left_injective h)
  · intro h
    rw [h]

/-- The hyphens inside the parts never line up with those between them. -/
structure HyphensApart (catalog : ImageCatalog) : Prop where
  platforms : ∀ p ∈ catalog.platforms, ∀ q ∈ catalog.platforms, ∀ r,
    q.os = p.os ++ "-" ++ r → p.architecture ≠ r ++ "-" ++ q.architecture
  standard : standardProfile ∈ profileNames catalog.profiles →
    ∀ profile ∈ profileNames catalog.profiles, profile ≠ standardProfile →
      ∀ p ∈ catalog.platforms, ∀ q ∈ catalog.platforms,
        p.hyphenated ≠ profile ++ "-" ++ q.hyphenated
  profiles : ∀ profile ∈ profileNames catalog.profiles, profile ≠ standardProfile →
    ∀ profile' ∈ profileNames catalog.profiles, profile' ≠ standardProfile →
      ∀ r, profile' = profile ++ "-" ++ r →
        ∀ p ∈ catalog.platforms, ∀ q ∈ catalog.platforms, p.hyphenated ≠ r ++ "-" ++ q.hyphenated

variable {catalog : ImageCatalog}

theorem append_hyphen_cases {a a' s s' : String} (h : a ++ "-" ++ s = a' ++ "-" ++ s') :
    a = a' ∧ s = s' ∨ (∃ r, a' = a ++ "-" ++ r ∧ s = r ++ "-" ++ s') ∨
      ∃ r, a = a' ++ "-" ++ r ∧ s' = r ++ "-" ++ s := by
  have hhyphen : "-" = String.singleton '-' := by decide
  rw [hhyphen] at h ⊢
  exact GoString.append_separator_cases h

theorem append_hyphen_ne (a r : String) : a ≠ a ++ "-" ++ r := by
  intro h
  have hlength := congrArg String.length h
  simp only [String.length_append] at hlength
  have hhyphen : "-".length = 1 := by decide
  omega

theorem HyphensApart.platform_eq (h : HyphensApart catalog) {p q : Platform}
    (hp : p ∈ catalog.platforms) (hq : q ∈ catalog.platforms)
    (heq : p.hyphenated = q.hyphenated) : p = q := by
  rcases append_hyphen_cases heq with ⟨hos, harchitecture⟩ | ⟨r, hos, harch⟩ | ⟨r, hos, harch⟩
  · cases p
    cases q
    cases hos
    cases harchitecture
    rfl
  · exact absurd harch (h.platforms p hp q hq r hos)
  · exact absurd harch (h.platforms q hq p hp r hos)

theorem HyphensApart.target_eq (h : HyphensApart catalog) {target target' : LockTarget}
    (hprofile : target.profile ∈ profileNames catalog.profiles)
    (hplatform : target.platform ∈ catalog.platforms)
    (hprofile' : target'.profile ∈ profileNames catalog.profiles)
    (hplatform' : target'.platform ∈ catalog.platforms)
    (heq : target.segment = target'.segment) : target = target' := by
  obtain ⟨profile, p⟩ := target
  obtain ⟨profile', q⟩ := target'
  simp only [LockTarget.segment] at heq
  split_ifs at heq with hstandard hstandard' hstandard'
  · obtain rfl := h.platform_eq hplatform hplatform' heq
    rw [hstandard, hstandard']
  · exact absurd heq
      (h.standard (hstandard ▸ hprofile) profile' hprofile' hstandard' p hplatform q hplatform')
  · exact absurd heq.symm
      (h.standard (hstandard' ▸ hprofile') profile hprofile hstandard q hplatform' p hplatform)
  · rcases append_hyphen_cases heq with ⟨rfl, hpq⟩ | ⟨r, hr, hpq⟩ | ⟨r, hr, hpq⟩
    · obtain rfl := h.platform_eq hplatform hplatform' hpq
      rfl
    · exact absurd hpq (h.profiles profile hprofile hstandard profile' hprofile' hstandard' r hr
        p hplatform q hplatform')
    · exact absurd hpq (h.profiles profile' hprofile' hstandard' profile hprofile hstandard r hr
        q hplatform' p hplatform)

theorem hyphensApart_of_segments (hnonempty : profileNames catalog.profiles ≠ [])
    (h : ∀ profile ∈ profileNames catalog.profiles, ∀ p ∈ catalog.platforms,
      ∀ profile' ∈ profileNames catalog.profiles, ∀ q ∈ catalog.platforms,
        LockTarget.segment ⟨profile, p⟩ = LockTarget.segment ⟨profile', q⟩ →
          profile = profile' ∧ p = q) :
    HyphensApart catalog where
  platforms p hp q hq r hos harch := by
    obtain ⟨profile, hprofile⟩ := List.exists_mem_of_ne_nil _ hnonempty
    have hsegment : LockTarget.segment ⟨profile, p⟩ = LockTarget.segment ⟨profile, q⟩ := by
      have hpq : p.hyphenated = q.hyphenated := by
        rw [Platform.hyphenated, Platform.hyphenated, hos, harch]
        simp only [String.append_assoc]
      rw [LockTarget.segment, LockTarget.segment, hpq]
    obtain ⟨-, rfl⟩ := h profile hprofile p hp profile hprofile q hq hsegment
    exact append_hyphen_ne p.os r hos
  standard hstandard profile hprofile hne p hp q hq heq := by
    have hsegment : LockTarget.segment ⟨standardProfile, p⟩ = LockTarget.segment ⟨profile, q⟩ := by
      rw [LockTarget.segment, LockTarget.segment, if_pos rfl, if_neg hne]
      exact heq
    exact hne (h standardProfile hstandard p hp profile hprofile q hq hsegment).1.symm
  profiles profile hprofile hne profile' hprofile' hne' r hr p hp q hq heq := by
    have hsegment : LockTarget.segment ⟨profile, p⟩ = LockTarget.segment ⟨profile', q⟩ := by
      rw [LockTarget.segment, LockTarget.segment, if_neg hne, if_neg hne', hr, heq]
      simp only [String.append_assoc]
    have hsame := (h profile hprofile p hp profile' hprofile' q hq hsegment).1
    exact append_hyphen_ne profile r (hsame.trans hr)

theorem hyphenated_ne {p : Platform} (hos : '-' ∉ p.os.toList)
    (harch : '-' ∉ p.architecture.toList) (a : String) (q : Platform) :
    p.hyphenated ≠ a ++ "-" ++ q.hyphenated := by
  intro h
  rcases append_hyphen_cases h with ⟨-, heq⟩ | ⟨r, -, heq⟩ | ⟨r, heq, -⟩
  · rw [heq] at harch
    simp [Platform.hyphenated] at harch
  · rw [heq] at harch
    simp at harch
  · rw [heq] at hos
    simp at hos

theorem hyphensApart_of_plain
    (h : ∀ p ∈ catalog.platforms, '-' ∉ p.os.toList ∧ '-' ∉ p.architecture.toList) :
    HyphensApart catalog where
  platforms p hp q hq r hos := by
    have hq := (h q hq).1
    rw [hos] at hq
    simp at hq
  standard _ profile _ _ p hp q _ := hyphenated_ne (h p hp).1 (h p hp).2 profile q
  profiles _ _ _ _ _ _ r _ p hp q _ := hyphenated_ne (h p hp).1 (h p hp).2 r q

end Segments

section Files

variable {names : Names} {catalog : ImageCatalog} {version : String} {plan : ReleasePlan}

theorem mem_targets (hplan : buildReleasePlan names catalog version = .ok plan)
    {target : LockTarget} :
    target ∈ plan.targets ↔
      target.profile ∈ profileNames catalog.profiles ∧ target.platform ∈ catalog.platforms := by
  rw [(perm_targets hplan).mem_iff, ImageCatalog.targets, List.mem_flatMap]
  constructor
  · rintro ⟨profile, hprofile, hmem⟩
    obtain ⟨platform, hplatform, rfl⟩ := List.mem_map.mp hmem
    exact ⟨List.mem_map_of_mem hprofile, hplatform⟩
  · rintro ⟨hprofile, hplatform⟩
    obtain ⟨profile, hprofile, hname⟩ := List.mem_map.mp hprofile
    exact ⟨profile, hprofile, List.mem_map.mpr ⟨target.platform, hplatform, by rw [hname]⟩⟩

theorem length_targets (hplan : buildReleasePlan names catalog version = .ok plan) :
    plan.targets.length = catalog.profiles.length * catalog.platforms.length := by
  rw [(perm_targets hplan).length_eq, ImageCatalog.targets, List.length_flatMap]
  simp

theorem nodup_targets (haccepted : Accepted names catalog)
    (hplan : buildReleasePlan names catalog version = .ok plan) : plan.targets.Nodup := by
  rw [(perm_targets hplan).nodup_iff, ImageCatalog.targets, List.nodup_flatMap]
  constructor
  · intro profile _
    apply haccepted.platforms.nodup.of_map.map
    intro p q hpq
    exact congrArg LockTarget.platform hpq
  · have hnames : catalog.profiles.Pairwise fun profile profile' => profile.name ≠ profile'.name :=
      List.pairwise_map.mp haccepted.profiles.nodup
    apply hnames.imp
    intro profile profile' hne target hmem hmem'
    obtain ⟨p, -, rfl⟩ := List.mem_map.mp hmem
    obtain ⟨q, -, heq⟩ := List.mem_map.mp hmem'
    exact hne (congrArg LockTarget.profile heq).symm

theorem slash_notMem_hyphenated {p : Platform} (hvalid : p.valid = true) :
    '/' ∉ p.hyphenated.toList := by
  have hcontains {s : String} (hs : GoString.contains s "/" = false) : '/' ∉ s.toList := by
    intro hmem
    obtain ⟨before, after, hsplit⟩ := List.append_of_mem hmem
    have hinfix : "/".toList <:+: s.toList := ⟨before, after, by simp [hsplit]⟩
    rw [GoString.contains_iff.mpr hinfix] at hs
    cases hs
  simp only [Platform.valid, Bool.and_eq_true, Bool.not_eq_true'] at hvalid
  rw [Platform.hyphenated, String.toList_append, String.toList_append, List.mem_append,
    List.mem_append, not_or, not_or]
  exact ⟨⟨hcontains hvalid.1.2, by decide⟩, hcontains hvalid.2⟩

theorem slash_notMem_segment (haccepted : Accepted names catalog) {target : LockTarget}
    (hprofile : target.profile ∈ profileNames catalog.profiles)
    (hplatform : target.platform ∈ catalog.platforms) : '/' ∉ target.segment.toList := by
  have hhyphenated := slash_notMem_hyphenated (haccepted.platforms.valid _ hplatform)
  unfold LockTarget.segment
  split_ifs
  · exact hhyphenated
  · have hname : '/' ∉ target.profile.toList :=
      notMem_of_catalogName (haccepted.profiles.valid _ hprofile) (by decide) (by decide)
        (by decide)
    rw [String.toList_append, String.toList_append, List.mem_append, List.mem_append, not_or,
      not_or]
    exact ⟨⟨hname, by decide⟩, hhyphenated⟩

theorem isName_targetFileName (haccepted : Accepted names catalog)
    (hversion : releaseVersion version = true) {target : LockTarget}
    (hprofile : target.profile ∈ profileNames catalog.profiles)
    (hplatform : target.platform ∈ catalog.platforms) :
    GoPath.IsName (targetFileName catalog.artifactName version target) := by
  have hartifact : '/' ∉ catalog.artifactName.toList :=
    notMem_of_catalogName haccepted.artifactName (by decide) (by decide) (by decide)
  apply GoPath.isName_of_length
  · have hyaml : ".yaml".length = 5 := by decide
    rw [targetFileName_eq_segment, String.length_append]
    omega
  · rw [targetFileName_eq_segment]
    simp only [String.toList_append, List.mem_append, not_or]
    exact ⟨⟨⟨⟨⟨⟨by decide, hartifact⟩, by decide⟩, slash_notMem_of_releaseVersion hversion⟩,
      by decide⟩, slash_notMem_segment haccepted hprofile hplatform⟩, by decide⟩

theorem outputPath_inj (haccepted : Accepted names catalog)
    (hversion : releaseVersion version = true)
    (hplan : buildReleasePlan names catalog version = .ok plan) {outDir : String}
    {target target' : LockTarget} (htarget : target ∈ plan.targets)
    (htarget' : target' ∈ plan.targets)
    (h : outputPath ⟨version, outDir⟩ catalog target =
      outputPath ⟨version, outDir⟩ catalog target') :
    target.segment = target'.segment := by
  have hname {target : LockTarget} (htarget : target ∈ plan.targets) :
      GoPath.IsName (targetFileName catalog.artifactName version target) := by
    obtain ⟨hprofile, hplatform⟩ := (mem_targets hplan).mp htarget
    exact isName_targetFileName haccepted hversion hprofile hplatform
  obtain ⟨parent, hparent⟩ := GoPath.exists_join_eq outDir
  rw [outputPath, outputPath, hparent _ (hname htarget), hparent _ (hname htarget')] at h
  exact targetFileName_inj.mp ((String.append_right_inj _).mp h)

/-- Every target has a file of its own: a lock of another target has another name, and a
release that succeeds leaves one file for each profile and platform, with the lock of
that target in it, and touches no other path. -/
structure OwnFiles (catalog : ImageCatalog) (version : String) (plan : ReleasePlan) : Prop where
  names : ∀ target ∈ plan.targets, ∀ target' ∈ plan.targets, target ≠ target' →
    ∀ lock lock', LockOf version target lock → LockOf version target' lock' →
      lockFileName catalog.artifactName lock ≠ lockFileName catalog.artifactName lock'
  files : ∀ cause marshal outDir resolved before t after,
    RunUnder RemovalsSucceed
        (writeLocks cause marshal ⟨version, outDir⟩ catalog plan.targets resolved) before t (.ok ())
        after →
      (plan.targets.map (outputPath ⟨version, outDir⟩ catalog)).Nodup ∧
        plan.targets.length = catalog.profiles.length * catalog.platforms.length ∧
        (∀ target ∈ plan.targets, ∃ lock yaml,
          buildLock catalog.name version target resolved = .ok lock ∧ marshal lock = .ok yaml ∧
            after.lookup (outputPath ⟨version, outDir⟩ catalog target) = some (.file yaml)) ∧
        ∀ key ∉ plan.targets.map (outputPath ⟨version, outDir⟩ catalog),
          after.lookup key = before.lookup key

theorem OwnFiles.hyphensApart (hown : OwnFiles catalog version plan)
    (haccepted : Accepted names catalog)
    (hplan : buildReleasePlan names catalog version = .ok plan) : HyphensApart catalog := by
  apply hyphensApart_of_segments haccepted.profiles.nonempty
  intro profile hprofile p hp profile' hprofile' q hq hsegment
  by_contra hne
  have htargets : (⟨profile, p⟩ : LockTarget) ≠ ⟨profile', q⟩ := by
    rintro ⟨⟩
    exact hne ⟨rfl, rfl⟩
  have hnames := hown.names ⟨profile, p⟩ ((mem_targets hplan).mpr ⟨hprofile, hp⟩)
    ⟨profile', q⟩ ((mem_targets hplan).mpr ⟨hprofile', hq⟩) htargets
  exact hnames _ _ ⟨rfl, rfl, rfl⟩ ⟨rfl, rfl, rfl⟩ (targetFileName_inj.mpr hsegment)

theorem HyphensApart.planned_eq (hapart : HyphensApart catalog)
    (hplan : buildReleasePlan names catalog version = .ok plan) {target target' : LockTarget}
    (htarget : target ∈ plan.targets) (htarget' : target' ∈ plan.targets)
    (heq : target.segment = target'.segment) : target = target' := by
  obtain ⟨hprofile, hplatform⟩ := (mem_targets hplan).mp htarget
  obtain ⟨hprofile', hplatform'⟩ := (mem_targets hplan).mp htarget'
  exact hapart.target_eq hprofile hplatform hprofile' hplatform' heq

/-- Different names are different paths, so no rename replaces the lock of another target. -/
theorem HyphensApart.ownFiles (hapart : HyphensApart catalog)
    (haccepted : Accepted names catalog) (hversion : releaseVersion version = true)
    (hplan : buildReleasePlan names catalog version = .ok plan) :
    OwnFiles catalog version plan where
  names target htarget target' htarget' hne lock lock' hlock hlock' heq := by
    rw [hlock.lockFileName_eq, hlock'.lockFileName_eq] at heq
    exact hne (hapart.planned_eq hplan htarget htarget' (targetFileName_inj.mp heq))
  files cause marshal outDir resolved before t after hrun := by
    have hpaths : ∀ target ∈ plan.targets, ∀ target' ∈ plan.targets,
        outputPath ⟨version, outDir⟩ catalog target =
          outputPath ⟨version, outDir⟩ catalog target' → target = target' := by
      intro target htarget target' htarget' heq
      exact hapart.planned_eq hplan htarget htarget'
        (outputPath_inj haccepted hversion hplan htarget htarget' heq)
    have houtcome := of_writeLocks hrun
    refine ⟨(nodup_targets haccepted hplan).map_on hpaths, length_targets hplan, ?_, ?_⟩
    · intro target htarget
      apply houtcome.holds_lock rfl _ htarget
      intro target htarget target' htarget' heq
      rw [hpaths target htarget target' htarget' heq]
    · intro key hkey
      exact houtcome.lookup_other rfl hkey

/-- Every target has a file of its own exactly when no hyphens of the catalog line up. -/
theorem lockFiles_distinct_iff (hvalid : validateCatalog names catalog = .ok ())
    (hversion : releaseVersion version = true)
    (hplan : buildReleasePlan names catalog version = .ok plan) :
    OwnFiles catalog version plan ↔ HyphensApart catalog := by
  have haccepted := validateCatalog_eq_ok_iff.mp hvalid
  constructor
  · intro hown
    exact hown.hyphensApart haccepted hplan
  · intro hapart
    exact hapart.ownFiles haccepted hversion hplan

end Files

section Sample

/-- A registry library that takes every name. -/
def anyName : Names := { newRepository := fun _ => .ok (), newTag := fun _ => .ok () }

/-- A release of one image with the standard profile and another one. -/
def fipsCatalog : ImageCatalog :=
  { apiVersion := catalogAPIVersion
    name := "gpu-fractioning"
    artifactName := "gpu-fractioning"
    repository := "ghcr.io/kai-scheduler/gpu-fractioning"
    images := [⟨"mpsd"⟩]
    profiles := [⟨"standard", versionPlaceholder⟩, ⟨"fips", versionPlaceholder ++ "-fips"⟩]
    platforms := [⟨"linux", "amd64"⟩, ⟨"linux", "arm64"⟩]
    exclude := [] }

theorem accepted_fipsCatalog : Accepted anyName fipsCatalog where
  apiVersion := rfl
  name := by decide
  artifactName := by decide
  noSlash := by decide
  repository := rfl
  images := ⟨by decide, by decide, by decide⟩
  profiles := ⟨by decide, by decide, by decide⟩
  platforms := ⟨by decide, by decide, by decide⟩
  templates := by decide
  exclusions _ hexclusion := absurd hexclusion List.not_mem_nil
  distinct := List.nodup_nil

/-- The platforms have no hyphens. -/
theorem lockFiles_distinct_fips :
    ∃ plan, buildReleasePlan anyName fipsCatalog "v1.2.3" = .ok plan ∧
      OwnFiles fipsCatalog "v1.2.3" plan := by
  have hvalid := validateCatalog_eq_ok_iff.mpr accepted_fipsCatalog
  have hreleasable : Releasable fipsCatalog := ⟨by decide, by decide, by decide, by decide⟩
  have hplan : buildReleasePlan anyName fipsCatalog "v1.2.3" = .ok _ :=
    buildReleasePlan_eq_ok_iff.mpr ⟨fun _ _ _ _ => rfl, hreleasable, rfl⟩
  refine ⟨_, hplan, (lockFiles_distinct_iff hvalid (by decide) hplan).mpr ?_⟩
  exact hyphensApart_of_plain (by decide)

/-- An operating system whose name starts with the profile gives the standard lock the name
of the other profile's lock. -/
theorem lockFileName_collides :
    let catalog : ImageCatalog :=
      { fipsCatalog with platforms := [⟨"linux", "amd64"⟩, ⟨"fips-linux", "amd64"⟩] }
    let target : LockTarget := ⟨"standard", ⟨"fips-linux", "amd64"⟩⟩
    let target' : LockTarget := ⟨"fips", ⟨"linux", "amd64"⟩⟩
    validateCatalog anyName catalog = .ok () ∧ releaseVersion "v1.2.3" = true ∧
      ∃ plan, buildReleasePlan anyName catalog "v1.2.3" = .ok plan ∧
        target ∈ plan.targets ∧ target' ∈ plan.targets ∧
        (∀ lock lock', LockOf "v1.2.3" target lock → LockOf "v1.2.3" target' lock' →
          lockFileName catalog.artifactName lock = lockFileName catalog.artifactName lock') ∧
        ¬ OwnFiles catalog "v1.2.3" plan := by
  intro catalog target target'
  have haccepted : Accepted anyName catalog :=
    { accepted_fipsCatalog with
      platforms := ⟨by decide, by decide, by decide⟩
      exclusions := fun _ hexclusion => absurd hexclusion List.not_mem_nil }
  have hreleasable : Releasable catalog := ⟨by decide, by decide, by decide, by decide⟩
  have hplan : buildReleasePlan anyName catalog "v1.2.3" = .ok _ :=
    buildReleasePlan_eq_ok_iff.mpr ⟨fun _ _ _ _ => rfl, hreleasable, rfl⟩
  have htarget := (mem_targets hplan).mpr (by decide : target.profile ∈ _ ∧ target.platform ∈ _)
  have htarget' := (mem_targets hplan).mpr (by decide : target'.profile ∈ _ ∧ target'.platform ∈ _)
  have hsegment : target.segment = target'.segment := by decide
  refine ⟨validateCatalog_eq_ok_iff.mpr haccepted, by decide, _, hplan, htarget, htarget', ?_, ?_⟩
  · intro lock lock' hlock hlock'
    rw [hlock.lockFileName_eq, hlock'.lockFileName_eq, targetFileName_inj, hsegment]
  · intro hown
    have hnames := hown.names target htarget target' htarget' (by decide)
    exact hnames _ _ ⟨rfl, rfl, rfl⟩ ⟨rfl, rfl, rfl⟩ (targetFileName_inj.mpr hsegment)

end Sample

end GpuFractioning.Imagelock
