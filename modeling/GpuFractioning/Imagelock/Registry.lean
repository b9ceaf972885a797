import GpuFractioning.Imagelock.Locks

/-!
# Digests from the registry

`remoteResolver` of `hack/imagelock/main.go`. A tag may be moved while it is read, so
its digest is fetched several times and has to be the same each time; a fetch that
fails is tried again. The registry answers every request anew, so its answers are
numbered by the requests of the whole run.
-/

namespace GpuFractioning.Imagelock

open Fallible

section Source

/-- An entry of an index. -/
structure ManifestEntry where
  platform : Option Platform
  digest : String
  deriving DecidableEq, Repr

/-- `remote.Descriptor`, with what `ImageIndex` and `IndexManifest` make of it. -/
structure Descriptor where
  mediaType : String
  /-- `MediaType.IsIndex`, which holds of an OCI image index and of a Docker manifest list. -/
  isIndex : Bool
  digest : String
  manifests : Except String (List ManifestEntry)

/-- The answer of `remote.Get` to a request. -/
abbrev Registry := ℕ → String → Except String Descriptor

def registryAttempts : ℕ := 3

def defaultStabilityReads : ℤ := 10

variable (registry : Registry) (ref : String)

/-- The loop of `fetchDescriptor`, with the attempts that are left. The second component is the
number of the next request, here and below. -/
def fetchAttempts : ℕ → String → ℕ → Except String Descriptor × ℕ
  | 0, lastErr, next => (.error ("after " ++ toString registryAttempts ++ " attempts: " ++ lastErr),
      next)
  | attempts + 1, _, next =>
    match registry next ref with
    | .ok descriptor => (.ok descriptor, next + 1)
    | .error err => fetchAttempts attempts err (next + 1)

def fetchDescriptor (next : ℕ) : Except String Descriptor × ℕ :=
  fetchAttempts registry ref registryAttempts "" next

/-- The loop of `resolveStableDescriptor` after the first read. -/
def readAgain (first : Descriptor) : ℕ → ℕ → Except String Descriptor × ℕ
  | 0, next => (.ok first, next)
  | reads + 1, next =>
    match fetchDescriptor registry ref next with
    | (.error err, next) => (.error err, next)
    | (.ok again, next) =>
      if again.digest ≠ first.digest then
        (.error ("digest changed between reads: " ++ first.digest ++ " vs " ++ again.digest), next)
      else readAgain first reads next

/-- How often `resolveStableDescriptor` reads. -/
def effectiveReads (reads : ℤ) : ℕ := (if reads < 1 then defaultStabilityReads else reads).toNat

def resolveStableDescriptor (reads : ℤ) (next : ℕ) : Except String Descriptor × ℕ :=
  match fetchDescriptor registry ref next with
  | (.error err, next) => (.error err, next)
  | (.ok first, next) => readAgain registry ref first (effectiveReads reads - 1) next

def matchingDigests (manifests : List ManifestEntry) (platform : Platform) : List String :=
  (manifests.filter fun entry => entry.platform = some platform).map ManifestEntry.digest

/-- One pass of the loop of `manifestDigestsPerPlatform`. -/
def addDigest (manifests : List ManifestEntry) (digests : FiniteMap Platform String)
    (platform : Platform) : Except String (FiniteMap Platform String) :=
  match matchingDigests manifests platform with
  | [] => .error ("no " ++ platform.string ++ " manifest in index")
  | [digest] => .ok (digests.insert platform digest)
  | found => .error ("ambiguous " ++ platform.string ++ ": " ++ toString found.length ++
      " manifests match")

def manifestDigestsPerPlatform (descriptor : Descriptor) (platforms : List Platform) :
    Except String (FiniteMap Platform String) := do
  let manifests ← descriptor.manifests
  platforms.foldlM (addDigest manifests) ∅

/-- What `resolve` takes from a descriptor that has been read. -/
def indexDigests (descriptor : Descriptor) (platforms : List Platform) :
    Except String (String × FiniteMap Platform String) := do
  require descriptor.isIndex
    ("source is " ++ descriptor.mediaType ++ ", not a multi-platform image index")
  let digestPerPlatform ← manifestDigestsPerPlatform descriptor platforms
  pure (descriptor.digest, digestPerPlatform)

/-- `remoteResolver.resolve`, with `name.ParseReference` as a parameter. -/
def resolve (parseReference : String → Except String Unit) (reads : ℤ) (platforms : List Platform)
    (next : ℕ) : Except String (String × FiniteMap Platform String) × ℕ :=
  match parseReference ref with
  | .error err => (.error err, next)
  | .ok () =>
    match resolveStableDescriptor registry ref reads next with
    | (.error err, next) => (.error err, next)
    | (.ok descriptor, next) => (indexDigests descriptor platforms, next)

end Source

section Answers

variable {registry : Registry} {ref : String}

/-- The descriptors that the requests from `start` on, up to `stop`, were answered with. -/
def answers (registry : Registry) (ref : String) (start stop : ℕ) : List Descriptor :=
  (List.range' start (stop - start)).filterMap fun n => (registry n ref).toOption

variable (registry ref) in
theorem answers_append {start mid stop : ℕ} (hmid : start ≤ mid) (hstop : mid ≤ stop) :
    answers registry ref start stop =
      answers registry ref start mid ++ answers registry ref mid stop := by
  have hlength : stop - start = (mid - start) + (stop - mid) := by omega
  have hnext : start + (mid - start) = mid := by omega
  unfold answers
  rw [hlength, ← List.range'_append_1, List.filterMap_append, hnext]

theorem answers_succ (start : ℕ) :
    answers registry ref start (start + 1) = (registry start ref).toOption.toList := by
  have hlength : start + 1 - start = 1 := by omega
  rw [answers, hlength, List.range'_one]
  cases hanswer : registry start ref <;> simp [hanswer, Except.toOption]

theorem fetchAttempts_spec {attempts : ℕ} {lastErr : String} {start stop : ℕ}
    {result : Except String Descriptor}
    (h : fetchAttempts registry ref attempts lastErr start = (result, stop)) :
    start ≤ stop ∧ stop ≤ start + attempts ∧
      answers registry ref start stop = result.toOption.toList := by
  induction attempts generalizing lastErr start with
  | zero =>
    cases h
    refine ⟨le_rfl, le_rfl, ?_⟩
    simp [answers, Except.toOption]
  | succ attempts ih =>
    cases hanswer : registry start ref with
    | ok descriptor =>
      simp only [fetchAttempts, hanswer] at h
      cases h
      refine ⟨by omega, by omega, ?_⟩
      rw [answers_succ, hanswer]
    | error err =>
      simp only [fetchAttempts, hanswer] at h
      obtain ⟨hlow, hhigh, hanswers⟩ := ih h
      refine ⟨by omega, by omega, ?_⟩
      rw [answers_append registry ref (Nat.le_succ start) hlow, answers_succ, hanswer, hanswers]
      rfl

theorem readAgain_spec {first descriptor : Descriptor} {reads start stop : ℕ}
    (h : readAgain registry ref first reads start = (.ok descriptor, stop)) :
    descriptor = first ∧ start ≤ stop ∧ stop ≤ start + registryAttempts * reads ∧
      (answers registry ref start stop).length = reads ∧
      ∀ again ∈ answers registry ref start stop, again.digest = first.digest := by
  induction reads generalizing start with
  | zero =>
    cases h
    simp [answers]
  | succ reads ih =>
    unfold readAgain at h
    cases hfetch : fetchDescriptor registry ref start with
    | mk result mid =>
      obtain ⟨hlow, hhigh, hanswers⟩ := fetchAttempts_spec hfetch
      rw [hfetch] at h
      cases result with
      | error err => cases h
      | ok again =>
        have hdigest : again.digest = first.digest := by
          by_contra hne
          simp only [ne_eq, hne, not_false_eq_true, if_true] at h
          cases h
        simp only [hdigest, ne_eq, not_true_eq_false, if_false] at h
        obtain ⟨rfl, hmid, hbound, hlength, hsame⟩ := ih h
        have hsplit := answers_append registry ref hlow hmid
        rw [hanswers] at hsplit
        refine ⟨rfl, hlow.trans hmid, ?_, ?_, ?_⟩
        · rw [Nat.mul_succ]
          omega
        · rw [hsplit, List.length_append, hlength]
          exact Nat.add_comm 1 reads
        · intro other hother
          rw [hsplit] at hother
          rcases List.mem_append.mp hother with hfirst | hrest
          · cases List.mem_singleton.mp hfirst
            exact hdigest
          · exact hsame other hrest

theorem effectiveReads_pos (reads : ℤ) : 0 < effectiveReads reads := by
  unfold effectiveReads defaultStabilityReads
  split_ifs with hreads <;> omega

/-- Between two requests the tag was read as often as it was asked for, with one digest. -/
structure StableReads (registry : Registry) (ref : String) (reads start stop : ℕ)
    (descriptor : Descriptor) : Prop where
  first : (answers registry ref start stop).head? = some descriptor
  count : (answers registry ref start stop).length = reads
  agree : ∀ again ∈ answers registry ref start stop, again.digest = descriptor.digest
  low : start ≤ stop
  high : stop ≤ start + registryAttempts * reads

theorem stableReads_of_resolveStableDescriptor {reads : ℤ} {start stop : ℕ}
    {descriptor : Descriptor}
    (h : resolveStableDescriptor registry ref reads start = (.ok descriptor, stop)) :
    StableReads registry ref (effectiveReads reads) start stop descriptor := by
  have hpos := effectiveReads_pos reads
  unfold resolveStableDescriptor at h
  cases hfetch : fetchDescriptor registry ref start with
  | mk result mid =>
    obtain ⟨hlow, hhigh, hanswers⟩ := fetchAttempts_spec hfetch
    rw [hfetch] at h
    cases result with
    | error err => cases h
    | ok first =>
      obtain ⟨rfl, hmid, hbound, hlength, hsame⟩ := readAgain_spec h
      have hsplit := answers_append registry ref hlow hmid
      rw [hanswers] at hsplit
      have hmul : registryAttempts * effectiveReads reads =
          registryAttempts * (effectiveReads reads - 1) + registryAttempts := by
        rw [← Nat.mul_succ]
        congr 1
        omega
      refine ⟨?_, ?_, ?_, hlow.trans hmid, by omega⟩
      · rw [hsplit]
        rfl
      · have hone :
            ((Except.ok descriptor : Except String Descriptor).toOption.toList).length = 1 := rfl
        rw [hsplit, List.length_append, hlength, hone]
        omega
      · intro again hagain
        rw [hsplit] at hagain
        rcases List.mem_append.mp hagain with hfirst | hrest
        · cases List.mem_singleton.mp hfirst
          rfl
        · exact hsame again hrest

end Answers

section Manifests

variable {manifests : List ManifestEntry} {platforms : List Platform}
  {digests : FiniteMap Platform String}

theorem addDigest_eq_ok_iff {platform : Platform} {digests' : FiniteMap Platform String} :
    addDigest manifests digests platform = .ok digests' ↔
      (∃ digest, matchingDigests manifests platform = [digest]) ∧
        digests' = digests.insert platform ((matchingDigests manifests platform).headD "") := by
  unfold addDigest
  cases matchingDigests manifests platform with
  | nil => simp
  | cons digest rest =>
    cases rest with
    | nil => simp [eq_comm]
    | cons digest' rest => simp

theorem lookup_of_foldlM_addDigest
    (h : platforms.foldlM (addDigest manifests) ∅ = .ok digests) (platform : Platform)
    (digest : String) :
    digests.lookup platform = some digest ↔
      platform ∈ platforms ∧ matchingDigests manifests platform = [digest] := by
  obtain ⟨hunique, rfl⟩ := (foldlM_eq_ok_iff
    (fun p => ∃ digest, matchingDigests manifests p = [digest])
    (fun found p => found.insert p ((matchingDigests manifests p).headD ""))
    (fun _ _ _ => addDigest_eq_ok_iff) platforms ∅ digests).mp h
  change (FiniteMap.insertAll id (fun p => (matchingDigests manifests p).headD "") platforms
    ∅).lookup platform = _ ↔ _
  rw [FiniteMap.lookup_insertAll]
  cases hfind : platforms.reverse.find? fun p => id p = platform with
  | none =>
    have hnotMem : platform ∉ platforms := by
      intro hmem
      exact List.find?_eq_none.mp hfind platform (List.mem_reverse.mpr hmem) (decide_eq_true rfl)
    simp [hnotMem]
  | some found =>
    obtain rfl : found = platform := by simpa using List.find?_some hfind
    have hmem := List.mem_reverse.mp (List.mem_of_find?_eq_some hfind)
    obtain ⟨only, honly⟩ := hunique found hmem
    simp [honly, hmem]

/-- A resolved reference: its tag was stable over the reads, and each digest is that of the only
manifest of the platform in the index that was read. -/
structure StableIndex (registry : Registry) (ref : String) (reads start stop : ℕ)
    (platforms : List Platform) (indexDigest : String) (digests : FiniteMap Platform String) :
    Prop where
  index : ∃ descriptor manifests, StableReads registry ref reads start stop descriptor ∧
    descriptor.isIndex = true ∧ descriptor.digest = indexDigest ∧
    descriptor.manifests = .ok manifests ∧
    ∀ platform digest, digests.lookup platform = some digest ↔
      platform ∈ platforms ∧ matchingDigests manifests platform = [digest]

theorem stableIndex_of_resolve {registry : Registry} {ref : String}
    {parseReference : String → Except String Unit} {reads : ℤ} {start stop : ℕ}
    {indexDigest : String}
    (h : resolve registry ref parseReference reads platforms start =
      (.ok (indexDigest, digests), stop)) :
    StableIndex registry ref (effectiveReads reads) start stop platforms indexDigest digests := by
  unfold resolve at h
  cases hparse : parseReference ref with
  | error err =>
    rw [hparse] at h
    cases h
  | ok u =>
    rw [hparse] at h
    dsimp only at h
    cases hstable : resolveStableDescriptor registry ref reads start with
    | mk result mid =>
      rw [hstable] at h
      cases result with
      | error err => cases h
      | ok descriptor =>
        obtain ⟨hdigests, rfl⟩ := Prod.mk.inj h
        simp only [indexDigests, manifestDigestsPerPlatform, bind_eq_ok_iff, require_eq_ok_iff,
          pure_eq_ok_iff, Prod.mk.injEq] at hdigests
        obtain ⟨-, hindex, found, ⟨manifests, hmanifests, hfold⟩, hdigest, rfl⟩ := hdigests
        exact ⟨descriptor, manifests, stableReads_of_resolveStableDescriptor hstable, hindex,
          hdigest, hmanifests, lookup_of_foldlM_addDigest hfold⟩

end Manifests

section Run

variable (registry : Registry) (parseReference : String → Except String Unit) (reads : ℤ)
  (images : List PlannedImage)

/-- The number of the first request for an image, after those for the images before it. -/
def requestAt : ℕ → ℕ
  | 0 => 0
  | call + 1 =>
    match images[call]? with
    | none => requestAt call
    | some image =>
      (resolve registry image.reference parseReference reads image.platforms
        (requestAt call)).2

/-- The resolver of a run, whose calls follow one another. -/
def remoteResolver : DigestResolver := fun call ref platforms =>
  (resolve registry ref parseReference reads platforms
    (requestAt registry parseReference reads images call)).1

variable {registry parseReference reads images}

/-- What the run knows of an image that it has resolved. -/
structure ResolvedStably (registry : Registry) (parseReference : String → Except String Unit)
    (reads : ℤ) (images : List PlannedImage) (entry : PlannedImage × ℕ) (image : ResolvedImage) :
    Prop where
  chartImage : image.toChartImage = entry.1.toChartImage
  profile : image.profile = entry.1.profile
  stable : StableIndex registry entry.1.reference (effectiveReads reads)
    (requestAt registry parseReference reads images entry.2)
    (requestAt registry parseReference reads images (entry.2 + 1)) entry.1.platforms
    image.indexDigest image.digestPerPlatform

theorem resolvedStably_of_resolveImage {call : ℕ} {planned : PlannedImage} {image : ResolvedImage}
    (hplanned : images[call]? = some planned)
    (h : resolveImage (remoteResolver registry parseReference reads images) (planned, call) =
      .ok image) :
    ResolvedStably registry parseReference reads images (planned, call) image := by
  simp only [resolveImage, bind_eq_ok_iff, mapError_eq_ok_iff, pure_eq_ok_iff] at h
  obtain ⟨⟨indexDigest, digests⟩, hanswer, -, -, rfl⟩ := h
  have hnext : requestAt registry parseReference reads images (call + 1) =
      (resolve registry planned.reference parseReference reads planned.platforms
        (requestAt registry parseReference reads images call)).2 := by
    simp only [requestAt, hplanned]
  have hresolve : resolve registry planned.reference parseReference reads planned.platforms
      (requestAt registry parseReference reads images call) =
      (.ok (indexDigest, digests), requestAt registry parseReference reads images (call + 1)) :=
    Prod.ext hanswer hnext.symm
  exact ⟨rfl, rfl, stableIndex_of_resolve hresolve⟩

theorem exists_resolvedStably {resolved : List ResolvedImage} {image : ResolvedImage}
    (h : resolveImages images (remoteResolver registry parseReference reads images) = .ok resolved)
    (himage : image ∈ resolved) :
    ∃ call planned, images[call]? = some planned ∧
      ResolvedStably registry parseReference reads images (planned, call) image := by
  obtain ⟨⟨planned, call⟩, hentry, hresolve⟩ := exists_of_mem_right (mapM_eq_ok_iff.mp h) himage
  have hplanned := List.mem_zipIdx_iff_getElem?.mp hentry
  exact ⟨call, planned, hplanned, resolvedStably_of_resolveImage hplanned hresolve⟩

end Run

end GpuFractioning.Imagelock
