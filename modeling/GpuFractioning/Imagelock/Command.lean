import GpuFractioning.Imagelock.FileNames
import GpuFractioning.Imagelock.Registry
import GpuFractioning.Lib.GoFlag

/-!
# The command

`run` and `parseFlags` of `hack/imagelock/main.go`, with the checks of `catalog.go`
against other lists of images: from the arguments to the locks in the output
directory.
-/

namespace GpuFractioning.Imagelock

open Fallible FileSystem

section Source

def verifyVersion : String := "v0.0.0-imagelock-verify"

/-- `options`. -/
structure CommandOptions extends Options where
  catalog : String
  chartValues : String
  verifyOnly : Bool
  stabilityReads : ℤ
  expectedImages : List String

def defaultOptions : CommandOptions :=
  { catalog := "catalog.yaml"
    chartValues := ""
    version := ""
    outDir := "../../dist"
    verifyOnly := false
    stabilityReads := defaultStabilityReads
    expectedImages := [] }

def commandFlags : List (GoFlag.Flag CommandOptions) :=
  [.stringVar "catalog" fun v o => { o with catalog := v },
    .stringVar "chart-values" fun v o => { o with chartValues := v },
    .stringVar "version" fun v o => { o with version := v },
    .stringVar "out-dir" fun v o => { o with outDir := v },
    .boolVar "verify-only" fun v o => { o with verifyOnly := v },
    .intVar "stability-reads" fun v o => { o with stabilityReads := v },
    .stringVar "expected-image" fun v o => { o with expectedImages := o.expectedImages ++ [v] }]

/-- A slice of strings under `%v`. -/
def formatSlice (values : List String) : String := "[" ++ " ".intercalate values ++ "]"

/-- What a run finds outside of the output directory and the registry. A file is given by what
its text decodes to, with the errors of reading and of decoding it. -/
structure CommandEnv where
  names : Names
  parseReference : String → Except String Unit
  flagError : GoFlag.ParseError → String
  readCatalog : String → Except String (Except String ImageCatalog)
  readValues : String → Except String (Except String (FiniteMap String String))
  marshal : ImageLock → Except String String
  cause : Op String → String

variable (env : CommandEnv)

def parseFlags (args : List String) : Except String CommandOptions := do
  let (opts, rest) ← (GoFlag.parse commandFlags args defaultOptions).mapError env.flagError
  require (rest = []) ("unexpected positional arguments: " ++ formatSlice rest)
  require (1 ≤ opts.stabilityReads) "--stability-reads must be at least 1"
  let opts :=
    if opts.verifyOnly ∧ opts.version = "" then { opts with version := verifyVersion } else opts
  require (opts.version ≠ "") "--version is required unless --verify-only is set"
  require (releaseVersion opts.version)
    ("--version " ++ GoText.quote opts.version ++
      " is not a v-prefixed release version like vX.Y.Z")
  pure opts

def loadCatalog (path : String) : Except String ImageCatalog := do
  let decoded ← (env.readCatalog path).mapError fun err => "read catalog " ++ path ++ ": " ++ err
  let catalog ← decoded.mapError fun err => "parse catalog " ++ path ++ ": " ++ err
  (validateCatalog env.names catalog).mapError fun err =>
    "validate catalog " ++ path ++ ": " ++ err
  pure catalog

/-- The first name of a sorted list that follows itself. -/
def repeatedName : List String → Option String
  | name :: name' :: rest => if name' = name then some name' else repeatedName (name' :: rest)
  | _ => none

def validateExpectedImages (catalog : ImageCatalog) (expected : List String) :
    Except String Unit :=
  if expected = [] then .ok ()
  else
    let want := GoSort.slice (fun a b => decide (a < b)) expected
    let got := GoSort.slice (fun a b => decide (a < b)) (imageNames catalog.images)
    match repeatedName want with
    | some name => .error ("expected image " ++ GoText.quote name ++
        " was provided more than once")
    | none =>
      require ("\x00".intercalate got = "\x00".intercalate want)
        ("catalog images " ++ formatSlice got ++ " do not match build images " ++
          formatSlice want)

def validateChartValues (catalog : ImageCatalog) (path : String) : Except String Unit := do
  let decoded ←
    (env.readValues path).mapError fun err => "read chart values " ++ path ++ ": " ++ err
  let repositories ← decoded.mapError fun err => "parse chart values " ++ path ++ ": " ++ err
  (validateExpectedImages catalog repositories.keys).mapError fun err =>
    "chart values " ++ path ++ ": " ++ err
  catalog.images.forM fun image =>
    let want := catalog.repository ++ "/" ++ image.name
    let got := (repositories.lookup image.name).getD ""
    require (got = want)
      ("chart values " ++ path ++ ": image " ++ GoText.quote image.name ++ " repository is " ++
        GoText.quote got ++ ", want " ++ GoText.quote want)

def checkChartValues (catalog : ImageCatalog) (opts : CommandOptions) : Except String Unit :=
  if opts.chartValues ≠ "" then validateChartValues env catalog opts.chartValues else .ok ()

/-- What `run` has checked and planned before it asks the registry. -/
def planRelease (args : List String) :
    Except String (CommandOptions × ImageCatalog × ReleasePlan) := do
  let opts ← parseFlags env args
  let catalog ← loadCatalog env opts.catalog
  validateExpectedImages catalog opts.expectedImages
  checkChartValues env catalog opts
  let plan ← buildReleasePlan env.names catalog opts.version
  pure (opts, catalog, plan)

/-- What is done in the output directory. -/
def run (registry : Registry) (args : List String) : Prog String (Except String Unit) :=
  match planRelease env args with
  | .error err => .pure (.error err)
  | .ok (opts, catalog, plan) =>
    if opts.verifyOnly then .pure (.ok ())
    else
      let resolver := remoteResolver registry env.parseReference opts.stabilityReads plan.images
      match resolveImages plan.images resolver with
      | .error err => .pure (.error err)
      | .ok resolved =>
        writeLocks env.cause env.marshal opts.toOptions catalog plan.targets resolved

end Source

section Checks

variable {env : CommandEnv} {args : List String} {opts : CommandOptions}

theorem reads_of_parseFlags (h : parseFlags env args = .ok opts) : 1 ≤ opts.stabilityReads := by
  simp only [parseFlags, bind_eq_ok_iff, require_eq_ok_iff, pure_eq_ok_iff,
    decide_eq_true_eq] at h
  obtain ⟨⟨parsed, rest⟩, -, -, -, -, hreads, -, -, -, -, rfl⟩ := h
  split_ifs
  · exact hreads
  · exact hreads

theorem reads_of_planRelease {catalog : ImageCatalog} {plan : ReleasePlan}
    (h : planRelease env args = .ok (opts, catalog, plan)) : 1 ≤ opts.stabilityReads := by
  simp only [planRelease, bind_eq_ok_iff, pure_eq_ok_iff, Prod.mk.injEq] at h
  obtain ⟨_, hopts, _, -, -, -, -, -, _, -, rfl, -⟩ := h
  exact reads_of_parseFlags hopts

end Checks

section Published

variable {env : CommandEnv} {registry : Registry} {args : List String} {opts : CommandOptions}
  {catalog : ImageCatalog} {plan : ReleasePlan}

/-- Everything that a lock says of an image was read from the registry in this run: the digest of
the index in each of the reads, and the digest of the platform as the only one in that index. -/
structure LockedStably (env : CommandEnv) (registry : Registry) (opts : CommandOptions)
    (plan : ReleasePlan) (target : LockTarget) (locked : LockedImage) : Prop where
  read : ∃ call planned descriptor manifests digest,
    plan.images[call]? = some planned ∧ planned.profile = target.profile ∧
    target.platform ∈ planned.platforms ∧
    locked.name = planned.name ∧ locked.source = planned.reference ∧
    locked.image = planned.repo ++ "@" ++ digest ∧ locked.indexDigest = descriptor.digest ∧
    StableReads registry planned.reference opts.stabilityReads.toNat
      (requestAt registry env.parseReference opts.stabilityReads plan.images call)
      (requestAt registry env.parseReference opts.stabilityReads plan.images (call + 1))
      descriptor ∧
    descriptor.isIndex = true ∧ descriptor.manifests = .ok manifests ∧
    matchingDigests manifests target.platform = [digest]

theorem effectiveReads_of_pos {reads : ℤ} (h : 1 ≤ reads) : effectiveReads reads = reads.toNat := by
  rw [effectiveReads, if_neg (by omega)]

theorem lockedStably_of_mem (hreads : 1 ≤ opts.stabilityReads) {resolved : List ResolvedImage}
    (hresolved : resolveImages plan.images
      (remoteResolver registry env.parseReference opts.stabilityReads plan.images) = .ok resolved)
    {name version : String} {target : LockTarget} {lock : ImageLock}
    (hlock : buildLock name version target resolved = .ok lock) {locked : LockedImage}
    (hlocked : locked ∈ lock.spec.images) :
    LockedStably env registry opts plan target locked := by
  have hmem : locked ∈ resolved.filterMap (lockImage target) := by
    unfold buildLock at hlock
    dsimp only at hlock
    split_ifs at hlock
    cases hlock
    exact (GoSort.perm_slice lockedLess _).mem_iff.mp hlocked
  obtain ⟨image, himage, hof⟩ := List.mem_filterMap.mp hmem
  obtain ⟨call, planned, hplanned, hstable⟩ := exists_resolvedStably hresolved himage
  obtain ⟨descriptor, manifests, hread, hindex, hdigest, hmanifests, hlookup⟩ :=
    hstable.stable.index
  obtain ⟨hprofile, digest, hfound, rfl⟩ := lockImage_eq_some_iff.mp hof
  obtain ⟨hplatform, honly⟩ := (hlookup target.platform digest).mp hfound
  rw [effectiveReads_of_pos hreads] at hread
  have hchart : image.toChartImage = planned.toChartImage := hstable.chartImage
  exact ⟨call, planned, descriptor, manifests, digest, hplanned,
    hstable.profile.symm.trans hprofile, hplatform, congrArg ChartImage.name hchart,
    congrArg ChartImage.reference hchart, by rw [hchart], hdigest.symm, hread, hindex, hmanifests,
    honly⟩

/-- The output directory after a release: the path of every target holds a lock that was read
stably, and nothing else has changed. -/
structure Released (env : CommandEnv) (registry : Registry) (opts : CommandOptions)
    (catalog : ImageCatalog) (plan : ReleasePlan) (before after : Directory String) : Prop where
  /-- Targets may share a path, and then the lock is that of one of them. -/
  locks : ∀ target ∈ plan.targets, ∃ target' ∈ plan.targets, ∃ lock yaml,
    outputPath opts.toOptions catalog target' = outputPath opts.toOptions catalog target ∧
    LockOf opts.version target' lock ∧ env.marshal lock = .ok yaml ∧
    after.lookup (outputPath opts.toOptions catalog target) = some (.file yaml) ∧
    ∀ locked ∈ lock.spec.images, LockedStably env registry opts plan target' locked
  others : ∀ key, key ∉ plan.targets.map (outputPath opts.toOptions catalog) →
    after.lookup key = before.lookup key

variable {before after : Directory String} {t : Trace String} {result : Except String Unit}

theorem released_of_writeLocks (hreads : 1 ≤ opts.stabilityReads) {resolved : List ResolvedImage}
    (hresolved : resolveImages plan.images
      (remoteResolver registry env.parseReference opts.stabilityReads plan.images) = .ok resolved)
    (hwrite : WriteOutcome env.marshal opts.toOptions catalog plan.targets resolved before t
      (.ok ()) after) : Released env registry opts catalog plan before after := by
  obtain ⟨outputs, houtputs, hafter⟩ := hwrite.published rfl
  refine ⟨?_, fun key hkey => hwrite.lookup_other rfl hkey⟩
  intro target htarget
  obtain ⟨output, houtput, hmarshal⟩ := exists_output houtputs htarget
  obtain ⟨-, -, -, hpath⟩ := marshalLock_eq_ok_iff.mp hmarshal
  obtain ⟨last, hlast, hlastPath, hheld⟩ :=
    exists_lookup_publishAll (List.mem_map_of_mem houtput) before
  obtain ⟨target', htarget', hmarshal'⟩ := exists_target houtputs hlast
  obtain ⟨lock, hlock, hyaml, hpath'⟩ := marshalLock_eq_ok_iff.mp hmarshal'
  refine ⟨target', htarget', lock, last.yaml, ?_, lockOf_of_buildLock hlock, hyaml, ?_, ?_⟩
  · exact hpath'.symm.trans (hlastPath.trans hpath)
  · rw [hafter, ← hpath, hheld]
  · intro locked hlocked
    exact lockedStably_of_mem hreads hresolved hlock hlocked

/-- What a run of the command comes to, whatever the registry answers and the file system does
(as long as files can be removed): after a success every published digest was read stably, after
an error there is no file that was not there before, a verification does not depend on the
registry, and no file is touched before all images are resolved. -/
theorem imagelock_publishes_stable_digests
    (hrun : RunUnder RemovalsSucceed (run env registry args) before t result after) :
    (result = .ok () → ∃ opts catalog plan, planRelease env args = .ok (opts, catalog, plan) ∧
      if opts.verifyOnly then t = [] ∧ ∀ registry', run env registry' args = .pure (.ok ())
      else Released env registry opts catalog plan before after) ∧
    (∀ err, result = .error err →
      ∀ key entry, after.lookup key = some entry → before.lookup key = some entry) ∧
    (t ≠ [] → ∃ opts catalog plan resolved, planRelease env args = .ok (opts, catalog, plan) ∧
      resolveImages plan.images (remoteResolver registry env.parseReference opts.stabilityReads
        plan.images) = .ok resolved) := by
  have hstopped (value : Except String Unit)
      (hpure : RunUnder RemovalsSucceed (.pure value) before t result after) :
      t = [] ∧ result = value ∧ ∀ key entry, after.lookup key = some entry →
        before.lookup key = some entry := by
    obtain ⟨rfl, rfl, rfl⟩ := RunUnder.of_pure hpure
    exact ⟨rfl, rfl, fun _ _ h => h⟩
  unfold run at hrun
  cases hplanned : planRelease env args with
  | error err =>
    rw [hplanned] at hrun
    obtain ⟨rfl, rfl, hsame⟩ := hstopped _ hrun
    exact ⟨by simp, fun _ _ => hsame, by simp⟩
  | ok release =>
    obtain ⟨opts, catalog, plan⟩ := release
    have hreads := reads_of_planRelease hplanned
    rw [hplanned] at hrun
    cases hverify : opts.verifyOnly with
    | true =>
      simp only [hverify, if_true] at hrun
      obtain ⟨rfl, rfl, hsame⟩ := hstopped _ hrun
      refine ⟨fun _ => ⟨opts, catalog, plan, rfl, ?_⟩, fun _ _ => hsame, by simp⟩
      simp only [hverify, if_true]
      refine ⟨trivial, ?_⟩
      intro registry'
      simp only [run, hplanned, hverify, if_true]
    | false =>
      simp only [hverify, Bool.false_eq_true, if_false] at hrun
      cases hresolved : resolveImages plan.images (remoteResolver registry env.parseReference
          opts.stabilityReads plan.images) with
      | error err =>
        rw [hresolved] at hrun
        obtain ⟨rfl, rfl, hsame⟩ := hstopped _ hrun
        exact ⟨by simp, fun _ _ => hsame, by simp⟩
      | ok resolved =>
        rw [hresolved] at hrun
        have hwrite := of_writeLocks hrun
        refine ⟨?_, ?_, fun _ => ⟨opts, catalog, plan, resolved, rfl, hresolved⟩⟩
        · rintro rfl
          refine ⟨opts, catalog, plan, rfl, ?_⟩
          simp only [hverify, Bool.false_eq_true, if_false]
          exact released_of_writeLocks hreads hresolved hwrite
        · intro err herr key entry hentry
          rw [(hwrite.failed err herr).2 key] at hentry
          split_ifs at hentry
          exact hentry

end Published

section Sample

def sampleEnv : CommandEnv :=
  { names := anyName
    parseReference := fun _ => .ok ()
    flagError := fun _ => "flag provided but not defined"
    readCatalog := fun _ => .ok (.ok sampleCatalog)
    readValues := fun _ => .error "no such file or directory"
    marshal := sampleMarshal
    cause := fun _ => "file exists" }

/-- A registry that fails every third request. -/
def sampleRegistry : Registry := fun n _ =>
  if n % 3 = 0 then .error "too many requests"
  else
    .ok
      { mediaType := "application/vnd.oci.image.index.v1+json"
        isIndex := true
        digest := sampleDigest 'a'
        manifests := .ok
          [⟨some ⟨"linux", "amd64"⟩, sampleDigest 'b'⟩, ⟨none, sampleDigest 'c'⟩,
            ⟨some ⟨"linux", "arm64"⟩, sampleDigest 'd'⟩] }

def sampleArgs : List String :=
  ["--version=v1.2.3", "--out-dir", "dist", "--stability-reads=2", "--expected-image=mpsd"]

theorem imagelock_publishes_stable_digests_sample :
    ∃ opts catalog plan, planRelease sampleEnv sampleArgs = .ok (opts, catalog, plan) ∧
      if opts.verifyOnly then
        (execFailing (run sampleEnv sampleRegistry sampleArgs) ∅ []).1 = [] ∧
          ∀ registry', run sampleEnv registry' sampleArgs = .pure (.ok ())
      else Released sampleEnv sampleRegistry opts catalog plan ∅
        (execFailing (run sampleEnv sampleRegistry sampleArgs) ∅ []).2.2 := by
  have hresult : (execFailing (run sampleEnv sampleRegistry sampleArgs) ∅ []).2.1 = .ok () := by
    decide +kernel
  have hrun := runUnder_execFailing (run sampleEnv sampleRegistry sampleArgs) ∅ []
    (by decide +kernel)
  exact (imagelock_publishes_stable_digests hrun).1 hresult

end Sample

end GpuFractioning.Imagelock
