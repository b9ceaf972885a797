import GpuFractioning.Lib.Fallible
import GpuFractioning.Lib.KeyedList
import GpuFractioning.Lib.Unstructured
import Mathlib.Data.String.Basic

/-!
# The upgrade of the CRDs

`operator/internal/crdupgrade/crdupgrade.go` and `operator/charts/crds/embed.go`: the
embedded definitions are applied one after the other, and each is polled until the API
server serves its kind. The calls to the API server are numbered, and their answers are
input.
-/

namespace GpuFractioning.Operator.CRDUpgrade

open Fallible

section Source

def crdKind : String := "CustomResourceDefinition"

/-- The embedded files. A file is given by what its text decodes to, with the errors of reading
and of decoding it. -/
structure Manifests where
  /-- The names in the directory, with whether they are directories. -/
  readDir : Except String (List (String × Bool))
  readFile : String → Except String (Except String Json)

/-- `GetKind`. -/
def kind (obj : Json) : String := (obj.nestedString ["kind"]).getD ""

def loadManifest (manifests : Manifests) (file : String) : Except String Json := do
  let decoded ← (manifests.readFile file).mapError fun err =>
    "read embedded CRD " ++ file ++ ": " ++ err
  let obj ← decoded.mapError fun err => "parse embedded CRD " ++ file ++ ": " ++ err
  require (kind obj = crdKind)
    ("embedded manifest " ++ file ++ " is a " ++ kind obj ++ ", want " ++ crdKind)
  require (obj.name ≠ "") ("embedded CRD " ++ file ++ " has no metadata.name")
  pure obj

/-- The names of the files, sorted. -/
def manifestNames (entries : List (String × Bool)) : List String :=
  GoSort.slice (fun a b => decide (a < b)) ((entries.filter fun entry => !entry.2).map Prod.fst)

def load (manifests : Manifests) : Except String (List Json) := do
  let entries ← manifests.readDir.mapError fun err => "read embedded crds directory: " ++ err
  let objs ← (manifestNames entries).mapM (loadManifest manifests)
  require (!objs.isEmpty) "no CRD manifests embedded"
  pure objs

/-- The polls that fit before the timeout: one at once, and then one every second. -/
def maxPolls : ℕ := 121

/-- What the calls find. -/
structure UpgradeEnv where
  /-- The error of `Apply`. -/
  apply : ℕ → Option String
  /-- The object that `Get` returns. -/
  get : ℕ → Except String Json
  /-- The error of the context in the wait after a poll, if the context ends in it. -/
  ctxErr : ℕ → Option String
  /-- A field of an object under `%v`. -/
  formatAny : Option Json → String

/-- A call to the API server with its answer. -/
inductive Call where
  | apply (name : String) (err : Option String)
  | get (name : String) (answer : Except String Json)

def condition (obj : Json) (want : String) : Option Json :=
  ((obj.nestedSlice ["status", "conditions"]).getD []).find? fun cond =>
    (cond.field "type").bind Json.asString = some want

/-- The status of a condition is this text. -/
def hasStatus (obj : Json) (want status : String) : Bool :=
  ((condition obj want).bind fun cond => (cond.field "status").bind Json.asString) = some status

def namesRejected (obj : Json) : Bool := hasStatus obj "NamesAccepted" "False"

def isEstablished (obj : Json) : Bool := hasStatus obj "Established" "True"

variable (env : UpgradeEnv)

/-- The condition of the poll. -/
def checkEstablished (answer : Except String Json) : Except String Bool :=
  match answer with
  | .error err => .error err
  | .ok obj =>
    if namesRejected obj then
      .error ("names rejected: " ++
        env.formatAny ((condition obj "NamesAccepted").bind (Json.field "message")))
    else .ok (isEstablished obj)

/-- `PollUntilContextTimeout`, with the polls that are left, from the call with number `n`. -/
def poll (name : String) : ℕ → ℕ → List Call × Except String Unit
  | 0, _ => ([], .error "context deadline exceeded")
  | polls + 1, n =>
    match checkEstablished env (env.get n) with
    | .error err => ([.get name (env.get n)], .error err)
    | .ok true => ([.get name (env.get n)], .ok ())
    | .ok false =>
      match env.ctxErr n with
      | some err => ([.get name (env.get n)], .error err)
      | none =>
        let later := poll name polls (n + 1)
        (.get name (env.get n) :: later.1, later.2)

def waitEstablished (name : String) (n : ℕ) : List Call × Except String Unit :=
  let waited := poll env name maxPolls n
  (waited.1, waited.2.mapError fun err =>
    "wait for CRD " ++ name ++ " to be established: " ++ err)

/-- One pass of the loop of `applyObjects`. -/
def applyObject (name : String) (n : ℕ) : List Call × Except String Unit :=
  match env.apply n with
  | some err => ([.apply name (some err)], .error ("apply CRD " ++ name ++ ": " ++ err))
  | none =>
    let waited := waitEstablished env name (n + 1)
    (.apply name none :: waited.1, waited.2)

def applyObjects : List Json → ℕ → List Call × Except String Unit
  | [], _ => ([], .ok ())
  | obj :: objs, n =>
    let applied := applyObject env obj.name n
    match applied.2 with
    | .error err => (applied.1, .error err)
    | .ok () =>
      let later := applyObjects objs (n + applied.1.length)
      (applied.1 ++ later.1, later.2)

/-- The calls of `Run`, after the errors of `GetConfig` and `client.New`. -/
def run (getConfig newClient : Option String) (manifests : Manifests) :
    List Call × Except String Unit :=
  match getConfig, newClient with
  | some err, _ => ([], .error ("load kubeconfig: " ++ err))
  | none, some err => ([], .error ("build client: " ++ err))
  | none, none =>
    match load manifests with
    | .error err => ([], .error err)
    | .ok objs => applyObjects env objs 0

end Source

section Wait

variable {env : UpgradeEnv}

/-- The definition is served under names that were accepted. -/
def Served (answer : Except String Json) : Prop :=
  ∃ obj, answer = .ok obj ∧ isEstablished obj = true ∧ namesRejected obj = false

/-- The definition is there under names that were accepted, but not served yet. -/
def Unserved (answer : Except String Json) : Prop :=
  ∃ obj, answer = .ok obj ∧ isEstablished obj = false ∧ namesRejected obj = false

/-- The wait goes on after the call with this number. -/
def UpgradeEnv.Pending (env : UpgradeEnv) (n : ℕ) : Prop :=
  Unserved (env.get n) ∧ env.ctxErr n = none

/-- How a wait ends that has so many polls at most, the first of which is the call with number
`n`: after how many polls, and with which result. -/
inductive Waited (env : UpgradeEnv) (polls n : ℕ) : ℕ → Except String Unit → Prop
  | served {k} (hpending : ∀ i < k, env.Pending (n + i)) (hserved : Served (env.get (n + k))) :
      Waited env polls n (k + 1) (.ok ())
  | unread {k err} (hpending : ∀ i < k, env.Pending (n + i))
      (herr : env.get (n + k) = .error err) :
      Waited env polls n (k + 1) (.error err)
  | rejected {k obj} (hpending : ∀ i < k, env.Pending (n + i)) (hobj : env.get (n + k) = .ok obj)
      (hrejected : namesRejected obj = true) :
      Waited env polls n (k + 1) (.error ("names rejected: " ++
        env.formatAny ((condition obj "NamesAccepted").bind (Json.field "message"))))
  | cancelled {k err} (hpending : ∀ i < k, env.Pending (n + i))
      (hunserved : Unserved (env.get (n + k))) (hctx : env.ctxErr (n + k) = some err) :
      Waited env polls n (k + 1) (.error err)
  | timeout (hpending : ∀ i < polls, env.Pending (n + i)) :
      Waited env polls n polls (.error "context deadline exceeded")

/-- The polls from the call with number `n` on. -/
def pollCalls (env : UpgradeEnv) (name : String) (n k : ℕ) : List Call :=
  (List.range' n k).map fun i => .get name (env.get i)

theorem pollCalls_succ (env : UpgradeEnv) (name : String) (n k : ℕ) :
    pollCalls env name n (k + 1) = .get name (env.get n) :: pollCalls env name (n + 1) k := by
  rw [pollCalls, List.range'_succ, List.map_cons, pollCalls]

theorem pending_succ {n k : ℕ} (h : env.Pending n)
    (hpending : ∀ i < k, env.Pending (n + 1 + i)) : ∀ i < k + 1, env.Pending (n + i) := by
  intro i hi
  cases i with
  | zero => exact h
  | succ i =>
    rw [show n + (i + 1) = n + 1 + i by omega]
    exact hpending i (by omega)

theorem Waited.succ {polls n k : ℕ} {result : Except String Unit} (h : env.Pending n)
    (hwaited : Waited env polls (n + 1) k result) : Waited env (polls + 1) n (k + 1) result := by
  have hshift (j : ℕ) : n + 1 + j = n + (j + 1) := by omega
  cases hwaited with
  | served hpending hserved =>
    rw [hshift] at hserved
    exact .served (pending_succ h hpending) hserved
  | unread hpending herr =>
    rw [hshift] at herr
    exact .unread (pending_succ h hpending) herr
  | rejected hpending hobj hrejected =>
    rw [hshift] at hobj
    exact .rejected (pending_succ h hpending) hobj hrejected
  | cancelled hpending hunserved hctx =>
    rw [hshift] at hunserved hctx
    exact .cancelled (pending_succ h hpending) hunserved hctx
  | timeout hpending => exact .timeout (pending_succ h hpending)

theorem checkEstablished_cases (env : UpgradeEnv) (answer : Except String Json) :
    (∃ err, answer = .error err ∧ checkEstablished env answer = .error err) ∨
      (∃ obj, answer = .ok obj ∧ namesRejected obj = true ∧
        checkEstablished env answer = .error ("names rejected: " ++
          env.formatAny ((condition obj "NamesAccepted").bind (Json.field "message")))) ∨
      Served answer ∧ checkEstablished env answer = .ok true ∨
      Unserved answer ∧ checkEstablished env answer = .ok false := by
  cases answer with
  | error err => exact .inl ⟨err, rfl, rfl⟩
  | ok obj =>
    cases hrejected : namesRejected obj with
    | true => exact .inr (.inl ⟨obj, rfl, hrejected, by simp [checkEstablished, hrejected]⟩)
    | false =>
      cases hestablished : isEstablished obj with
      | true =>
        exact .inr (.inr (.inl ⟨⟨obj, rfl, hestablished, hrejected⟩,
          by simp [checkEstablished, hrejected, hestablished]⟩))
      | false =>
        exact .inr (.inr (.inr ⟨⟨obj, rfl, hestablished, hrejected⟩,
          by simp [checkEstablished, hrejected, hestablished]⟩))

theorem waited_poll (env : UpgradeEnv) (name : String) (polls n : ℕ) :
    ∃ k ≤ polls, (poll env name polls n).1 = pollCalls env name n k ∧
      Waited env polls n k (poll env name polls n).2 := by
  induction polls generalizing n with
  | zero => exact ⟨0, le_rfl, rfl, .timeout (by simp)⟩
  | succ polls ih =>
    have hone : [Call.get name (env.get n)] = pollCalls env name n 1 := rfl
    have hnone : ∀ i < 0, env.Pending (n + i) := by simp
    unfold poll
    obtain ⟨err, hget, hcheck⟩ | ⟨obj, hget, hrejected, hcheck⟩ | ⟨hserved, hcheck⟩ |
      ⟨hunserved, hcheck⟩ := checkEstablished_cases env (env.get n)
    · rw [hcheck]
      exact ⟨1, by omega, hone, .unread hnone hget⟩
    · rw [hcheck]
      exact ⟨1, by omega, hone, .rejected hnone hget hrejected⟩
    · rw [hcheck]
      exact ⟨1, by omega, hone, .served hnone hserved⟩
    · rw [hcheck]
      cases hctx : env.ctxErr n with
      | some err => exact ⟨1, by omega, hone, .cancelled hnone hunserved hctx⟩
      | none =>
        obtain ⟨k, hk, hcalls, hwaited⟩ := ih (n + 1)
        refine ⟨k + 1, by omega, ?_, hwaited.succ ⟨hunserved, hctx⟩⟩
        rw [pollCalls_succ, ← hcalls]

end Wait

section Runs

/-- The calls for a definition up to the first that shows it served. -/
inductive Established (env : UpgradeEnv) (name : String) (n : ℕ) : List Call → Prop
  | intro {k} (happly : env.apply n = none) (hk : k ≤ maxPolls)
      (hwaited : Waited env maxPolls (n + 1) k (.ok ())) :
      Established env name n (.apply name none :: pollCalls env name (n + 1) k)

/-- The calls for a definition that is given up, with the error of the upgrade. -/
inductive GivenUp (env : UpgradeEnv) (name : String) (n : ℕ) : List Call → String → Prop
  | refused {err} (happly : env.apply n = some err) :
      GivenUp env name n [.apply name (some err)] ("apply CRD " ++ name ++ ": " ++ err)
  | unserved {k err} (happly : env.apply n = none) (hk : k ≤ maxPolls)
      (hwaited : Waited env maxPolls (n + 1) k (.error err)) :
      GivenUp env name n (.apply name none :: pollCalls env name (n + 1) k)
        ("wait for CRD " ++ name ++ " to be established: " ++ err)

theorem applyObject_cases (env : UpgradeEnv) (name : String) (n : ℕ) :
    (applyObject env name n).2 = .ok () ∧ Established env name n (applyObject env name n).1 ∨
      ∃ err, (applyObject env name n).2 = .error err ∧
        GivenUp env name n (applyObject env name n).1 err := by
  unfold applyObject
  cases happly : env.apply n with
  | some err => exact .inr ⟨_, rfl, .refused happly⟩
  | none =>
    obtain ⟨k, hk, hcalls, hwaited⟩ := waited_poll env name maxPolls (n + 1)
    simp only [waitEstablished, hcalls]
    cases hresult : (poll env name maxPolls (n + 1)).2 with
    | error err =>
      rw [hresult] at hwaited
      exact .inr ⟨_, rfl, .unserved happly hk hwaited⟩
    | ok u =>
      rw [hresult] at hwaited
      exact .inl ⟨rfl, .intro happly hk hwaited⟩

/-- Definitions with the calls that were made for them, the first of which has the number `n`:
each is shown served before the calls for the next begin. -/
def ServedInTurn (env : UpgradeEnv) (n : ℕ) (served : List (Json × List Call)) : Prop :=
  ∀ before obj calls after, served = before ++ (obj, calls) :: after →
    Established env obj.name (n + (before.map Prod.snd).flatten.length) calls

theorem ServedInTurn.cons {env : UpgradeEnv} {n : ℕ} {obj : Json} {calls : List Call}
    {served : List (Json × List Call)} (hfirst : Established env obj.name n calls)
    (h : ServedInTurn env (n + calls.length) served) :
    ServedInTurn env n ((obj, calls) :: served) := by
  intro before obj' calls' after hsplit
  cases before with
  | nil =>
    cases hsplit
    exact hfirst
  | cons entry before =>
    obtain ⟨rfl, hrest⟩ := List.cons.inj hsplit
    have hlater := h before obj' calls' after hrest
    rw [List.map_cons, List.flatten_cons, List.length_append, ← Nat.add_assoc]
    exact hlater

/-- The definitions are applied in their order, each only after a poll has shown the one before
it served. All of them are served if there is no error, and otherwise the error is about the
first that is not, after which nothing is called. -/
inductive Upgraded (env : UpgradeEnv) (n : ℕ) (objs : List Json) :
    List Call → Except String Unit → Prop
  | complete (served : List (Json × List Call)) (hserved : ServedInTurn env n served)
      (hobjs : objs = served.map Prod.fst) :
      Upgraded env n objs (served.map Prod.snd).flatten (.ok ())
  | stopped (served : List (Json × List Call)) (obj : Json) (later : List Json)
      (calls : List Call) (err : String) (hserved : ServedInTurn env n served)
      (hobjs : objs = served.map Prod.fst ++ obj :: later)
      (hgivenUp : GivenUp env obj.name (n + (served.map Prod.snd).flatten.length) calls err) :
      Upgraded env n objs ((served.map Prod.snd).flatten ++ calls) (.error err)

theorem servedInTurn_nil (env : UpgradeEnv) (n : ℕ) : ServedInTurn env n [] := by
  intro before obj calls after hsplit
  simp at hsplit

theorem Upgraded.cons {env : UpgradeEnv} {n : ℕ} {obj : Json} {objs : List Json}
    {calls calls' : List Call} {result : Except String Unit}
    (hestablished : Established env obj.name n calls)
    (h : Upgraded env (n + calls.length) objs calls' result) :
    Upgraded env n (obj :: objs) (calls ++ calls') result := by
  cases h with
  | complete served hserved hobjs =>
    exact .complete ((obj, calls) :: served) (hserved.cons hestablished) (by rw [hobjs]; rfl)
  | stopped served other later last err hserved hobjs hgivenUp =>
    have hnumber : n + (((obj, calls) :: served).map Prod.snd).flatten.length =
        n + calls.length + (served.map Prod.snd).flatten.length := by
      rw [List.map_cons, List.flatten_cons, List.length_append, Nat.add_assoc]
    rw [← List.append_assoc]
    refine .stopped ((obj, calls) :: served) other later last err (hserved.cons hestablished)
      (by rw [hobjs]; rfl) ?_
    rw [hnumber]
    exact hgivenUp

theorem upgraded_applyObjects (env : UpgradeEnv) (objs : List Json) (n : ℕ) :
    Upgraded env n objs (applyObjects env objs n).1 (applyObjects env objs n).2 := by
  induction objs generalizing n with
  | nil => exact .complete [] (servedInTurn_nil env n) rfl
  | cons obj objs ih =>
    obtain ⟨hok, hestablished⟩ | ⟨err, herr, hgivenUp⟩ := applyObject_cases env obj.name n
    · simp only [applyObjects, hok]
      exact (ih _).cons hestablished
    · simp only [applyObjects, herr]
      exact .stopped [] obj objs _ err (servedInTurn_nil env n) rfl hgivenUp

/-- The definitions that are embedded, in the order of the names of their files. -/
structure Loaded (manifests : Manifests) (objs : List Json) : Prop where
  files : ∃ entries names, manifests.readDir = .ok entries ∧
    names.Perm ((entries.filter fun entry => !entry.2).map Prod.fst) ∧ names.Pairwise (· ≤ ·) ∧
    List.Forall₂ (fun file obj => manifests.readFile file = .ok (.ok obj)) names objs
  ne_nil : objs ≠ []
  definitions : ∀ obj ∈ objs, kind obj = crdKind ∧ obj.name ≠ ""

theorem loadManifest_eq_ok {manifests : Manifests} {file : String} {obj : Json}
    (h : loadManifest manifests file = .ok obj) :
    manifests.readFile file = .ok (.ok obj) ∧ kind obj = crdKind ∧ obj.name ≠ "" := by
  simp only [loadManifest, bind_eq_ok_iff, require_eq_ok_iff, pure_eq_ok_iff, mapError_eq_ok_iff,
    decide_eq_true_eq] at h
  obtain ⟨decoded, hread, obj', hdecoded, -, hkind, -, hname, rfl⟩ := h
  exact ⟨hdecoded ▸ hread, hkind, hname⟩

theorem loaded_of_load {manifests : Manifests} {objs : List Json} (h : load manifests = .ok objs) :
    Loaded manifests objs := by
  simp only [load, bind_eq_ok_iff, require_eq_ok_iff, pure_eq_ok_iff, mapError_eq_ok_iff] at h
  obtain ⟨entries, hentries, objs', hobjs, -, hne, rfl⟩ := h
  have hloaded := mapM_eq_ok_iff.mp hobjs
  have hsorted := GoSort.pairwise_slice_le id ((entries.filter fun entry => !entry.2).map Prod.fst)
  rw [List.map_id] at hsorted
  refine ⟨⟨entries, manifestNames entries, hentries, GoSort.perm_slice _ _, hsorted, ?_⟩,
    by simpa using hne, ?_⟩
  · exact hloaded.imp fun file obj hfile => (loadManifest_eq_ok hfile).1
  · intro obj hobj
    obtain ⟨file, -, hfile⟩ := exists_of_mem_right hloaded hobj
    exact (loadManifest_eq_ok hfile).2

/-- A run calls nothing if there is no configuration, no client or no definition to apply.
Otherwise, whatever the API server answers, it upgrades the embedded definitions one by one in
the order of their files. -/
theorem crds_are_served_one_by_one (env : UpgradeEnv) (getConfig newClient : Option String)
    (manifests : Manifests) :
    (∃ err, getConfig = some err ∧
      run env getConfig newClient manifests = ([], .error ("load kubeconfig: " ++ err))) ∨
    (∃ err, getConfig = none ∧ newClient = some err ∧
      run env getConfig newClient manifests = ([], .error ("build client: " ++ err))) ∨
    (∃ err, getConfig = none ∧ newClient = none ∧ load manifests = .error err ∧
      run env getConfig newClient manifests = ([], .error err)) ∨
    getConfig = none ∧ newClient = none ∧ ∃ objs, load manifests = .ok objs ∧
      Loaded manifests objs ∧ Upgraded env 0 objs (run env getConfig newClient manifests).1
        (run env getConfig newClient manifests).2 := by
  unfold run
  cases getConfig with
  | some err => exact .inl ⟨err, rfl, rfl⟩
  | none =>
    cases newClient with
    | some err => exact .inr (.inl ⟨err, rfl, rfl, rfl⟩)
    | none =>
      dsimp only
      cases hload : load manifests with
      | error err => exact .inr (.inr (.inl ⟨err, rfl, rfl, rfl, rfl⟩))
      | ok objs =>
        exact .inr (.inr (.inr ⟨rfl, rfl, objs, rfl, loaded_of_load hload,
          upgraded_applyObjects env objs 0⟩))

/-- A definition with the status of its condition `Established`. -/
def sampleDefinition (name established : String) : Json :=
  .object [("kind", .string crdKind), ("metadata", .object [("name", .string name)]),
    ("status", .object [("conditions", .array [.object
      [("type", .string "Established"), ("status", .string established)]])])]

def sampleManifests : Manifests where
  readDir := .ok [("b.yaml", false), ("a.yaml", false), ("old", true)]
  readFile file := .ok (.ok (sampleDefinition file "False"))

/-- The API server serves the first definition at the second poll, and the other at once. -/
def sampleEnv : UpgradeEnv where
  apply _ := none
  get n := .ok (sampleDefinition "" (if n = 1 then "False" else "True"))
  ctxErr _ := none
  formatAny _ := ""

example : (run sampleEnv none none sampleManifests).2 = .ok () ∧
    (run sampleEnv none none sampleManifests).1.length = 5 := by
  decide +kernel

end Runs

end GpuFractioning.Operator.CRDUpgrade
