import GpuFractioning.Fractiond.Enforcement
import GpuFractioning.Lib.GoDuration

/-!
# The connection that containers are stopped through

`fractiond/internal/audit/cri_stopper.go` and the loop of `remediate.go` over it. Every
audit that finds violators has a goroutine of its own, and all of them use one stopper.
The client is fetched under the lock of the stopper, the request is made without it.
Connections are numbered in the order they are dialled.
-/

namespace GpuFractioning.Fractiond

section Source

/-- Nanoseconds. -/
def defaultCRIStopTimeout : ℤ := 30 * 10 ^ 9

/-- Nanoseconds. -/
def criStopSlack : ℤ := 5 * 10 ^ 9

/-- The client and its connection are set and cleared together. -/
structure CRIStopper where
  endpoint : String
  timeout : ℤ
  conn : Option ℕ
  deriving DecidableEq, Repr

structure StopContainerRequest where
  containerID : String
  /-- Seconds. -/
  timeout : ℤ
  deriving DecidableEq, Repr

namespace CRIStopper

def newCRIStopper (endpoint : String) (timeout : ℤ) : CRIStopper :=
  ⟨endpoint, if timeout ≤ 0 then defaultCRIStopTimeout else timeout, none⟩

/-- `runtimeClient`, with what a dial returns. -/
def runtimeClient (s : CRIStopper) (dial : Except String ℕ) : CRIStopper × Except String ℕ :=
  match s.conn with
  | some conn => (s, .ok conn)
  | none =>
    match dial with
    | .error err => (s, .error err)
    | .ok conn => ({ s with conn := some conn }, .ok conn)

def request (s : CRIStopper) (containerID : String) : StopContainerRequest :=
  ⟨containerID, GoDuration.wholeSeconds s.timeout⟩

/-- The time the request is given, which is an `int64`. -/
def callTimeout (s : CRIStopper) : ℤ := (s.timeout + criStopSlack).bmod (2 ^ 64)

def connectError (s : CRIStopper) (err : String) : String :=
  "connect to CRI runtime at " ++ GoText.quote s.endpoint ++ ": " ++ err

def stopError (containerID err : String) : String :=
  "CRI StopContainer " ++ containerID ++ ": " ++ err

/-- `Close`, with the connection that it closes. -/
def close (s : CRIStopper) : CRIStopper × Option ℕ := ({ s with conn := none }, s.conn)

end CRIStopper

end Source

section Runs

/-- A goroutine of `Audit`: the violators it has still to stop, and the connection of the
request that is under way for the first of them. -/
structure Remediation where
  client : Option ℕ
  violators : List Violator

/-- What one call of `Stop` came to. -/
structure StopOutcome where
  containerID : String
  /-- The request and the connection it was made on. -/
  call : Option (ℕ × StopContainerRequest)
  err : Option String

structure Stopping where
  stopper : CRIStopper
  dialled : ℕ
  closed : List ℕ
  remediations : List Remediation
  /-- All containers that were to be stopped. -/
  audited : List String
  outcomes : List StopOutcome

namespace Stopping

def start (endpoint : String) (timeout : ℤ) : Stopping :=
  ⟨CRIStopper.newCRIStopper endpoint timeout, 0, [], [], [], []⟩

/-- A dial opens the next connection unless it fails. -/
def dial (s : Stopping) : Option String → Except String ℕ
  | none => .ok s.dialled
  | some err => .error err

/-- One step of a remediation. -/
inductive Work (s : Stopping) : Stopping → Prop
  | connected {before v rest after stopper conn} (dialErr : Option String)
      (hnext : s.remediations = before ++ ⟨none, v :: rest⟩ :: after)
      (hclient : s.stopper.runtimeClient (s.dial dialErr) = (stopper, .ok conn)) :
      Work s
        { s with
          stopper := stopper
          dialled := max s.dialled (conn + 1)
          remediations := before ++ ⟨some conn, v :: rest⟩ :: after }
  | unconnected {before v rest after stopper err} (dialErr : Option String)
      (hnext : s.remediations = before ++ ⟨none, v :: rest⟩ :: after)
      (hclient : s.stopper.runtimeClient (s.dial dialErr) = (stopper, .error err)) :
      Work s
        { s with
          stopper := stopper
          remediations := before ++ ⟨none, rest⟩ :: after
          outcomes := s.outcomes ++ [⟨v.containerID, none, some (s.stopper.connectError err)⟩] }
  -- on a connection that was closed meanwhile the request fails
  | answered {before v rest after conn} (err : Option String)
      (hnext : s.remediations = before ++ ⟨some conn, v :: rest⟩ :: after)
      (hclosed : conn ∈ s.closed → err.isSome) :
      Work s
        { s with
          remediations := before ++ ⟨none, rest⟩ :: after
          outcomes := s.outcomes ++ [⟨v.containerID, some (conn, s.stopper.request v.containerID),
            err.map (CRIStopper.stopError v.containerID)⟩] }

def close (s : Stopping) : Stopping :=
  { s with stopper := s.stopper.close.1, closed := s.closed ++ s.stopper.close.2.toList }

inductive Next (s : Stopping) : Stopping → Prop
  | work {s'} (h : Work s s') : Next s s'
  | audit (violators : List Violator) (hne : violators ≠ []) :
      Next s
        { s with
          remediations := s.remediations ++ [⟨none, violators⟩]
          audited := s.audited ++ violators.map Violator.containerID }
  | close : Next s s.close

inductive Reachable (endpoint : String) (timeout : ℤ) : Stopping → Prop
  | start : Reachable endpoint timeout (start endpoint timeout)
  | next {s s'} (h : Reachable endpoint timeout s) (hs : Next s s') :
      Reachable endpoint timeout s'

end Stopping

end Runs

section Invariant

variable {endpoint : String} {timeout : ℤ} {s s' : Stopping}

theorem CRIStopper.runtimeClient_cases {t t' : CRIStopper} {dial result : Except String ℕ}
    (h : t.runtimeClient dial = (t', result)) :
    (∃ conn, t.conn = some conn ∧ t' = t ∧ result = .ok conn) ∨
      (∃ conn, t.conn = none ∧ dial = .ok conn ∧ t' = { t with conn := some conn } ∧
        result = .ok conn) ∨
      ∃ err, t.conn = none ∧ dial = .error err ∧ t' = t ∧ result = .error err := by
  unfold runtimeClient at h
  cases hconn : t.conn with
  | some conn =>
    rw [hconn] at h
    cases h
    exact .inl ⟨conn, rfl, rfl, rfl⟩
  | none =>
    rw [hconn] at h
    cases dial with
    | ok conn =>
      cases h
      exact .inr (.inl ⟨conn, rfl, rfl, rfl, rfl⟩)
    | error err =>
      cases h
      exact .inr (.inr ⟨err, rfl, rfl, rfl, rfl⟩)

/-- What a stopper with these settings does about a container, over one of the connections
that were dialled. -/
inductive StopOutcome.Attempted (settings : CRIStopper) (dialled : ℕ) : StopOutcome → Prop
  | unconnected (containerID err : String) :
      Attempted settings dialled ⟨containerID, none, some (settings.connectError err)⟩
  | answered {conn : ℕ} (containerID : String) (err : Option String) (hconn : conn < dialled) :
      Attempted settings dialled ⟨containerID, some (conn, settings.request containerID),
        err.map (CRIStopper.stopError containerID)⟩

theorem StopOutcome.Attempted.mono {settings : CRIStopper} {dialled dialled' : ℕ}
    {o : StopOutcome} (h : o.Attempted settings dialled) (hle : dialled ≤ dialled') :
    o.Attempted settings dialled' := by
  cases h with
  | unconnected containerID err => exact .unconnected containerID err
  | answered containerID err hconn => exact .answered containerID err (hconn.trans_le hle)

namespace Stopping

/-- The containers that the remediations have still to stop. -/
def pending (s : Stopping) : List String :=
  s.remediations.flatMap fun r => r.violators.map Violator.containerID

structure Sound (endpoint : String) (timeout : ℤ) (s : Stopping) : Prop where
  settings : { s.stopper with conn := none } = CRIStopper.newCRIStopper endpoint timeout
  /-- The connection that is kept is the one that is open. -/
  kept : ∀ conn, s.stopper.conn = some conn ↔ conn < s.dialled ∧ conn ∉ s.closed
  closed_lt : ∀ conn ∈ s.closed, conn < s.dialled
  closed_nodup : s.closed.Nodup
  clients : ∀ r ∈ s.remediations, ∀ conn ∈ r.client, conn < s.dialled
  attempted : ∀ o ∈ s.outcomes,
    o.Attempted (CRIStopper.newCRIStopper endpoint timeout) s.dialled
  /-- Every container is either still to be stopped or has its outcome. -/
  accounted : (s.outcomes.map StopOutcome.containerID ++ s.pending).Perm s.audited

theorem sound_start (endpoint : String) (timeout : ℤ) :
    Sound endpoint timeout (start endpoint timeout) where
  settings := rfl
  kept := by simp [start, CRIStopper.newCRIStopper]
  closed_lt := by simp [start]
  closed_nodup := List.nodup_nil
  clients := by simp [start]
  attempted := by simp [start]
  accounted := .refl _

theorem Sound.fetch (h : Sound endpoint timeout s) {dialErr : Option String} {stopper : CRIStopper}
    {conn : ℕ} (hclient : s.stopper.runtimeClient (s.dial dialErr) = (stopper, .ok conn)) :
    { stopper with conn := none } = CRIStopper.newCRIStopper endpoint timeout ∧
      ∀ c, stopper.conn = some c ↔ c < max s.dialled (conn + 1) ∧ c ∉ s.closed := by
  rcases CRIStopper.runtimeClient_cases hclient with
    ⟨conn', hconn, rfl, hresult⟩ | ⟨conn', hconn, hdial, rfl, hresult⟩ | ⟨err, -, -, -, hresult⟩
  · cases hresult
    have hlt : conn < s.dialled := ((h.kept conn).mp hconn).1
    rw [max_eq_left (by omega)]
    exact ⟨h.settings, h.kept⟩
  · cases hresult
    have hnew : conn = s.dialled := by
      cases dialErr with
      | none => exact (Except.ok.inj hdial).symm
      | some err => cases hdial
    refine ⟨h.settings, fun c => ?_⟩
    rw [hnew, max_eq_right (by omega), Option.some.injEq]
    constructor
    · rintro rfl
      exact ⟨by omega, fun hclosed => absurd (h.closed_lt _ hclosed) (by omega)⟩
    · rintro ⟨hlt, hopen⟩
      by_contra hne
      have hkept := (h.kept c).mpr ⟨by omega, hopen⟩
      rw [hconn] at hkept
      cases hkept
  · cases hresult

theorem Sound.clients_replace (h : Sound endpoint timeout s) {before after : List Remediation}
    {r r' : Remediation} (hnext : s.remediations = before ++ r :: after) {dialled : ℕ}
    (hle : s.dialled ≤ dialled) (hr' : ∀ conn ∈ r'.client, conn < dialled) :
    ∀ q ∈ before ++ r' :: after, ∀ conn ∈ q.client, conn < dialled := by
  intro q hq conn hconn
  have hother (hmem : q ∈ s.remediations) : conn < dialled :=
    (h.clients q hmem conn hconn).trans_le hle
  rcases List.mem_append.mp hq with hq | hq
  · exact hother (by simp [hnext, hq])
  · rcases List.mem_cons.mp hq with rfl | hq
    · exact hr' conn hconn
    · exact hother (by simp [hnext, hq])

theorem Sound.accounted_of_next (h : Sound endpoint timeout s) {before after : List Remediation}
    {client : Option ℕ} {v : Violator} {rest : List Violator}
    (hnext : s.remediations = before ++ ⟨client, v :: rest⟩ :: after) {o : StopOutcome}
    (ho : o.containerID = v.containerID) :
    ((s.outcomes ++ [o]).map StopOutcome.containerID ++
      pending { s with remediations := before ++ ⟨none, rest⟩ :: after }).Perm s.audited := by
  refine List.Perm.trans ?_ h.accounted
  simp only [pending, hnext, List.map_append, List.map_cons, List.map_nil, List.flatMap_append,
    List.flatMap_cons, ho, List.append_assoc]
  refine List.Perm.append_left _ ?_
  simp only [List.cons_append, List.nil_append]
  exact List.perm_middle.symm

theorem Sound.work (h : Sound endpoint timeout s) (hs : Work s s') : Sound endpoint timeout s' := by
  cases hs with
  | @connected before v rest after stopper conn dialErr hnext hclient =>
    obtain ⟨hsettings, hkept⟩ := h.fetch hclient
    have hle : s.dialled ≤ max s.dialled (conn + 1) := le_max_left _ _
    refine
      { settings := hsettings
        kept := hkept
        closed_lt := fun c hc => (h.closed_lt c hc).trans_le hle
        closed_nodup := h.closed_nodup
        clients := h.clients_replace hnext hle ?_
        attempted := fun o ho => (h.attempted o ho).mono hle
        accounted := ?_ }
    · rintro c ⟨⟩
      exact Nat.lt_of_lt_of_le (Nat.lt_succ_self _) (le_max_right _ _)
    · simpa [pending, hnext] using h.accounted
  | @unconnected before v rest after stopper err dialErr hnext hclient =>
    obtain ⟨_, -, -, hresult⟩ | ⟨_, -, -, -, hresult⟩ | ⟨err', -, -, rfl, -⟩ :=
      CRIStopper.runtimeClient_cases hclient
    · cases hresult
    · cases hresult
    · have herr : s.stopper.connectError err =
          (CRIStopper.newCRIStopper endpoint timeout).connectError err := by
        rw [← h.settings]
        rfl
      refine
        { h with
          clients := h.clients_replace hnext le_rfl (by simp)
          attempted := ?_
          accounted := h.accounted_of_next hnext rfl }
      intro o ho
      rcases List.mem_append.mp ho with ho | ho
      · exact h.attempted o ho
      · rw [List.mem_singleton.mp ho, herr]
        exact .unconnected v.containerID err
  | @answered before v rest after conn err hnext hclosed =>
    have hrequest : s.stopper.request v.containerID =
        (CRIStopper.newCRIStopper endpoint timeout).request v.containerID := by
      rw [← h.settings]
      rfl
    refine
      { h with
        clients := h.clients_replace hnext le_rfl (by simp)
        attempted := ?_
        accounted := h.accounted_of_next hnext rfl }
    have hconn : conn < s.dialled := h.clients ⟨some conn, v :: rest⟩ (by simp [hnext]) conn rfl
    intro o ho
    rcases List.mem_append.mp ho with ho | ho
    · exact h.attempted o ho
    · rw [List.mem_singleton.mp ho, hrequest]
      exact .answered v.containerID err hconn

theorem Sound.close (h : Sound endpoint timeout s) : Sound endpoint timeout s.close := by
  have hclosed : s.close.closed = s.closed ++ s.stopper.conn.toList := rfl
  refine
    { h with
      kept := fun c => ?_
      closed_lt := fun c hc => ?_
      closed_nodup := ?_ }
  · refine iff_of_false (by rintro ⟨⟩) ?_
    rintro ⟨hlt, hopen⟩
    rw [hclosed, List.mem_append, not_or, Option.mem_toList] at hopen
    exact hopen.2 ((h.kept c).mpr ⟨hlt, hopen.1⟩)
  · rw [hclosed, List.mem_append, Option.mem_toList] at hc
    rcases hc with hc | hc
    · exact h.closed_lt c hc
    · exact ((h.kept c).mp hc).1
  · rw [hclosed, List.nodup_append]
    refine ⟨h.closed_nodup, by cases s.stopper.conn <;> simp, ?_⟩
    rintro c hc c' hc' rfl
    exact ((h.kept c).mp (Option.mem_toList.mp hc')).2 hc

theorem Sound.next (h : Sound endpoint timeout s) (hs : Next s s') : Sound endpoint timeout s' := by
  cases hs with
  | work hs => exact h.work hs
  | audit violators hne =>
    refine { h with clients := ?_, accounted := ?_ }
    · intro r hr c hc
      rcases List.mem_append.mp hr with hr | hr
      · exact h.clients r hr c hc
      · rw [List.mem_singleton.mp hr] at hc
        cases hc
    · simp only [pending, List.flatMap_append, List.flatMap_singleton, ← List.append_assoc]
      exact h.accounted.append_right _
  | close => exact h.close

theorem Reachable.sound (h : Reachable endpoint timeout s) : Sound endpoint timeout s := by
  induction h with
  | start => exact sound_start endpoint timeout
  | next _ hs ih => exact ih.next hs

end Stopping

end Invariant

section Progress

variable {endpoint : String} {timeout : ℤ} {s s' : Stopping}

/-- The steps a remediation has before it: two for each violator. -/
def Remediation.work (r : Remediation) : ℕ :=
  2 * r.violators.length - if r.client.isSome then 1 else 0

namespace Stopping

def work (s : Stopping) : ℕ := (s.remediations.map Remediation.work).sum

theorem work_lt_of_next {before after : List Remediation} {r r' : Remediation}
    (hnext : s.remediations = before ++ r :: after)
    (hnext' : s'.remediations = before ++ r' :: after) (h : r'.work < r.work) :
    s'.work < s.work := by
  simp only [work, hnext, hnext', List.map_append, List.map_cons, List.sum_append, List.sum_cons]
  omega

theorem Work.lt (hs : Work s s') : s'.work < s.work := by
  cases hs with
  | connected dialErr hnext hclient =>
    refine work_lt_of_next hnext rfl ?_
    simp [Remediation.work]
  | unconnected dialErr hnext hclient =>
    refine work_lt_of_next hnext rfl ?_
    simp [Remediation.work]
  | answered err hnext hclosed =>
    refine work_lt_of_next hnext rfl ?_
    simp [Remediation.work]
    omega

theorem exists_work (hpending : s.pending ≠ []) : ∃ s', Work s s' := by
  obtain ⟨containerID, hmem⟩ := List.exists_mem_of_ne_nil _ hpending
  obtain ⟨r, hr, hviolator⟩ := List.mem_flatMap.mp hmem
  obtain ⟨before, after, hsplit⟩ := List.append_of_mem hr
  obtain ⟨client, violators⟩ := r
  cases violators with
  | nil => cases hviolator
  | cons v rest =>
    cases client with
    | some conn => exact ⟨_, .answered (some "") hsplit fun _ => rfl⟩
    | none =>
      cases hclient : s.stopper.runtimeClient (s.dial none) with
      | mk stopper result =>
        cases result with
        | ok conn => exact ⟨_, .connected none hsplit hclient⟩
        | error err => exact ⟨_, .unconnected none hsplit hclient⟩

end Stopping

end Progress

section Refinement

variable [ParseQuantity] {s s' : Stopping} {n : Node}

/-- The node has the remediations of the stopper and the calls they have made. -/
structure Stopping.Tracks (s : Stopping) (n : Node) : Prop where
  remediations : n.remediations = s.remediations.map Remediation.violators
  stopCalls : n.stopCalls = s.outcomes.map StopOutcome.containerID

/-- What the stopper does is a step of the node or none that it sees. -/
theorem Stopping.Work.simulated (hs : Work s s') (h : s.Tracks n) (plugin : Plugin) :
    ∃ n', (n' = n ∨ Node.Next plugin n n') ∧ s'.Tracks n' := by
  cases hs with
  | connected dialErr hnext hclient =>
    refine ⟨n, .inl rfl, ?_, h.stopCalls⟩
    rw [h.remediations, hnext]
    simp
  | unconnected dialErr hnext hclient =>
    have hremediations := h.remediations
    rw [hnext, List.map_append, List.map_cons] at hremediations
    exact ⟨_, .inr (.stopFailed hremediations), by simp, by simp [h.stopCalls]⟩
  | answered err hnext hclosed =>
    have hremediations := h.remediations
    rw [hnext, List.map_append, List.map_cons] at hremediations
    cases err with
    | none => exact ⟨_, .inr (.stopped hremediations), by simp, by simp [h.stopCalls]⟩
    | some err => exact ⟨_, .inr (.stopFailed hremediations), by simp, by simp [h.stopCalls]⟩

end Refinement

section Results

variable {endpoint : String} {timeout : ℤ} {s : Stopping}

theorem CRIStopper.timeout_newCRIStopper_pos (endpoint : String) (timeout : ℤ) :
    0 < (newCRIStopper endpoint timeout).timeout := by
  simp only [newCRIStopper]
  split_ifs with h
  · decide
  · omega

/-- A request outlasts the grace of the container by the slack, up to the rounding of the
grace, unless the sum of the two wraps. -/
theorem CRIStopper.grace_le_callTimeout {t : CRIStopper} (hpos : 0 < t.timeout)
    (hfits : t.timeout + criStopSlack ≤ GoStrconv.maxInt64) (containerID : String) :
    (t.request containerID).timeout * 10 ^ 9 + criStopSlack ≤
      t.callTimeout + t.timeout / 2 ^ 51 := by
  have hslack : 0 ≤ criStopSlack := by decide
  have hgrace := GoDuration.wholeSeconds_mul_le (by omega : t.timeout ≤ _) hpos.le
  have hmod : t.callTimeout = t.timeout + criStopSlack := by
    unfold callTimeout
    unfold criStopSlack GoStrconv.maxInt64 at *
    exact Int.bmod_eq_of_le (by omega) (by omega)
  rw [hmod]
  change GoDuration.wholeSeconds t.timeout * 10 ^ 9 + criStopSlack ≤ _
  omega

namespace Stopping

theorem Sound.outlasts (h : Sound endpoint timeout s)
    (hfits : (CRIStopper.newCRIStopper endpoint timeout).timeout + criStopSlack ≤
      GoStrconv.maxInt64) :
    ∀ o ∈ s.outcomes, ∀ call ∈ o.call, call.2.timeout * 10 ^ 9 + criStopSlack ≤
      (CRIStopper.newCRIStopper endpoint timeout).callTimeout +
        (CRIStopper.newCRIStopper endpoint timeout).timeout / 2 ^ 51 := by
  intro o ho call hcall
  have hpos := CRIStopper.timeout_newCRIStopper_pos endpoint timeout
  cases h.attempted o ho with
  | unconnected containerID err => cases hcall
  | answered containerID err hconn =>
    cases hcall
    exact CRIStopper.grace_le_callTimeout hpos hfits containerID

theorem Sound.closed_close (h : Sound endpoint timeout s) :
    s.close.closed.Perm (List.range s.dialled) := by
  have hclose := h.close
  refine (List.perm_ext_iff_of_nodup hclose.closed_nodup List.nodup_range).mpr fun conn => ?_
  rw [List.mem_range]
  constructor
  · exact hclose.closed_lt conn
  · intro hlt
    by_contra hopen
    exact absurd ((hclose.kept conn).mpr ⟨hlt, hopen⟩) (by rintro ⟨⟩)

theorem Sound.dialled_le_one (h : Sound endpoint timeout s) (hclosed : s.closed = []) :
    s.dialled ≤ 1 := by
  by_contra htwo
  have hfirst := (h.kept 0).mpr ⟨by omega, by simp [hclosed]⟩
  have hsecond := (h.kept 1).mpr ⟨by omega, by simp [hclosed]⟩
  rw [hfirst] at hsecond
  cases hsecond

/-- However the audits, the dials, the answers of the runtime and the calls of `Close`
interleave: every container that is to be stopped is attended to once, with a request that
outlasts its grace or with the error of the dial, and what is left can go on to its end; at
most one connection is open, only one is dialled until the first `Close`, and a `Close`
leaves none. -/
theorem violators_share_one_connection (h : Reachable endpoint timeout s) :
    ((s.outcomes.map StopOutcome.containerID ++ s.pending).Perm s.audited ∧
      ∀ o ∈ s.outcomes, o.Attempted (CRIStopper.newCRIStopper endpoint timeout) s.dialled) ∧
    ((CRIStopper.newCRIStopper endpoint timeout).timeout + criStopSlack ≤ GoStrconv.maxInt64 →
      ∀ o ∈ s.outcomes, ∀ call ∈ o.call, call.2.timeout * 10 ^ 9 + criStopSlack ≤
        (CRIStopper.newCRIStopper endpoint timeout).callTimeout +
          (CRIStopper.newCRIStopper endpoint timeout).timeout / 2 ^ 51) ∧
    ((s.pending ≠ [] → ∃ s', Work s s') ∧ ∀ s', Work s s' → s'.work < s.work) ∧
    (∀ conn < s.dialled, conn ∉ s.closed → s.stopper.conn = some conn) ∧
    (s.closed = [] → s.dialled ≤ 1) ∧
    s.close.closed.Perm (List.range s.dialled) := by
  have hsound := h.sound
  exact ⟨⟨hsound.accounted, hsound.attempted⟩, hsound.outlasts,
    ⟨exists_work, fun s' hs => hs.lt⟩,
    fun conn hlt hopen => (hsound.kept conn).mpr ⟨hlt, hopen⟩, hsound.dialled_le_one,
    hsound.closed_close⟩

/-- A container without its memory limit. -/
def unlimited (containerID : String) : Violator :=
  ⟨containerID, "trainer", "job", "default", ["NVIDIA_GPU_MEMORY_LIMIT"]⟩

/-- The connection was closed under the request for one container, and another is now being
stopped over a new one. -/
def redialled : Stopping where
  stopper := ⟨"/run/containerd/containerd.sock", 30 * 10 ^ 9, some 1⟩
  dialled := 2
  closed := [0]
  remediations := [⟨none, []⟩, ⟨some 1, [unlimited "b"]⟩]
  audited := ["a", "b"]
  outcomes := [⟨"a", some (0, ⟨"a", GoDuration.wholeSeconds (30 * 10 ^ 9)⟩),
    some "CRI StopContainer a: closing"⟩]

theorem reachable_redialled : Reachable "/run/containerd/containerd.sock" 0 redialled := by
  have hstart : Reachable "/run/containerd/containerd.sock" 0 _ := .start
  have haudit := hstart.next (.audit [unlimited "a"] (by simp))
  have hdial := haudit.next (.work (@Work.connected _ [] _ [] [] _ _ none rfl rfl))
  have hclose := hdial.next .close
  have hfailed := hclose.next
    (.work (@Work.answered _ [] _ [] [] _ (some "closing") rfl fun _ => rfl))
  have haudit' := hfailed.next (.audit [unlimited "b"] (by simp))
  exact haudit'.next (.work (@Work.connected _ [⟨none, []⟩] _ [] [] _ _ none rfl rfl))

theorem violators_share_one_connection_redialled :
    redialled.pending = ["b"] ∧ GoDuration.wholeSeconds (30 * 10 ^ 9) = 30 ∧
      (∀ o ∈ redialled.outcomes, ∀ call ∈ o.call,
        call.2.timeout * 10 ^ 9 + criStopSlack ≤ 35 * 10 ^ 9) ∧
      redialled.close.closed.Perm [0, 1] := by
  have h := violators_share_one_connection reachable_redialled
  exact ⟨rfl, by decide +kernel, h.2.1 (by decide), h.2.2.2.2.2⟩

end Stopping

end Results

end GpuFractioning.Fractiond
