import GpuFractioning.Fractiond.Flags
import GpuFractioning.Lib.RetryLoop

/-!
# The supervising loops of mpsd and fractiond

`Supervisor.Run` of `mpsd/internal/supervisor.go` and `runWithRetry` of
`fractiond/cmd/main.go`. They are written apart and differ in what they start:
mpsd prepares its directories once, fractiond makes a new stub in every round.
-/

namespace GpuFractioning

open RetryLoop

/-- The text of an error under `%w`, which may be nil after a clean exit. -/
def wrappedError (err : Option String) : String := err.getD "%!w(<nil>)"

/-- The cap that both loops declare. -/
def maxBackoff : ℤ := 60 * 10 ^ 9

namespace Mpsd

/-- The settings of `SupervisorConfig` that the loop reads. -/
structure SupervisorConfig where
  backoff : ℤ
  maxRetries : ℤ
  stableThreshold : ℤ
  deriving DecidableEq, Repr

def SupervisorConfig.policy (cfg : SupervisorConfig) : Policy where
  maxRetries := cfg.maxRetries
  stableThreshold := cfg.stableThreshold
  initialBackoff := cfg.backoff
  maxBackoff := maxBackoff

def gaveUp (attempt : ℕ) (err : Option String) : String :=
  "MPS daemon failed after " ++ toString attempt ++ " attempts: " ++ wrappedError err

namespace Supervisor

def setup (cfg : SupervisorConfig) (setupErr : Option String) : Status :=
  match setupErr with
  | some err => .returned (.error ("setup: " ++ err))
  | none => start cfg.policy

def run (cfg : SupervisorConfig) (setupErr : Option String) (rounds : ℕ → Round) : ℕ → Status :=
  after (turn cfg.policy gaveUp) (setup cfg setupErr) rounds

/-- What `time.After` is called with, round by round. -/
def waits (cfg : SupervisorConfig) (setupErr : Option String) (rounds : ℕ → Round) :
    ℕ → Option ℤ :=
  waitAt (turn cfg.policy gaveUp) (setup cfg setupErr) rounds

end Supervisor

end Mpsd

namespace Fractiond

/-- A round of fractiond begins with a stub, which may fail. -/
structure NRIRound extends Round where
  stubErr : Option String
  deriving DecidableEq, Repr

def CliFlags.policy (flags : CliFlags) : Policy where
  maxRetries := flags.maxRetries
  stableThreshold := flags.stableThreshold
  initialBackoff := flags.retryInterval
  maxBackoff := maxBackoff

def gaveUp (attempt : ℕ) (err : Option String) : String :=
  "NRI connection failed after " ++ toString attempt ++ " attempts: " ++ wrappedError err

def connect (flags : CliFlags) (s : State) (r : NRIRound) : Option ℤ × Status :=
  match r.stubErr with
  | some err => (none, .returned (.error ("creating NRI stub: " ++ err)))
  | none => turn flags.policy gaveUp s r.toRound

def runWithRetry (flags : CliFlags) (rounds : ℕ → NRIRound) : ℕ → Status :=
  after (connect flags) (start flags.policy) rounds

/-- What `time.After` is called with, round by round. -/
def retryWaits (flags : CliFlags) (rounds : ℕ → NRIRound) : ℕ → Option ℤ :=
  waitAt (connect flags) (start flags.policy) rounds

theorem connect_of_stub {flags : CliFlags} {r : NRIRound} (h : r.stubErr = none) (s : State) :
    connect flags s r = turn flags.policy gaveUp s r.toRound := by
  simp only [connect, h]

theorem connect_cases (flags : CliFlags) (s : State) (r : NRIRound) :
    connect flags s r = turn flags.policy gaveUp s r.toRound ∨
      ∃ result, connect flags s r = (none, .returned result) := by
  cases h : r.stubErr with
  | none => exact .inl (connect_of_stub h s)
  | some err =>
    right
    refine ⟨.error ("creating NRI stub: " ++ err), ?_⟩
    simp only [connect, h]

theorem runWithRetry_eq {flags : CliFlags} {rounds : ℕ → NRIRound}
    (hstub : ∀ n, (rounds n).stubErr = none) :
    runWithRetry flags rounds =
      after (turn flags.policy gaveUp) (start flags.policy) fun n => (rounds n).toRound := by
  funext n
  exact after_congr (fun s n => connect_of_stub (hstub n) s) n

end Fractiond

section Laws

variable (cfg : Mpsd.SupervisorConfig) (flags : Fractiond.CliFlags) (rounds : ℕ → Round)
  (nriRounds : ℕ → Fractiond.NRIRound)

/-- Both loops give up after the first run that completes as many unstable runs in a row as
the budget allows, never without a budget, and return nil just if the context ends before. -/
theorem retry_budget (hstub : ∀ n, (nriRounds n).stubErr = none) :
    BudgetLaw cfg.policy rounds (Mpsd.Supervisor.run cfg none rounds) ∧
      BudgetLaw flags.policy (fun n => (nriRounds n).toRound)
        (Fractiond.runWithRetry flags nriRounds) := by
  constructor
  · exact budgetLaw_turn cfg.policy Mpsd.gaveUp rounds
  · rw [Fractiond.runWithRetry_eq hstub]
    exact budgetLaw_turn flags.policy Fractiond.gaveUp _

/-- A run of one second that ends with an error, and nothing that ends the context. -/
def crash : Round where
  uptime := 10 ^ 9
  err := some "exit status 1"
  cancelledInRun := false
  cancelledInWait := false
  timerWins := false

theorem retry_budget_five_crashes :
    let cfg : Mpsd.SupervisorConfig := ⟨5 * 10 ^ 9, 5, 300 * 10 ^ 9⟩
    let flags := { Fractiond.defaultFlags (fun _ => "") with maxRetries := 5 }
    Exhausted cfg.policy (fun _ => crash) 4 ∧
      BudgetLaw cfg.policy (fun _ => crash) (Mpsd.Supervisor.run cfg none fun _ => crash) ∧
      BudgetLaw flags.policy (fun _ => crash)
        (Fractiond.runWithRetry flags fun _ => ⟨crash, none⟩) :=
  ⟨⟨by decide, by decide⟩,
    retry_budget _ _ (fun _ => crash) (fun _ => ⟨crash, none⟩) fun _ => rfl⟩

theorem Mpsd.Supervisor.waits_eq_none_of_setup {err : String} (n : ℕ) :
    Mpsd.Supervisor.waits cfg (some err) rounds n = none :=
  waitAt_of_returned (rfl : after _ (Mpsd.Supervisor.setup cfg (some err)) rounds 0 = _)
    (Nat.zero_le n)

theorem maxBackoff_lt : maxBackoff < 2 ^ 62 := by norm_num [maxBackoff]

theorem maxBackoff_pos : 0 < maxBackoff := by norm_num [maxBackoff]

/-- The waits of mpsd. A failed setup leaves nothing to wait for. -/
theorem Mpsd.Supervisor.backoffLaw_iff (setupErr : Option String) (hd : 0 < cfg.backoff) :
    BackoffLaw cfg.policy rounds (Mpsd.Supervisor.waits cfg setupErr rounds) ↔
      cfg.backoff ≤ maxBackoff ∨ setupErr ≠ none ∨ (rounds 0).cancelledInRun = true ∨
        (cfg.maxRetries = 1 ∧ (rounds 0).uptime < cfg.stableThreshold) := by
  cases setupErr with
  | some err => simp [BackoffLaw, Mpsd.Supervisor.waits_eq_none_of_setup]
  | none =>
    rw [ne_self_iff_false, false_or]
    exact RetryLoop.backoffLaw_iff (p := cfg.policy) Mpsd.gaveUp hd maxBackoff_pos maxBackoff_lt
      rfl fun _ _ h => h

theorem Fractiond.backoffLaw_iff (hd : 0 < flags.retryInterval) :
    BackoffLaw flags.policy (fun n => (nriRounds n).toRound)
        (Fractiond.retryWaits flags nriRounds) ↔
      flags.retryInterval ≤ maxBackoff ∨ (nriRounds 0).stubErr ≠ none ∨
        (nriRounds 0).cancelledInRun = true ∨
        (flags.maxRetries = 1 ∧ (nriRounds 0).uptime < flags.stableThreshold) := by
  cases hstub : (nriRounds 0).stubErr with
  | some err =>
    have hone : after (Fractiond.connect flags) (start flags.policy) nriRounds 1 =
        .returned (.error ("creating NRI stub: " ++ err)) := by
      simp only [after, start, Fractiond.connect, hstub]
    have hnone : ∀ n, Fractiond.retryWaits flags nriRounds n = none := by
      intro n
      cases n with
      | zero => simp only [Fractiond.retryWaits, waitAt, after, start, Fractiond.connect, hstub]
      | succ n => exact waitAt_of_returned hone (by omega)
    simp [BackoffLaw, hnone]
  | none =>
    rw [ne_self_iff_false, false_or]
    apply RetryLoop.backoffLaw_iff (p := flags.policy) Fractiond.gaveUp hd maxBackoff_pos
      maxBackoff_lt
    · simp only [Fractiond.retryWaits, waitAt, after, start, Fractiond.connect_of_stub hstub]
    · intro n wait hwait
      exact waitAt_of_givesUp (fun s n => Fractiond.connect_cases flags s (nriRounds n)) hwait

/-- The waits of both loops keep the documented law exactly where the configured first wait
is within the cap, or the loop ends before it waits at all. -/
theorem backoff_law_iff (setupErr : Option String) (hcfg : 0 < cfg.backoff)
    (hflags : 0 < flags.retryInterval) :
    (BackoffLaw cfg.policy rounds (Mpsd.Supervisor.waits cfg setupErr rounds) ↔
      cfg.backoff ≤ maxBackoff ∨ setupErr ≠ none ∨ (rounds 0).cancelledInRun = true ∨
        (cfg.maxRetries = 1 ∧ (rounds 0).uptime < cfg.stableThreshold)) ∧
    (BackoffLaw flags.policy (fun n => (nriRounds n).toRound)
        (Fractiond.retryWaits flags nriRounds) ↔
      flags.retryInterval ≤ maxBackoff ∨ (nriRounds 0).stubErr ≠ none ∨
        (nriRounds 0).cancelledInRun = true ∨
        (flags.maxRetries = 1 ∧ (nriRounds 0).uptime < flags.stableThreshold)) :=
  ⟨Mpsd.Supervisor.backoffLaw_iff cfg rounds setupErr hcfg,
    Fractiond.backoffLaw_iff flags nriRounds hflags⟩

/-- With five seconds, as by default, the law holds whatever the runs do. -/
theorem backoff_law_five_seconds :
    let cfg : Mpsd.SupervisorConfig := ⟨5 * 10 ^ 9, 0, 300 * 10 ^ 9⟩
    let flags := Fractiond.defaultFlags fun _ => ""
    BackoffLaw cfg.policy (fun _ => crash) (Mpsd.Supervisor.waits cfg none fun _ => crash) ∧
      BackoffLaw flags.policy (fun _ => crash)
        (Fractiond.retryWaits flags fun _ => ⟨crash, none⟩) :=
  have h := backoff_law_iff ⟨5 * 10 ^ 9, 0, 300 * 10 ^ 9⟩ (Fractiond.defaultFlags fun _ => "")
    (fun _ => crash) (fun _ => ⟨crash, none⟩) none (by decide) (by decide +kernel)
  ⟨h.1.mpr (.inl (by decide)), h.2.mpr (.inl (by decide +kernel))⟩

/-- A first wait of two minutes is not capped, and one of `2 ^ 62` nanoseconds is followed by
a negative one. -/
theorem backoff_uncapped :
    let flags := { Fractiond.defaultFlags (fun _ => "") with retryInterval := 120 * 10 ^ 9 }
    let long := { flags with retryInterval := 2 ^ 62 }
    Mpsd.Supervisor.waits ⟨120 * 10 ^ 9, 0, 300 * 10 ^ 9⟩ none (fun _ => crash) 0 =
        some (120 * 10 ^ 9) ∧
      Mpsd.Supervisor.waits ⟨2 ^ 62, 0, 300 * 10 ^ 9⟩ none (fun _ => crash) 1 =
        some (-2 ^ 63) ∧
      Fractiond.retryWaits flags (fun _ => ⟨crash, none⟩) 0 = some (120 * 10 ^ 9) ∧
      Fractiond.retryWaits long (fun _ => ⟨crash, none⟩) 1 = some (-2 ^ 63) := by
  decide +kernel

end Laws

end GpuFractioning
