import Mathlib.Tactic

/-!
# Loops that run something again and again

A loop that starts a run, waits after it ends and starts the next one, with a
budget of unstable runs in a row and a wait that doubles up to a cap. What the
runs do and when the context ends is up to the environment, round by round.
Durations are `int64` nanoseconds.
-/

namespace RetryLoop

structure Policy where
  maxRetries : ℤ
  stableThreshold : ℤ
  initialBackoff : ℤ
  maxBackoff : ℤ
  deriving DecidableEq, Repr

/-- One round: a run, which may end cleanly, and the wait after it. -/
structure Round where
  uptime : ℤ
  err : Option String
  cancelledInRun : Bool
  cancelledInWait : Bool
  /-- The context ends in the wait, but the timer is served first. -/
  timerWins : Bool
  deriving DecidableEq, Repr

/-- The variables of the loop. The counter of attempts is only compared with a positive
budget, which it does not pass, so it is not bounded here. -/
structure State where
  attempt : ℕ
  backoff : ℤ
  ctxDone : Bool
  deriving DecidableEq, Repr

inductive Status where
  | looping (s : State)
  | returned (result : Except String Unit)

/-- `time.Duration` arithmetic wraps. -/
def doubled (d : ℤ) : ℤ := (d * 2).bmod (2 ^ 64)

/-- One round of the loop: the wait it begins, if any, and how it goes on. -/
def turn (p : Policy) (gaveUp : ℕ → Option String → String) (s : State) (r : Round) :
    Option ℤ × Status :=
  let attempt := s.attempt + 1
  if s.ctxDone ∨ r.cancelledInRun then (none, .returned (.ok ()))
  else
    let attempt := if r.uptime ≥ p.stableThreshold then 0 else attempt
    let backoff := if r.uptime ≥ p.stableThreshold then p.initialBackoff else s.backoff
    if p.maxRetries > 0 ∧ (attempt : ℤ) ≥ p.maxRetries then
      (none, .returned (.error (gaveUp attempt r.err)))
    -- With the context ended and the timer fired, `select` may serve either.
    else if r.cancelledInWait ∧ ¬r.timerWins then (some backoff, .returned (.ok ()))
    else (some backoff,
      .looping ⟨attempt, min (doubled backoff) p.maxBackoff, r.cancelledInWait⟩)

def start (p : Policy) : Status := .looping ⟨0, p.initialBackoff, false⟩

section Runs

variable {ρ : Type} (step : State → ρ → Option ℤ × Status) (init : Status) (rounds : ℕ → ρ)

/-- The loop after the first rounds. -/
def after : ℕ → Status
  | 0 => init
  | n + 1 =>
    match after n with
    | .looping s => (step s (rounds n)).2
    | .returned result => .returned result

/-- The wait that is begun in a round. -/
def waitAt (n : ℕ) : Option ℤ :=
  match after step init rounds n with
  | .looping s => (step s (rounds n)).1
  | .returned _ => none

/-- The run of a loop comes to its end in the round. -/
def ReturnsAt (run : ℕ → Status) (n : ℕ) (result : Except String Unit) : Prop :=
  (∃ s, run n = .looping s) ∧ run (n + 1) = .returned result

variable {step init rounds}

theorem after_succ_of_looping {n : ℕ} {s : State} (h : after step init rounds n = .looping s) :
    after step init rounds (n + 1) = (step s (rounds n)).2 := by
  simp only [after, h]

theorem waitAt_of_looping {n : ℕ} {s : State} (h : after step init rounds n = .looping s) :
    waitAt step init rounds n = (step s (rounds n)).1 := by
  simp only [waitAt, h]

theorem looping_of_looping_succ {n : ℕ} {s' : State}
    (h : after step init rounds (n + 1) = .looping s') :
    ∃ s, after step init rounds n = .looping s ∧ (step s (rounds n)).2 = .looping s' := by
  cases hn : after step init rounds n with
  | looping s =>
    rw [after_succ_of_looping hn] at h
    exact ⟨s, rfl, h⟩
  | returned result => simp [after, hn] at h

variable (step rounds) in
theorem looping_or_returned {s₀ : State} (hinit : init = .looping s₀) (n : ℕ) :
    (∃ s, after step init rounds n = .looping s) ∨
      ∃ k < n, ∃ result, ReturnsAt (after step init rounds) k result := by
  induction n with
  | zero => exact .inl ⟨s₀, hinit⟩
  | succ n ih =>
    rcases ih with ⟨s, hs⟩ | ⟨k, hk, result, hret⟩
    · cases hnext : after step init rounds (n + 1) with
      | looping s' => exact .inl ⟨s', rfl⟩
      | returned result => exact .inr ⟨n, by omega, result, ⟨s, hs⟩, hnext⟩
    · exact .inr ⟨k, by omega, result, hret⟩

theorem waitAt_of_returned {k n : ℕ} {result : Except String Unit}
    (h : after step init rounds k = .returned result) (hkn : k ≤ n) :
    waitAt step init rounds n = none := by
  have hn : after step init rounds n = .returned result := by
    induction n, hkn using Nat.le_induction with
    | base => exact h
    | succ n _ ih => simp only [after, ih]
  simp only [waitAt, hn]

theorem after_congr {ρ' : Type} {step' : State → ρ' → Option ℤ × Status} {rounds' : ℕ → ρ'}
    (h : ∀ s n, step s (rounds n) = step' s (rounds' n)) (n : ℕ) :
    after step init rounds n = after step' init rounds' n := by
  induction n with
  | zero => rfl
  | succ n ih => simp only [after, ih, h]

theorem waitAt_of_givesUp {ρ' : Type} {step' : State → ρ' → Option ℤ × Status} {rounds' : ℕ → ρ'}
    (h : ∀ s n, step s (rounds n) = step' s (rounds' n) ∨
      ∃ result, step s (rounds n) = (none, .returned result)) {n : ℕ} {wait : ℤ}
    (hwait : waitAt step init rounds n = some wait) :
    waitAt step' init rounds' n = some wait := by
  have hsame : ∀ n s, after step init rounds n = .looping s →
      after step' init rounds' n = .looping s := by
    intro n
    induction n with
    | zero => intro s hs; exact hs
    | succ n ih =>
      intro s hs
      obtain ⟨t, ht, hnext⟩ := looping_of_looping_succ hs
      rw [after_succ_of_looping (ih t ht)]
      rcases h t n with heq | ⟨result, heq⟩
      · rw [← heq, hnext]
      · simp [heq] at hnext
  cases hn : after step init rounds n with
  | returned result => simp [waitAt_of_returned hn le_rfl] at hwait
  | looping s =>
    rw [waitAt_of_looping hn] at hwait
    rw [waitAt_of_looping (hsame n s hn)]
    rcases h s n with heq | ⟨result, heq⟩
    · rw [← heq, hwait]
    · simp [heq] at hwait

end Runs

section Laws

variable (p : Policy) (rounds : ℕ → Round)

abbrev Stable (n : ℕ) : Prop := p.stableThreshold ≤ (rounds n).uptime

/-- How many of the first `n` runs, counted back from the last of them, were unstable in a row. -/
def streak : ℕ → ℕ
  | 0 => 0
  | n + 1 => if Stable p rounds n then 0 else streak n + 1

/-- After the run, the unstable runs in a row are as many as the budget. -/
def Exhausted (n : ℕ) : Prop :=
  0 < p.maxRetries ∧ (streak p rounds (n + 1) : ℤ) = p.maxRetries

/-- How many waits came before a round, since the start or the last stable run before it. -/
def waitsBefore : ℕ → ℕ
  | 0 => 0
  | n + 1 => (if Stable p rounds n then 0 else waitsBefore n) + 1

/-- The number, from 0, of the wait of a round since the start or the last stable run. -/
def waitIndex (n : ℕ) : ℕ := if Stable p rounds n then 0 else waitsBefore p rounds n

/-- When a loop returns: with an error after the first run that exhausts the budget, unless
the context has ended by then, and without one if the context ends before that. -/
structure BudgetLaw (run : ℕ → Status) : Prop where
  error_iff : ∀ n, (∃ message, ReturnsAt run n (.error message)) ↔
    Exhausted p rounds n ∧ (∀ j < n, ¬Exhausted p rounds j) ∧
      (∀ j ≤ n, (rounds j).cancelledInRun = false) ∧ ∀ j < n, (rounds j).cancelledInWait = false
  nil_iff : (∃ n, ReturnsAt run n (.ok ())) ↔
    ∃ n, ((rounds n).cancelledInRun = true ∧ ∀ j < n, ¬Exhausted p rounds j) ∨
      ((rounds n).cancelledInWait = true ∧ ∀ j ≤ n, ¬Exhausted p rounds j)
  never_returns : p.maxRetries ≤ 0 →
    (∀ n, (rounds n).cancelledInRun = false ∧ (rounds n).cancelledInWait = false) →
      ∀ n result, ¬ReturnsAt run n result

/-- Every wait is positive, within the cap, and doubles from the initial one up to the cap. -/
def BackoffLaw (waits : ℕ → Option ℤ) : Prop :=
  ∀ n wait, waits n = some wait →
    0 < wait ∧ wait ≤ p.maxBackoff ∧
      wait = min (p.initialBackoff * 2 ^ waitIndex p rounds n) p.maxBackoff

end Laws

section Turns

variable {p : Policy} {gaveUp : ℕ → Option String → String} {rounds : ℕ → Round} {n : ℕ}
  {s s' : State}

/-- What is known of a loop that is still looping after the first `n` rounds. -/
structure Going (p : Policy) (rounds : ℕ → Round) (n : ℕ) (s : State) : Prop where
  attempt : s.attempt = streak p rounds n
  within_budget : 0 < p.maxRetries → (s.attempt : ℤ) < p.maxRetries
  not_exhausted : ∀ j < n, ¬Exhausted p rounds j
  runs : ∀ j < n, (rounds j).cancelledInRun = false
  waits : s.ctxDone = false → ∀ j < n, (rounds j).cancelledInWait = false
  done : s.ctxDone = true → ∃ j, n = j + 1 ∧ (rounds j).cancelledInWait = true ∧
    ∀ i < j, (rounds i).cancelledInWait = false

theorem Going.start : Going p rounds 0 ⟨0, p.initialBackoff, false⟩ where
  attempt := rfl
  within_budget := fun h => h
  not_exhausted := by simp
  runs := by simp
  waits := by simp
  done := by simp

/-- The counter after a run is the number of unstable runs in a row. -/
theorem Going.counted (h : Going p rounds n s) :
    (if (rounds n).uptime ≥ p.stableThreshold then 0 else s.attempt + 1) =
      streak p rounds (n + 1) := by
  simp only [streak, Stable, h.attempt, ge_iff_le]

/-- The check of the source, with `≥`, finds the run at which the budget is met exactly. -/
theorem Going.spent_iff (h : Going p rounds n s) :
    (p.maxRetries > 0 ∧ (streak p rounds (n + 1) : ℤ) ≥ p.maxRetries) ↔ Exhausted p rounds n := by
  have hle : 0 < p.maxRetries → (streak p rounds (n + 1) : ℤ) ≤ p.maxRetries := by
    intro hpos
    have hlt := h.within_budget hpos
    rw [h.attempt] at hlt
    simp only [streak]
    split <;> omega
  constructor
  · rintro ⟨hpos, hge⟩
    exact ⟨hpos, le_antisymm (hle hpos) hge⟩
  · rintro ⟨hpos, heq⟩
    exact ⟨hpos, heq.ge⟩

theorem Going.turn_eq (h : Going p rounds n s) [Decidable (Exhausted p rounds n)] :
    turn p gaveUp s (rounds n) =
      if s.ctxDone ∨ (rounds n).cancelledInRun then (none, .returned (.ok ()))
      else if Exhausted p rounds n then
        (none, .returned (.error (gaveUp (streak p rounds (n + 1)) (rounds n).err)))
      else
        let backoff := if Stable p rounds n then p.initialBackoff else s.backoff
        if (rounds n).cancelledInWait ∧ ¬(rounds n).timerWins then
          (some backoff, .returned (.ok ()))
        else (some backoff, .looping ⟨streak p rounds (n + 1),
          min (doubled backoff) p.maxBackoff, (rounds n).cancelledInWait⟩) := by
  simp only [turn, h.counted, h.spent_iff, Stable, ge_iff_le]

theorem Going.step (h : Going p rounds n s)
    (hturn : (turn p gaveUp s (rounds n)).2 = .looping s') : Going p rounds (n + 1) s' := by
  classical
  rw [h.turn_eq] at hturn
  split_ifs at hturn with hdone hspent hstable hwait hwait
  all_goals
    simp only [not_or, Bool.not_eq_true] at hdone
    cases hturn
  all_goals
    refine ⟨rfl, fun hpos => ?_, fun j hj => ?_, fun j hj => ?_, fun hctx j hj => ?_,
      fun hctx => ⟨n, rfl, hctx, h.waits hdone.1⟩⟩
    · by_contra hge
      exact hspent (h.spent_iff.mp ⟨hpos, not_lt.mp hge⟩)
    · rcases Nat.lt_succ_iff_lt_or_eq.mp hj with hlt | rfl
      · exact h.not_exhausted j hlt
      · exact hspent
    · rcases Nat.lt_succ_iff_lt_or_eq.mp hj with hlt | rfl
      · exact h.runs j hlt
      · exact hdone.2
    · rcases Nat.lt_succ_iff_lt_or_eq.mp hj with hlt | rfl
      · exact h.waits hdone.1 j hlt
      · exact hctx

theorem going_of_looping (h : after (turn p gaveUp) (start p) rounds n = .looping s) :
    Going p rounds n s := by
  induction n generalizing s with
  | zero =>
    cases h
    exact .start
  | succ n ih =>
    obtain ⟨t, ht, hturn⟩ := looping_of_looping_succ h
    exact (ih ht).step hturn

variable (gaveUp) in
theorem looping_of_quiet (hspent : ∀ j < n, ¬Exhausted p rounds j)
    (hruns : ∀ j < n, (rounds j).cancelledInRun = false)
    (hwaits : ∀ j < n, (rounds j).cancelledInWait = false) :
    ∃ s, after (turn p gaveUp) (start p) rounds n = .looping s ∧ s.ctxDone = false := by
  classical
  induction n with
  | zero => exact ⟨_, rfl, rfl⟩
  | succ n ih =>
    obtain ⟨s, hs, hdone⟩ := ih (fun j hj => hspent j (by omega)) (fun j hj => hruns j (by omega))
      (fun j hj => hwaits j (by omega))
    rw [after_succ_of_looping hs, (going_of_looping hs).turn_eq]
    simp [hdone, hspent n (by omega), hruns n (by omega), hwaits n (by omega)]

theorem going_of_returnsAt {result : Except String Unit}
    (h : ReturnsAt (after (turn p gaveUp) (start p) rounds) n result) :
    ∃ s, Going p rounds n s ∧ (turn p gaveUp s (rounds n)).2 = .returned result := by
  obtain ⟨⟨s, hs⟩, hret⟩ := h
  rw [after_succ_of_looping hs] at hret
  exact ⟨s, going_of_looping hs, hret⟩

theorem exhausted_of_returns_error {message : String}
    (h : ReturnsAt (after (turn p gaveUp) (start p) rounds) n (.error message)) :
    Exhausted p rounds n ∧ (∀ j < n, ¬Exhausted p rounds j) ∧
      (∀ j ≤ n, (rounds j).cancelledInRun = false) ∧
        ∀ j < n, (rounds j).cancelledInWait = false := by
  classical
  obtain ⟨s, hgoing, hret⟩ := going_of_returnsAt h
  rw [hgoing.turn_eq] at hret
  split_ifs at hret with hdone hspent hstable hwait hwait
  all_goals cases hret
  simp only [not_or, Bool.not_eq_true] at hdone
  refine ⟨hspent, hgoing.not_exhausted, fun j hj => ?_, hgoing.waits hdone.1⟩
  rcases Nat.lt_or_eq_of_le hj with hlt | rfl
  · exact hgoing.runs j hlt
  · exact hdone.2

theorem cancelled_of_returns_ok
    (h : ReturnsAt (after (turn p gaveUp) (start p) rounds) n (.ok ())) :
    ∃ k, ((rounds k).cancelledInRun = true ∧ ∀ j < k, ¬Exhausted p rounds j) ∨
      ((rounds k).cancelledInWait = true ∧ ∀ j ≤ k, ¬Exhausted p rounds j) := by
  classical
  obtain ⟨s, hgoing, hret⟩ := going_of_returnsAt h
  rw [hgoing.turn_eq] at hret
  split_ifs at hret with hdone hspent hstable hwait hwait
  · rcases hdone with hctx | hrun
    -- The context ended in the wait before, and the timer was served first.
    · obtain ⟨k, rfl, hk, -⟩ := hgoing.done hctx
      exact ⟨k, .inr ⟨hk, fun j hj => hgoing.not_exhausted j (by omega)⟩⟩
    · exact ⟨n, .inl ⟨hrun, hgoing.not_exhausted⟩⟩
  all_goals
    cases hret
  all_goals
    refine ⟨n, .inr ⟨hwait.1, fun j hj => ?_⟩⟩
    rcases Nat.lt_or_eq_of_le hj with hlt | rfl
    · exact hgoing.not_exhausted j hlt
    · exact hspent

theorem returns_ok_of_cancelled {k : ℕ}
    (h : ((rounds k).cancelledInRun = true ∧ ∀ j < k, ¬Exhausted p rounds j) ∨
      ((rounds k).cancelledInWait = true ∧ ∀ j ≤ k, ¬Exhausted p rounds j)) :
    ∃ n, ReturnsAt (after (turn p gaveUp) (start p) rounds) n (.ok ()) := by
  rcases looping_or_returned (turn p gaveUp) rounds (rfl : start p = _) (k + 2) with
    ⟨s, hs⟩ | ⟨m, hm, result, hret⟩
  · have hgoing := going_of_looping hs
    rcases h with ⟨hrun, -⟩ | ⟨hwait, -⟩
    · simp [hgoing.runs k (by omega)] at hrun
    · cases hctx : s.ctxDone with
      | false => simp [hgoing.waits hctx k (by omega)] at hwait
      | true =>
        obtain ⟨j, hj, -, hbefore⟩ := hgoing.done hctx
        simp [hbefore k (by omega)] at hwait
  · cases result with
    | ok => exact ⟨m, hret⟩
    | error message =>
      obtain ⟨hspent, -, hruns, hwaits⟩ := exhausted_of_returns_error hret
      rcases h with ⟨hrun, hbudget⟩ | ⟨hwait, hbudget⟩
      · have hkm : m < k := by
          by_contra hle
          simp [hruns k (by omega)] at hrun
        exact absurd hspent (hbudget m hkm)
      · have hkm : m ≤ k := by
          by_contra hlt
          simp [hwaits k (by omega)] at hwait
        exact absurd hspent (hbudget m hkm)

theorem returns_error_of_exhausted (hspent : Exhausted p rounds n)
    (hbefore : ∀ j < n, ¬Exhausted p rounds j)
    (hruns : ∀ j ≤ n, (rounds j).cancelledInRun = false)
    (hwaits : ∀ j < n, (rounds j).cancelledInWait = false) :
    ∃ message, ReturnsAt (after (turn p gaveUp) (start p) rounds) n (.error message) := by
  classical
  obtain ⟨s, hs, hdone⟩ := looping_of_quiet gaveUp hbefore
    (fun j hj => hruns j (by omega)) hwaits
  refine ⟨gaveUp (streak p rounds (n + 1)) (rounds n).err, ⟨s, hs⟩, ?_⟩
  rw [after_succ_of_looping hs, (going_of_looping hs).turn_eq]
  simp [hdone, hruns n le_rfl, hspent]

variable (p gaveUp rounds) in
theorem budgetLaw_turn : BudgetLaw p rounds (after (turn p gaveUp) (start p) rounds) where
  error_iff n := by
    constructor
    · rintro ⟨message, hret⟩
      exact exhausted_of_returns_error hret
    · rintro ⟨hspent, hbefore, hruns, hwaits⟩
      exact returns_error_of_exhausted hspent hbefore hruns hwaits
  nil_iff := by
    constructor
    · rintro ⟨n, hret⟩
      exact cancelled_of_returns_ok hret
    · rintro ⟨k, hk⟩
      exact returns_ok_of_cancelled hk
  never_returns hmax hquiet n result hret := by
    cases result with
    | error message =>
      have hpos := (exhausted_of_returns_error hret).1.1
      omega
    | ok =>
      obtain ⟨k, hk⟩ := cancelled_of_returns_ok hret
      simp [hquiet k] at hk

end Turns

section Waits

variable {p : Policy} {gaveUp : ℕ → Option String → String} {rounds : ℕ → Round} {n : ℕ}
  {s : State}

theorem doubled_eq {d : ℤ} (hd : 0 < d) (hlt : d < 2 ^ 62) : doubled d = d * 2 := by
  apply Int.bmod_eq_of_le <;> norm_num <;> omega

/-- Below the cap, doubling and capping the wait is doubling under the cap. -/
theorem min_doubled (hd : 0 < p.initialBackoff) (hcap : 0 < p.maxBackoff)
    (hlt : p.maxBackoff < 2 ^ 62) (k : ℕ) :
    min (doubled (min (p.initialBackoff * 2 ^ k) p.maxBackoff)) p.maxBackoff =
      min (p.initialBackoff * 2 ^ (k + 1)) p.maxBackoff := by
  have hpos : 0 < p.initialBackoff * 2 ^ k := by positivity
  have hlt' := lt_of_le_of_lt (min_le_right (p.initialBackoff * 2 ^ k) p.maxBackoff) hlt
  rw [doubled_eq (lt_min hpos hcap) hlt', pow_succ, ← mul_assoc]
  omega

theorem backoff_of_looping (hd : 0 < p.initialBackoff) (hle : p.initialBackoff ≤ p.maxBackoff)
    (hlt : p.maxBackoff < 2 ^ 62)
    (h : after (turn p gaveUp) (start p) rounds n = .looping s) :
    s.backoff = min (p.initialBackoff * 2 ^ waitsBefore p rounds n) p.maxBackoff := by
  classical
  induction n generalizing s with
  | zero =>
    cases h
    simp [waitsBefore, hle]
  | succ n ih =>
    obtain ⟨t, ht, hturn⟩ := looping_of_looping_succ h
    rw [(going_of_looping ht).turn_eq] at hturn
    have hfirst := min_doubled hd (hd.trans_le hle) hlt 0
    split_ifs at hturn with hdone hspent hstable hwait hwait
    all_goals cases hturn
    · simpa [waitsBefore, hstable, hle] using hfirst
    · simpa [waitsBefore, hstable, ih ht] using min_doubled hd (hd.trans_le hle) hlt _

theorem wait_eq_of_le (hd : 0 < p.initialBackoff) (hle : p.initialBackoff ≤ p.maxBackoff)
    (hlt : p.maxBackoff < 2 ^ 62) {wait : ℤ}
    (h : waitAt (turn p gaveUp) (start p) rounds n = some wait) :
    wait = min (p.initialBackoff * 2 ^ waitIndex p rounds n) p.maxBackoff := by
  classical
  cases hn : after (turn p gaveUp) (start p) rounds n with
  | returned result => simp [waitAt_of_returned hn le_rfl] at h
  | looping s =>
    have hbackoff := backoff_of_looping hd hle hlt hn
    rw [waitAt_of_looping hn, (going_of_looping hn).turn_eq] at h
    split_ifs at h with hdone hspent hstable hwait hwait
    all_goals cases h
    · simp [waitIndex, hstable, hle]
    · simp [waitIndex, hstable, hle]
    · simpa [waitIndex, hstable] using hbackoff
    · simpa [waitIndex, hstable] using hbackoff

theorem exhausted_zero_iff :
    Exhausted p rounds 0 ↔ p.maxRetries = 1 ∧ (rounds 0).uptime < p.stableThreshold := by
  simp only [Exhausted, streak]
  split <;> omega

variable (gaveUp) in
theorem waitAt_zero (hrun : (rounds 0).cancelledInRun = false) (hspent : ¬Exhausted p rounds 0) :
    waitAt (turn p gaveUp) (start p) rounds 0 = some p.initialBackoff := by
  classical
  rw [waitAt_of_looping (rfl : after (turn p gaveUp) (start p) rounds 0 = _), Going.start.turn_eq]
  simp only [hrun, hspent, ite_self, or_self, Bool.false_eq_true, if_false]
  split_ifs <;> rfl

variable (gaveUp) in
theorem waitAt_of_first_run (h : (rounds 0).cancelledInRun = true ∨ Exhausted p rounds 0) :
    waitAt (turn p gaveUp) (start p) rounds n = none := by
  classical
  have hzero : after (turn p gaveUp) (start p) rounds 0 = .looping ⟨0, p.initialBackoff, false⟩ :=
    rfl
  obtain ⟨result, hturn⟩ : ∃ result,
      turn p gaveUp ⟨0, p.initialBackoff, false⟩ (rounds 0) = (none, .returned result) := by
    rw [Going.start.turn_eq]
    split_ifs with hdone hspent hstable hwait hwait
    · exact ⟨_, rfl⟩
    · exact ⟨_, rfl⟩
    all_goals simp_all
  cases n with
  | zero => rw [waitAt_of_looping hzero, hturn]
  | succ n =>
    have hone : after (turn p gaveUp) (start p) rounds 1 = .returned result := by
      rw [after_succ_of_looping hzero, hturn]
    exact waitAt_of_returned hone (by omega)

variable (gaveUp) in
/-- The waits of a loop that begins with the same wait and waits as this one until it gives up
keep the law exactly if the initial one is within the cap, or the first run ends the loop. -/
theorem backoffLaw_iff (hd : 0 < p.initialBackoff) (hcap : 0 < p.maxBackoff)
    (hlt : p.maxBackoff < 2 ^ 62) {waits : ℕ → Option ℤ}
    (hzero : waits 0 = waitAt (turn p gaveUp) (start p) rounds 0)
    (hsame : ∀ n wait, waits n = some wait →
      waitAt (turn p gaveUp) (start p) rounds n = some wait) :
    BackoffLaw p rounds waits ↔
      p.initialBackoff ≤ p.maxBackoff ∨ (rounds 0).cancelledInRun = true ∨
        (p.maxRetries = 1 ∧ (rounds 0).uptime < p.stableThreshold) := by
  rw [← exhausted_zero_iff]
  constructor
  · intro hlaw
    by_contra hnot
    simp only [not_or, Bool.not_eq_true] at hnot
    obtain ⟨hbig, hrun, hspent⟩ := hnot
    rw [waitAt_zero gaveUp hrun hspent] at hzero
    exact hbig (hlaw 0 _ hzero).2.1
  · rintro (hle | hfirst) n wait hwait
    · have heq := wait_eq_of_le hd hle hlt (hsame n wait hwait)
      have hpos : 0 < p.initialBackoff * 2 ^ waitIndex p rounds n := by positivity
      rw [heq]
      exact ⟨lt_min hpos hcap, min_le_right _ _, rfl⟩
    · have hnone := hsame n wait hwait
      simp [waitAt_of_first_run gaveUp hfirst] at hnone

end Waits

end RetryLoop
