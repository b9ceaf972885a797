import GpuFractioning.Operator.Status

/-!
# What the condition list remembers of the calls that set it

`SetCondition` of `operator/internal/common/daemonmgr/status.go` over whole
sequences of calls. A call sees only what is stored under its type, and what is
stored is a function of the type's own calls: the last of them, with the time of
the first of the most recent calls that agree with it.
-/

namespace GpuFractioning.Operator

/-- One `SetCondition` call after the other. -/
def setConditions (calls conditions : List Condition) : List Condition :=
  calls.foldl (fun conditions cond => setCondition cond conditions) conditions

/-- The calls for a type, in their order. -/
def callsFor (calls : List Condition) (condType : String) : List Condition :=
  calls.filter fun c => c.type = condType

/-- The most recent conditions of a history, as far back as all have the status. -/
def recentRun (history : List Condition) (status : ConditionStatus) : List Condition :=
  history.rtakeWhile fun c => c.status = status

/-- What a call stores, given what was stored under its type. -/
def restamp (stored : Option Condition) (cond : Condition) : Condition :=
  stored.elim cond fun existing =>
    if existing.status = cond.status then
      { cond with lastTransitionTime := existing.lastTransitionTime }
    else cond

/-- The last of a history, with the time of the first of its run. -/
def stamped (history : List Condition) : Option Condition :=
  history.getLast?.map fun last =>
    { last with
      lastTransitionTime := ((recentRun history last.status).headD last).lastTransitionTime }

section Types

theorem map_type_setCondition (cond : Condition) (conditions : List Condition) :
    (setCondition cond conditions).map Condition.type =
      if cond.type ∈ conditions.map Condition.type then conditions.map Condition.type
      else conditions.map Condition.type ++ [cond.type] := by
  apply KeyedList.map_upsert
  intro existing
  split_ifs <;> rfl

theorem nodup_type_setCondition (cond : Condition) {conditions : List Condition}
    (hdistinct : (conditions.map Condition.type).Nodup) :
    ((setCondition cond conditions).map Condition.type).Nodup := by
  rw [map_type_setCondition]
  by_cases hmem : cond.type ∈ conditions.map Condition.type
  · rw [if_pos hmem]
    exact hdistinct
  · rw [if_neg hmem, List.nodup_append]
    refine ⟨hdistinct, List.nodup_singleton _, ?_⟩
    intro condType hold fresh hfresh heq
    rw [List.mem_singleton] at hfresh
    exact hmem (hfresh ▸ heq ▸ hold)

theorem nodup_type_setConditions (calls : List Condition) :
    ∀ conditions : List Condition, (conditions.map Condition.type).Nodup →
      ((setConditions calls conditions).map Condition.type).Nodup := by
  induction calls with
  | nil =>
    intro conditions hdistinct
    exact hdistinct
  | cons cond calls ih =>
    intro conditions hdistinct
    exact ih _ (nodup_type_setCondition cond hdistinct)

/-- Types keep their places; the new ones follow in the order they are first called in. -/
theorem map_type_setConditions (calls : List Condition) :
    ∀ conditions : List Condition,
      (setConditions calls conditions).map Condition.type =
        conditions.map Condition.type ++
          ((calls.map Condition.type).filter
            (· ∉ conditions.map Condition.type)).eraseDups := by
  induction calls with
  | nil => simp [setConditions]
  | cons cond calls ih =>
    intro conditions
    have hrest := ih (setCondition cond conditions)
    rw [map_type_setCondition] at hrest
    rw [show setConditions (cond :: calls) conditions =
      setConditions calls (setCondition cond conditions) from rfl, hrest, List.map_cons]
    by_cases hmem : cond.type ∈ conditions.map Condition.type
    · rw [if_pos hmem, List.filter_cons_of_neg (by simpa using hmem)]
    · rw [if_neg hmem, List.filter_cons_of_pos (by simpa using hmem), List.eraseDups_cons,
        List.filter_filter, List.append_assoc, List.singleton_append]
      have hnew : ∀ condType,
          decide (condType ∉ conditions.map Condition.type ++ [cond.type]) =
            (!(condType == cond.type) && decide (condType ∉ conditions.map Condition.type)) := by
        intro condType
        by_cases htype : condType = cond.type <;>
          by_cases hold : condType ∈ conditions.map Condition.type <;> simp [htype, hold]
      simp only [hnew]

end Types

section Stored

theorem find?_setCondition_eq (cond : Condition) (conditions : List Condition)
    (condType : String) :
    ((setCondition cond conditions).find? fun c => c.type = condType) =
      if cond.type = condType then
        some (restamp (conditions.find? fun c => c.type = condType) cond)
      else conditions.find? fun c => c.type = condType := by
  apply KeyedList.find?_upsert_eq
  intro existing
  split_ifs <;> rfl

theorem recentRun_concat (history : List Condition) (cond : Condition) :
    recentRun (history ++ [cond]) cond.status = recentRun history cond.status ++ [cond] :=
  List.rtakeWhile_concat_pos _ _ cond (by simp)

theorem stamped_concat (history : List Condition) (cond : Condition) :
    stamped (history ++ [cond]) = some (restamp (stamped history) cond) := by
  simp only [stamped, List.getLast?_concat, Option.map_some, recentRun_concat]
  rcases List.eq_nil_or_concat' history with rfl | ⟨earlier, existing, rfl⟩
  · rfl
  · simp only [List.getLast?_concat, Option.map_some, restamp, Option.elim_some]
    by_cases hstatus : existing.status = cond.status
    · rw [if_pos hstatus, ← hstatus, recentRun_concat]
      cases recentRun earlier existing.status <;> rfl
    · have hrun : recentRun (earlier ++ [existing]) cond.status = [] :=
        List.rtakeWhile_concat_neg _ _ existing (by simpa using hstatus)
      rw [if_neg hstatus, hrun]
      rfl

/-- What is stored under a type is told by its initial condition and its own calls. -/
theorem find?_setConditions (initial calls : List Condition) (condType : String) :
    ((setConditions calls initial).find? fun c => c.type = condType) =
      stamped ((initial.find? fun c => c.type = condType).toList ++ callsFor calls condType) := by
  induction calls using List.reverseRecOn with
  | nil =>
    cases hfind : initial.find? fun c => c.type = condType with
    | none => simp [setConditions, callsFor, stamped, hfind]
    | some c => simp [setConditions, callsFor, stamped, hfind, recentRun, List.rtakeWhile]
  | append_singleton calls cond ih =>
    have hcalls : setConditions (calls ++ [cond]) initial =
        setCondition cond (setConditions calls initial) := by
      simp [setConditions]
    rw [hcalls, find?_setCondition_eq, ih]
    by_cases htype : cond.type = condType
    · have hfor : callsFor (calls ++ [cond]) condType = callsFor calls condType ++ [cond] := by
        simp [callsFor, htype]
      rw [if_pos htype, hfor, ← List.append_assoc, stamped_concat]
    · have hfor : callsFor (calls ++ [cond]) condType = callsFor calls condType := by
        simp [callsFor, htype]
      rw [if_neg htype, hfor]

theorem recentRun_cons (first : Condition) (history : List Condition)
    (status : ConditionStatus) :
    recentRun (first :: history) status =
      if recentRun history status = history ∧ first.status = status then first :: history
      else recentRun history status := by
  induction history using List.reverseRecOn with
  | nil => by_cases h : first.status = status <;> simp [recentRun, List.rtakeWhile, h]
  | append_singleton earlier last ih =>
    rw [← List.cons_append]
    by_cases hlast : last.status = status
    · subst hlast
      rw [recentRun_concat, recentRun_concat, ih]
      by_cases hrun : recentRun earlier last.status = earlier ∧ first.status = last.status
      · rw [if_pos hrun, if_pos ⟨by rw [hrun.1], hrun.2⟩]
      · rw [if_neg hrun, if_neg (fun h => hrun ⟨List.append_cancel_right h.1, h.2⟩)]
    · have hnone : ∀ l : List Condition, recentRun (l ++ [last]) status = [] := fun l =>
        List.rtakeWhile_concat_neg _ l last (by simpa using hlast)
      rw [hnone, hnone, if_neg (by simp)]

theorem stamped_eq_of_getLast? (initial : Option Condition) {history : List Condition}
    {last : Condition} (hlast : history.getLast? = some last) :
    stamped (initial.toList ++ history) =
      some { last with
        lastTransitionTime :=
          ((recentRun (initial.toList ++ history) last.status).headD
            last).lastTransitionTime } := by
  have hwhole : (initial.toList ++ history).getLast? = some last := by
    rw [List.getLast?_append, hlast, Option.some_or]
  rw [stamped, hwhole, Option.map_some]

theorem head?_recentRun {history : List Condition} {last : Condition}
    (hlast : history.getLast? = some last) :
    (recentRun history last.status).head? =
      some ((recentRun history last.status).headD last) := by
  obtain ⟨earlier, rfl⟩ := List.getLast?_eq_some_iff.mp hlast
  rw [recentRun_concat]
  cases recentRun earlier last.status <;> rfl

end Stored

/-- What any sequence of calls makes of a list whose types are distinct. -/
theorem setConditions_history (initial calls : List Condition)
    (hdistinct : (initial.map Condition.type).Nodup) :
    let final := setConditions calls initial
    (final.map Condition.type).Nodup ∧
      final.map Condition.type =
        initial.map Condition.type ++
          ((calls.map Condition.type).filter (· ∉ initial.map Condition.type)).eraseDups ∧
      ∀ condType,
        let history := callsFor calls condType
        let before := initial.find? fun c => c.type = condType
        let stored := final.find? fun c => c.type = condType
        (history = [] → stored = before) ∧
          ∀ last, history.getLast? = some last →
            ∃ cond, stored = some cond ∧ cond.status = last.status ∧
              cond.reason = last.reason ∧ cond.message = last.message ∧
              cond.observedGeneration = last.observedGeneration ∧
              (∀ c, before = some c → c.status = last.status →
                recentRun history last.status = history →
                cond.lastTransitionTime = c.lastTransitionTime) ∧
              ((∀ c, before = some c → c.status = last.status →
                recentRun history last.status ≠ history) →
                ∃ first, (recentRun history last.status).head? = some first ∧
                  cond.lastTransitionTime = first.lastTransitionTime) := by
  refine ⟨nodup_type_setConditions calls initial hdistinct,
    map_type_setConditions calls initial, ?_⟩
  intro condType
  have hstored := find?_setConditions initial calls condType
  constructor
  · intro hnone
    have hno := find?_setConditions initial [] condType
    simp only [callsFor, List.filter_nil] at hno
    rw [hstored, hnone, ← hno]
    rfl
  · intro last hlast
    rw [stamped_eq_of_getLast? _ hlast] at hstored
    refine ⟨_, hstored, rfl, rfl, rfl, rfl, ?_, ?_⟩
    · intro c hbefore hstatus hwhole
      simp only [hbefore, Option.toList_some, List.singleton_append, recentRun_cons,
        if_pos (And.intro hwhole hstatus), List.headD_cons]
    · intro hshort
      refine ⟨_, head?_recentRun hlast, ?_⟩
      cases hbefore : initial.find? fun c => c.type = condType with
      | none => rfl
      | some c =>
        have hnot : ¬ (recentRun (callsFor calls condType) last.status =
            callsFor calls condType ∧ c.status = last.status) := fun h =>
          hshort c hbefore h.2 h.1
        simp only [Option.toList_some, List.singleton_append, recentRun_cons, if_neg hnot]

/-- Twice true after false: the time of the first of the two is kept. -/
theorem setConditions_history_ready :
    let ready (status : ConditionStatus) (time : ℤ) : Condition :=
      { type := conditionReady
        status := status
        observedGeneration := 1
        lastTransitionTime := time
        reason := reasonAllComponentsReady
        message := "" }
    let initial := [ready .conditionFalse 1]
    let calls := [ready .conditionTrue 5, ready .conditionTrue 9]
    setConditions calls initial = [ready .conditionTrue 5] ∧
      ∃ cond, ((setConditions calls initial).find? fun c => c.type = conditionReady) = some cond ∧
        cond.status = .conditionTrue ∧ cond.lastTransitionTime = 5 := by
  intro ready initial calls
  refine ⟨by decide, ?_⟩
  obtain ⟨cond, hstored, hstatus, _, _, _, _, htime⟩ :=
    ((setConditions_history initial calls (by decide)).2.2 conditionReady).2
      (ready .conditionTrue 9) (by decide)
  obtain ⟨first, hfirst, hsame⟩ := htime (by decide)
  have hrun : (recentRun (callsFor calls conditionReady) .conditionTrue).head? =
      some (ready .conditionTrue 5) := by decide
  rw [show (ready .conditionTrue 9).status = .conditionTrue from rfl, hrun] at hfirst
  refine ⟨cond, hstored, hstatus, ?_⟩
  rw [hsame, ← Option.some.inj hfirst]

end GpuFractioning.Operator
