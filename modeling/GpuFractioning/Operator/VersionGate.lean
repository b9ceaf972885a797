import GpuFractioning.Operator.DependencyChecker

/-!
# What the version gates compare

The normalisers of `dependency_checker.go` against the numbers of a version
text, and the verdict of `versionFailure` in those terms.
-/

namespace GpuFractioning.Operator

open Semver (Decimal value Below)

section NumericCore

/-- One to three decimals, the missing parts zero. -/
inductive Numbers : List Char → ℕ × ℕ × ℕ → Prop
  | one {d₁} (h₁ : Decimal d₁) : Numbers d₁ (value d₁, 0, 0)
  | two {d₁ d₂} (h₁ : Decimal d₁) (h₂ : Decimal d₂) :
      Numbers (d₁ ++ '.' :: d₂) (value d₁, value d₂, 0)
  | three {d₁ d₂ d₃} (h₁ : Decimal d₁) (h₂ : Decimal d₂) (h₃ : Decimal d₃) :
      Numbers (d₁ ++ '.' :: (d₂ ++ '.' :: d₃)) (value d₁, value d₂, value d₃)

/-- The numbers after an optional `v`. -/
def NumericCore (core : String) (numbers : ℕ × ℕ × ℕ) : Prop :=
  Numbers core.toList numbers ∨ ∃ l, core.toList = 'v' :: l ∧ Numbers l numbers

theorem Numbers.not_cons_v {l : List Char} {numbers : ℕ × ℕ × ℕ}
    (h : Numbers ('v' :: l) numbers) : False := by
  have hfirst : ∀ {d rest : List Char}, Decimal d → 'v' :: l = d ++ rest → False := by
    intro d rest hd heq
    cases d with
    | nil => exact hd.nonempty rfl
    | cons c d =>
      rw [List.cons_append, List.cons.injEq] at heq
      have hdigit := hd.digits c List.mem_cons_self
      rw [← heq.1] at hdigit
      exact absurd hdigit (by decide)
  generalize hl : 'v' :: l = text at h
  cases h with
  | one h₁ => exact hfirst h₁ (hl.trans (List.append_nil _).symm)
  | two h₁ h₂ => exact hfirst h₁ hl
  | three h₁ h₂ h₃ => exact hfirst h₁ hl

theorem withLeadingV_cases (s : String) :
    (∃ l, s.toList = 'v' :: l ∧ withLeadingV s = s) ∨
      ((∀ l, s.toList ≠ 'v' :: l) ∧ (withLeadingV s).toList = 'v' :: s.toList) := by
  unfold withLeadingV
  split_ifs with hpre
  · left
    obtain ⟨rest, rfl⟩ := GoString.hasPrefix_iff.mp hpre
    exact ⟨rest.toList, by simp, rfl⟩
  · right
    refine ⟨fun l hl => hpre ?_, by simp⟩
    exact GoString.hasPrefix_iff.mpr ⟨String.ofList l, by rw [← String.toList_inj]; simp [hl]⟩

/-- The numbers stand after the `v` that `withLeadingV` sees to. -/
theorem numericCore_iff_withLeadingV {core : String} {numbers : ℕ × ℕ × ℕ} :
    NumericCore core numbers ↔
      ∃ l, (withLeadingV core).toList = 'v' :: l ∧ Numbers l numbers := by
  rcases withLeadingV_cases core with ⟨l, hl, hsame⟩ | ⟨hno, hadded⟩
  · rw [hsame]
    constructor
    · rintro (hbare | hv)
      · rw [hl] at hbare
        exact hbare.not_cons_v.elim
      · exact hv
    · exact .inr
  · rw [hadded]
    constructor
    · rintro (hbare | ⟨l, hl, -⟩)
      · exact ⟨_, rfl, hbare⟩
      · exact absurd hl (hno l)
    · rintro ⟨l, hl, hnumbers⟩
      cases hl
      exact .inl hnumbers

/-- Neither of the characters that begin a suffix. -/
def SuffixFree (s : String) : Prop := '-' ∉ s.toList ∧ '+' ∉ s.toList

theorem SuffixFree.withLeadingV {s : String} (h : SuffixFree s) :
    SuffixFree (withLeadingV s) := by
  rcases withLeadingV_cases s with ⟨l, -, hsame⟩ | ⟨-, hadded⟩
  · rwa [hsame]
  · unfold SuffixFree
    rw [hadded]
    exact ⟨by simpa using h.1, by simpa using h.2⟩

theorem numericCore_iff_parse {core : String} {numbers : ℕ × ℕ × ℕ} (hfree : SuffixFree core) :
    NumericCore core numbers ↔
      ∃ p, Semver.parse (withLeadingV core) = some p ∧ p.numbers = numbers := by
  have hfree' := hfree.withLeadingV
  rw [numericCore_iff_withLeadingV]
  generalize withLeadingV core = v at hfree' ⊢
  constructor
  · rintro ⟨l, hl, hnumbers⟩
    cases hnumbers with
    | one h₁ => exact ⟨_, Semver.parse_of_shape (hl ▸ Semver.Shape.major h₁), rfl⟩
    | two h₁ h₂ => exact ⟨_, Semver.parse_of_shape (hl ▸ Semver.Shape.minor h₁ h₂), rfl⟩
    | three h₁ h₂ h₃ => exact ⟨_, Semver.parse_release h₁ h₂ h₃ hl, rfl⟩
  · rintro ⟨p, hp, rfl⟩
    have hshape := Semver.shape_of_parse hp
    unfold SuffixFree at hfree'
    generalize v.toList = l at hshape hfree' ⊢
    cases hshape with
    | major h₁ => exact ⟨_, rfl, .one h₁⟩
    | minor h₁ h₂ => exact ⟨_, rfl, .two h₁ h₂⟩
    | full h₁ h₂ h₃ hstops hsuffix =>
      obtain ⟨hnumbers, -, -, hlike⟩ := Semver.parseSuffix_eq_some hsuffix
      have hnumbers' : p.numbers = _ := hnumbers
      rcases hlike with ⟨rfl, -⟩ | ⟨c, rest, rfl, rfl | rfl⟩
      · rw [hnumbers', List.append_nil]
        exact ⟨_, rfl, .three h₁ h₂ h₃⟩
      · exact absurd (by simp) hfree'.1
      · exact absurd (by simp) hfree'.2

end NumericCore

section Split

theorem splitSemverSuffix_append (s : String) :
    (splitSemverSuffix s).1 ++ (splitSemverSuffix s).2 = s := by
  rw [← String.toList_inj]
  simp [splitSemverSuffix, List.takeWhile_append_dropWhile]

theorem splitSemverSuffix_suffixFree (s : String) : SuffixFree (splitSemverSuffix s).1 := by
  constructor
  all_goals
    intro hmem
    have hkept := List.mem_takeWhile_imp (by simpa [splitSemverSuffix] using hmem)
    simp at hkept

theorem parse_core_canonical {v : String} {p : Semver.Version} (h : Semver.parse v = some p) :
    ∃ q, Semver.parse (splitSemverSuffix (Semver.canonical v)).1 = some q ∧
      q.numbers = p.numbers ∧ q.prerelease = [] := by
  obtain ⟨d₁, d₂, d₃, rest, h₁, h₂, h₃, hnumbers, hlike, hcanonical, -⟩ := Semver.canonical_eq h
  have hcore : (splitSemverSuffix (Semver.canonical v)).1.toList = Semver.release d₁ d₂ d₃ := by
    have hminus : '-' ∉ Semver.release d₁ d₂ d₃ :=
      Semver.not_mem_release h₁ h₂ h₃ (by decide) (by decide) (by decide)
    have hplus : '+' ∉ Semver.release d₁ d₂ d₃ :=
      Semver.not_mem_release h₁ h₂ h₃ (by decide) (by decide) (by decide)
    have hkept : ∀ c ∈ Semver.release d₁ d₂ d₃,
        (!(decide (c = '-') || decide (c = '+'))) = true := by
      intro c hc
      have hc₁ : c ≠ '-' := fun heq => hminus (heq ▸ hc)
      have hc₂ : c ≠ '+' := fun heq => hplus (heq ▸ hc)
      simp [hc₁, hc₂]
    simp only [splitSemverSuffix, String.toList_ofList, hcanonical]
    rw [List.takeWhile_append_of_pos hkept]
    rcases hlike with rfl | ⟨c, rest, rfl, rfl | rfl⟩ <;> simp
  exact ⟨_, Semver.parse_release h₁ h₂ h₃ hcore, hnumbers.symm, rfl⟩

end Split

section Operands

namespace GpuOperandRequirement

variable (operand : GpuOperandRequirement) (policy : Json)

/-- What the ClusterPolicy pins the operand to; blank when it pins nothing. -/
def pinned : String := GoString.trimSpace ((policy.nestedString operand.specPath).getD "")

def floor : ℕ × ℕ × ℕ :=
  ((Semver.parse operand.minVersion).map Semver.Version.numbers).getD (0, 0, 0)

/-- The numbers the operand is pinned to, up to a suffix, are below its minimum. -/
def TooOld : Prop :=
  ∃ numbers, NumericCore (splitSemverSuffix (operand.pinned policy)).1 numbers ∧
    Below numbers operand.floor

/-- The minimum is a release or no version at all. -/
def HasReleaseFloor : Prop := ∀ p, Semver.parse operand.minVersion = some p → p.prerelease = []

end GpuOperandRequirement

theorem not_numericCore_empty (numbers : ℕ × ℕ × ℕ) : ¬ NumericCore "" numbers := by
  have hfree : SuffixFree "" := by simp [SuffixFree]
  rw [numericCore_iff_parse hfree]
  rintro ⟨p, hp, -⟩
  have hnone : Semver.parse (withLeadingV "") = none := by decide
  rw [hnone] at hp
  cases hp

/-- A pinned text is normalised exactly when its core is numeric, and keeps its numbers. -/
theorem normalizeOperandVersion_spec (version : String) :
    (∃ w q, normalizeOperandVersion version = some w ∧ Semver.parse w = some q ∧
        q.prerelease = [] ∧
        NumericCore (splitSemverSuffix (GoString.trimSpace version)).1 q.numbers) ∨
      (normalizeOperandVersion version = none ∧
        ∀ numbers, ¬ NumericCore (splitSemverSuffix (GoString.trimSpace version)).1 numbers) := by
  have hfree := splitSemverSuffix_suffixFree (GoString.trimSpace version)
  unfold normalizeOperandVersion
  dsimp only
  generalize (splitSemverSuffix (GoString.trimSpace version)).1 = core at hfree ⊢
  by_cases hempty : core = ""
  · right
    rw [if_pos hempty, hempty]
    exact ⟨rfl, not_numericCore_empty⟩
  · rw [if_neg hempty]
    cases hparse : Semver.parse (withLeadingV core) with
    | none =>
      right
      refine ⟨by simp [Semver.isValid, hparse], fun numbers hcore => ?_⟩
      obtain ⟨p, hp, -⟩ := (numericCore_iff_parse hfree).mp hcore
      rw [hparse] at hp
      cases hp
    | some p =>
      left
      obtain ⟨d₁, d₂, d₃, rest, h₁, h₂, h₃, hnumbers, -, hcanonical, hrest⟩ :=
        Semver.canonical_eq hparse
      rw [hrest hfree.withLeadingV, List.append_nil] at hcanonical
      refine ⟨_, _, by simp [Semver.isValid, hparse], Semver.parse_release h₁ h₂ h₃ hcanonical,
        rfl, ?_⟩
      exact (numericCore_iff_parse hfree).mpr ⟨p, hparse, hnumbers⟩

theorem NumericCore.unique {core : String} {numbers numbers' : ℕ × ℕ × ℕ}
    (hfree : SuffixFree core) (h : NumericCore core numbers) (h' : NumericCore core numbers') :
    numbers = numbers' := by
  obtain ⟨p, hp, rfl⟩ := (numericCore_iff_parse hfree).mp h
  obtain ⟨p', hp', rfl⟩ := (numericCore_iff_parse hfree).mp h'
  rw [hp] at hp'
  cases hp'
  rfl

theorem not_below_zero (numbers : ℕ × ℕ × ℕ) : ¬ Below numbers (0, 0, 0) := by
  simp [Below, Prod.lex_def]

theorem compareVersions_minVersion {operand : GpuOperandRequirement}
    (hfloor : operand.HasReleaseFloor) {w : String} {q : Semver.Version}
    (hw : Semver.parse w = some q) (hq : q.prerelease = []) :
    Semver.compareVersions w operand.minVersion = .lt ↔ Below q.numbers operand.floor := by
  cases hmin : Semver.parse operand.minVersion with
  | none =>
    have hnone : operand.floor = (0, 0, 0) := by simp [GpuOperandRequirement.floor, hmin]
    have hgt : Semver.compareVersions w operand.minVersion = .gt := by
      simp [Semver.compareVersions, hw, hmin]
    rw [hgt, hnone]
    simp [not_below_zero]
  | some p =>
    have hsome : operand.floor = p.numbers := by simp [GpuOperandRequirement.floor, hmin]
    rw [hsome]
    exact Semver.compareVersions_lt_iff hw hmin hq (hfloor p hmin)

variable {policy : Json}

/-- Some operand is too old and there is a message, or none is and the operands the policy leaves
unset are listed. -/
def OperandVerdict (policy : Json) (operands : List GpuOperandRequirement)
    (defaulted : List String) (result : String × List String) : Prop :=
  (∃ operand ∈ operands, operand.TooOld policy) ∧ result.1 ≠ "" ∨
    (∀ operand ∈ operands, ¬ operand.TooOld policy) ∧
      result = ("", defaulted ++
        (operands.filter fun operand => operand.pinned policy = "").map (·.name))

theorem OperandVerdict.cons {operand : GpuOperandRequirement}
    {operands : List GpuOperandRequirement} {defaulted : List String}
    {result : String × List String} (hnew : ¬ operand.TooOld policy)
    (h : OperandVerdict policy operands
      (if operand.pinned policy = "" then defaulted ++ [operand.name] else defaulted) result) :
    OperandVerdict policy (operand :: operands) defaulted result := by
  rcases h with ⟨⟨old, hmem, hold⟩, hmsg⟩ | ⟨hnone, hresult⟩
  · exact .inl ⟨⟨old, List.mem_cons_of_mem _ hmem, hold⟩, hmsg⟩
  · right
    refine ⟨List.forall_mem_cons.mpr ⟨hnew, hnone⟩, hresult.trans ?_⟩
    by_cases hunset : operand.pinned policy = ""
    · simp [hunset]
    · simp [hunset]

theorem gpuOperandVersionFailureMessage_spec {operands : List GpuOperandRequirement}
    (hfloors : ∀ operand ∈ operands, operand.HasReleaseFloor) (defaulted : List String) :
    OperandVerdict policy operands defaulted
      (gpuOperandVersionFailureMessage policy operands defaulted) := by
  induction operands generalizing defaulted with
  | nil => exact .inr ⟨by simp, by simp [gpuOperandVersionFailureMessage]⟩
  | cons operand operands ih =>
    have hfloor := hfloors operand List.mem_cons_self
    have ih' := ih fun other hother => hfloors other (List.mem_cons_of_mem _ hother)
    have hpinned : GoString.trimSpace ((policy.nestedString operand.specPath).getD "") =
        operand.pinned policy := rfl
    have htrim : GoString.trimSpace (operand.pinned policy) = operand.pinned policy :=
      GoString.trimSpace_trimSpace _
    simp only [gpuOperandVersionFailureMessage, hpinned]
    split_ifs with hunset
    · apply OperandVerdict.cons
      · rintro ⟨numbers, hcore, -⟩
        rw [hunset] at hcore
        exact not_numericCore_empty numbers hcore
      · rw [if_pos hunset]
        exact ih' _
    · obtain ⟨w, q, hw, hparse, hq, hcore⟩ | ⟨hnone, hcore⟩ :=
        normalizeOperandVersion_spec (operand.pinned policy)
      · rw [htrim] at hcore
        have hlt := compareVersions_minVersion hfloor hparse hq
        simp only [hw]
        split_ifs with hold
        · exact .inl ⟨⟨operand, List.mem_cons_self, q.numbers, hcore, hlt.mp hold⟩, by simp⟩
        · apply OperandVerdict.cons
          · rintro ⟨numbers, hcore', hbelow⟩
            rw [hcore'.unique (splitSemverSuffix_suffixFree _) hcore] at hbelow
            exact hold (hlt.mpr hbelow)
          · rw [if_neg hunset]
            exact ih' _
      · rw [htrim] at hcore
        simp only [hnone]
        apply OperandVerdict.cons
        · rintro ⟨numbers, hcore', -⟩
          exact hcore numbers hcore'
        · rw [if_neg hunset]
          exact ih' _

theorem gpuOperandRequirements_floors :
    ∀ operand ∈ gpuOperandRequirements, operand.HasReleaseFloor := by
  have htoolkit : Semver.parse "v1.20.1" = some ⟨1, 20, 1, [], [], []⟩ := by decide
  have hplugin : Semver.parse "v0.20.1" = some ⟨0, 20, 1, [], [], []⟩ := by decide
  intro operand hoperand p hp
  rcases List.mem_pair.mp hoperand with rfl | rfl
  · rw [htoolkit] at hp
    cases hp
    rfl
  · rw [hplugin] at hp
    cases hp
    rfl

example : gpuOperandRequirements.map (·.floor) = [(1, 20, 1), (0, 20, 1)] := by decide

end Operands

section OperatorVersion

/-- The numbers of a GPU Operator version; a core of two numbers with a suffix is read with a
third that is zero. -/
def operatorNumbers (version : String) : Option (ℕ × ℕ × ℕ) :=
  let version := withLeadingV (GoString.trimSpace version)
  let (core, suffix) := splitSemverSuffix version
  let completed : Option Semver.Version :=
    if suffix ≠ "" ∧ core.toList.count '.' = 1 then Semver.parse (core ++ ".0" ++ suffix) else none
  ((Semver.parse version).or completed).map Semver.Version.numbers

/-- The version can be read and is not below the minimum. -/
def MeetsFloor (version : String) : Prop :=
  ∃ numbers, operatorNumbers version = some numbers ∧ ¬ Below numbers (26, 7, 1)

/-- Completing a core of two numbers reads nothing that was not a version before. -/
theorem parse_of_parse_completed {core : String} {p : Semver.Version} (hfree : SuffixFree core)
    (hdots : core.toList.count '.' = 1) (h : Semver.parse (core ++ ".0") = some p) :
    ∃ q, Semver.parse core = some q := by
  have hshape := Semver.shape_of_parse h
  have htext : (core ++ ".0").toList = core.toList ++ ['.', '0'] := by simp
  have hdot : ∀ {d : List Char}, Decimal d → '.' ∉ d := fun hd => hd.not_mem (by decide)
  generalize hl : (core ++ ".0").toList = l at hshape htext
  cases hshape with
  | major h₁ =>
    exfalso
    have hmem : '.' ∈ core.toList ++ ['.', '0'] := by simp
    rw [← htext] at hmem
    exact hdot h₁ (by simpa using hmem)
  | minor h₁ h₂ =>
    exfalso
    have hcount := congrArg (List.count '.') htext
    simp [List.count_append, List.count_eq_zero_of_not_mem (hdot h₁),
      List.count_eq_zero_of_not_mem (hdot h₂), hdots] at hcount
  | @full d₁ d₂ d₃ suffix _ h₁ h₂ h₃ hstops hsuffix =>
    obtain ⟨-, -, -, hlike⟩ := Semver.parseSuffix_eq_some hsuffix
    rcases hlike with ⟨rfl, -⟩ | ⟨c, rest, rfl, hc⟩
    · rw [List.append_nil] at htext
      have hparts : ('v' :: (d₁ ++ '.' :: d₂)) ++ '.' :: d₃ = core.toList ++ '.' :: ['0'] := by
        simpa [Semver.release] using htext
      obtain ⟨hcore, -⟩ := GoString.append_last_separator_inj hparts (hdot h₃) (by decide)
      exact ⟨_, Semver.parse_of_shape (hcore ▸ Semver.Shape.minor h₁ h₂)⟩
    · exfalso
      have hmem : c ∈ core.toList ++ ['.', '0'] := by
        rw [← htext]
        simp
      rcases hc with rfl | rfl
      · exact hfree.1 (by simpa using hmem)
      · exact hfree.2 (by simpa using hmem)

theorem operatorNumbers_trimSpace (version : String) :
    operatorNumbers (GoString.trimSpace version) = operatorNumbers version := by
  unfold operatorNumbers
  rw [GoString.trimSpace_trimSpace]

theorem normalizeGPUOperatorVersion_spec (version : String) :
    (∃ v p, normalizeGPUOperatorVersion version = some (Semver.canonical v) ∧
        Semver.parse v = some p ∧ operatorNumbers version = some p.numbers) ∨
      (normalizeGPUOperatorVersion version = none ∧ operatorNumbers version = none) := by
  unfold normalizeGPUOperatorVersion operatorNumbers
  dsimp only
  generalize GoString.trimSpace version = text
  by_cases hempty : text = ""
  · right
    subst hempty
    exact ⟨rfl, by decide⟩
  · rw [if_neg hempty]
    have hsplit := splitSemverSuffix_append (withLeadingV text)
    have hfree := splitSemverSuffix_suffixFree (withLeadingV text)
    cases hparse : Semver.parse (withLeadingV text) with
    | some p => exact .inl ⟨_, p, by simp [Semver.isValid, hparse], hparse, by simp⟩
    | none =>
      simp only [Semver.isValid, hparse, Option.isSome_none, Bool.false_eq_true, if_false,
        Option.none_or]
      generalize (splitSemverSuffix (withLeadingV text)).1 = core at hsplit hfree ⊢
      generalize (splitSemverSuffix (withLeadingV text)).2 = suffix at hsplit ⊢
      by_cases hdots : core.toList.count '.' = 1
      · obtain hcompleted | ⟨p, hcompleted⟩ :=
          Option.eq_none_or_eq_some (Semver.parse (core ++ ".0" ++ suffix))
        · right
          simp [hcompleted]
        · have hsuffix : suffix ≠ "" := by
            rintro rfl
            rw [String.append_empty] at hsplit hcompleted
            obtain ⟨q, hq⟩ := parse_of_parse_completed hfree hdots hcompleted
            rw [hsplit, hparse] at hq
            cases hq
          left
          refine ⟨core ++ ".0" ++ suffix, p, ?_, hcompleted, ?_⟩
          · simp [hdots, hcompleted]
          · simp [hdots, hsuffix, hcompleted]
      · right
        simp [hdots]

example : operatorNumbers "26.7-rc1" = some (26, 7, 0) := by decide

theorem gpuOperatorVersionFailureMessage_eq_empty_iff (version source : String) :
    gpuOperatorVersionFailureMessage version source = "" ↔ MeetsFloor version := by
  unfold gpuOperatorVersionFailureMessage MeetsFloor
  rw [← operatorNumbers_trimSpace version]
  generalize GoString.trimSpace version = text
  dsimp only
  by_cases hempty : text = ""
  · subst hempty
    have hnone : operatorNumbers "" = none := by decide
    simp [hnone]
  · rw [if_neg hempty]
    obtain ⟨v, p, hv, hparse, hnumbers⟩ | ⟨hnone, hnumbers⟩ :=
      normalizeGPUOperatorVersion_spec text
    · obtain ⟨q, hq, hqnumbers, hrelease⟩ := parse_core_canonical hparse
      have hminimum : Semver.parse minimumGPUOperatorVersion = some ⟨26, 7, 1, [], [], []⟩ := by
        decide
      have hlt := Semver.compareVersions_lt_iff hq hminimum hrelease rfl
      rw [hqnumbers] at hlt
      simp only [hv, hnumbers, Option.some.injEq, exists_eq_left']
      split_ifs with hold
      · have hbelow : Below p.numbers (26, 7, 1) := hlt.mp hold
        simp [hbelow]
      · have hnot : ¬ Below p.numbers (26, 7, 1) := fun hbelow => hold (hlt.mpr hbelow)
        simp [hnot]
    · simp [hnone, hnumbers]

end OperatorVersion

section Gate

/-- The version a ClusterServiceVersion declares. -/
def csvVersion (csv : Json) : String :=
  GoString.trimSpace ((csv.nestedString ["spec", "version"]).getD "")

/-- The version label of the ClusterPolicy, or else the ClusterServiceVersion's version; blank
when there is neither. -/
def operatorVersion (policy : Json) (csv : Option Json) : String :=
  if gpuOperatorVersionFromClusterPolicy policy ≠ "" then gpuOperatorVersionFromClusterPolicy policy
  else (csv.map csvVersion).getD ""

open Classical in
/-- The reason the gates give, from the ClusterPolicy and the one ClusterServiceVersion they
look at. -/
noncomputable def gateReason (policy csv : Option Json) : String :=
  match policy with
  | some policy =>
    if ∃ operand ∈ gpuOperandRequirements, operand.TooOld policy then
      reasonGPUOperandVersionUnsupported
    else if ∀ operand ∈ gpuOperandRequirements, operand.pinned policy ≠ "" then ""
    else if MeetsFloor (operatorVersion policy csv) then ""
    else reasonGPUOperatorVersionUnsupported
  | none =>
    match csv with
    | none => ""
    | some csv => if MeetsFloor (csvVersion csv) then "" else reasonGPUOperatorVersionUnsupported

theorem gpuOperatorVersion_eq (csvs : List Json) (policy : Json) :
    ∃ version source, gpuOperatorVersion (.ok csvs) (some policy) = .ok (version, source) ∧
      version.getD "" = operatorVersion policy (csvs.find? isGPUOperatorCSV) := by
  unfold gpuOperatorVersion operatorVersion
  dsimp only [clusterServiceVersionGPUOperatorVersion]
  split_ifs with hlabel
  · exact ⟨_, _, rfl, rfl⟩
  · cases csvs.find? isGPUOperatorCSV with
    | none => exact ⟨_, _, rfl, rfl⟩
    | some csv => exact ⟨_, _, rfl, rfl⟩

open Classical in
theorem operatorGate_reason (version source message : String) :
    (if gpuOperatorVersionFailureMessage version source ≠ "" then
        (.ok (reasonGPUOperatorVersionUnsupported, message) : Except String (String × String))
      else .ok ("", "")).map Prod.fst =
      .ok (if MeetsFloor version then "" else reasonGPUOperatorVersionUnsupported) := by
  have hgate := gpuOperatorVersionFailureMessage_eq_empty_iff version source
  by_cases hmeets : MeetsFloor version
  · rw [if_pos hmeets, if_neg (not_not.mpr (hgate.mpr hmeets))]
    rfl
  · rw [if_neg hmeets, if_pos (mt hgate.mp hmeets)]
    rfl

/-- The gates give that reason, and look at the first ClusterServiceVersion that matches. -/
theorem versionFailure_reason {c : GpuOperatorDependencyChecker}
    (hskip : c.skipVersionChecks = false) (csvs : List Json) (ctxDone : Bool)
    (policy : Option Json) :
    (c.versionFailure (.ok csvs) ctxDone policy).map Prod.fst =
      .ok (gateReason policy (csvs.find? isGPUOperatorCSV)) := by
  unfold GpuOperatorDependencyChecker.versionFailure gateReason
  simp only [hskip, Bool.false_eq_true, if_false]
  cases policy with
  | none =>
    dsimp only [gpuOperatorVersion, clusterServiceVersionGPUOperatorVersion]
    cases csvs.find? isGPUOperatorCSV with
    | none => rfl
    | some csv => exact operatorGate_reason _ _ _
  | some policy =>
    have hverdict : OperandVerdict policy gpuOperandRequirements [] _ :=
      gpuOperandVersionFailureMessage_spec gpuOperandRequirements_floors []
    dsimp only
    generalize gpuOperandVersionFailureMessage policy gpuOperandRequirements [] = result
      at hverdict ⊢
    rcases hverdict with ⟨hold, hmsg⟩ | ⟨hnone, rfl⟩
    · rw [if_pos hold, if_pos hmsg]
      rfl
    · have hnew : ¬ ∃ operand ∈ gpuOperandRequirements, operand.TooOld policy := by
        rintro ⟨operand, hoperand, hold⟩
        exact hnone operand hoperand hold
      have hunset : ([] : List String) ++ (gpuOperandRequirements.filter fun operand =>
          operand.pinned policy = "").map (·.name) = [] ↔
            ∀ operand ∈ gpuOperandRequirements, operand.pinned policy ≠ "" := by
        simp [List.filter_eq_nil_iff]
      rw [if_neg hnew, if_neg (not_not.mpr rfl)]
      by_cases hall : ∀ operand ∈ gpuOperandRequirements, operand.pinned policy ≠ ""
      · rw [if_pos hall, if_pos (hunset.mpr hall)]
        rfl
      · obtain ⟨version, source, hversion, hsame⟩ := gpuOperatorVersion_eq csvs policy
        rw [if_neg hall, if_neg (mt hunset.mp hall), hversion, ← hsame]
        exact operatorGate_reason _ _ _

/-- With at most one matching ClusterServiceVersion: a pinned operand below its minimum is
reported, whatever its suffix; an operand that is left unset makes the GPU Operator's version
count; nothing else is reported. -/
theorem versionFailure_verdict {c : GpuOperatorDependencyChecker}
    (hskip : c.skipVersionChecks = false) (policy : Json) {csvs : List Json} {entry : Option Json}
    (hentry : csvs.filter isGPUOperatorCSV = entry.toList) (ctxDone : Bool) :
    ∃ reason message, c.versionFailure (.ok csvs) ctxDone (some policy) = .ok (reason, message) ∧
      (reason = reasonGPUOperandVersionUnsupported ↔
        ∃ operand ∈ gpuOperandRequirements, operand.TooOld policy) ∧
      (reason = reasonGPUOperatorVersionUnsupported ↔
        (¬ ∃ operand ∈ gpuOperandRequirements, operand.TooOld policy) ∧
          (∃ operand ∈ gpuOperandRequirements, operand.pinned policy = "") ∧
          ¬ MeetsFloor (operatorVersion policy entry)) ∧
      (reason = "" ↔
        (¬ ∃ operand ∈ gpuOperandRequirements, operand.TooOld policy) ∧
          ((∃ operand ∈ gpuOperandRequirements, operand.pinned policy = "") →
            MeetsFloor (operatorVersion policy entry))) := by
  have hfind : csvs.find? isGPUOperatorCSV = entry := by
    rw [← List.head?_filter, hentry]
    cases entry <;> rfl
  have hreason := versionFailure_reason hskip csvs ctxDone (some policy)
  rw [hfind] at hreason
  cases hfailure : c.versionFailure (.ok csvs) ctxDone (some policy) with
  | error err =>
    rw [hfailure] at hreason
    cases hreason
  | ok failure =>
    obtain ⟨reason, message⟩ := failure
    rw [hfailure] at hreason
    have hgiven : reason = gateReason (some policy) entry := Except.ok.inj hreason
    have hunset : (∃ operand ∈ gpuOperandRequirements, operand.pinned policy = "") ↔
        ¬ ∀ operand ∈ gpuOperandRequirements, operand.pinned policy ≠ "" := by
      push Not
      rfl
    have hne : reasonGPUOperandVersionUnsupported ≠ reasonGPUOperatorVersionUnsupported := by decide
    have hoperand : reasonGPUOperandVersionUnsupported ≠ "" := by decide
    have hoperator : reasonGPUOperatorVersionUnsupported ≠ "" := by decide
    refine ⟨reason, message, rfl, ?_⟩
    rw [hgiven, hunset]
    unfold gateReason
    dsimp only
    split_ifs with hold hall hmeets
    · exact ⟨iff_of_true rfl hold, iff_of_false hne fun h => h.1 hold,
        iff_of_false hoperand fun h => h.1 hold⟩
    · exact ⟨iff_of_false hoperand.symm hold, iff_of_false hoperator.symm fun h => h.2.1 hall,
        iff_of_true rfl ⟨hold, fun hsome => absurd hall hsome⟩⟩
    · exact ⟨iff_of_false hoperand.symm hold, iff_of_false hoperator.symm fun h => h.2.2 hmeets,
        iff_of_true rfl ⟨hold, fun _ => hmeets⟩⟩
    · exact ⟨iff_of_false hne.symm hold, iff_of_true rfl ⟨hold, hall, hmeets⟩,
        iff_of_false hoperator fun h => hmeets (h.2 hall)⟩

/-- A ClusterServiceVersion of the GPU Operator, with no provider named. -/
def sampleCSV (name version : String) : Json :=
  .object [("metadata", .object [("name", .string name)]),
    ("spec", .object [("version", .string version)])]

def sampleChecker : GpuOperatorDependencyChecker := ⟨false, "gpu-fractioning"⟩

/-- A ClusterPolicy with this version of the container toolkit and no other. -/
def toolkitPolicy (version : String) : Json :=
  .object [("spec", .object [("toolkit", .object [("version", .string version)])])]

/-- The toolkit meets its minimum with a suffix, and the device plugin is left to the GPU
Operator. -/
theorem versionFailure_verdict_suffixed :
    let csv := sampleCSV "gpu-operator" "v26.7-rc1"
    let policy := toolkitPolicy "v1.20.1-ubuntu20.04"
    sampleChecker.skipVersionChecks = false ∧
      [csv].filter isGPUOperatorCSV = (some csv).toList ∧
      ∃ reason message,
        sampleChecker.versionFailure (.ok [csv]) false (some policy) = .ok (reason, message) ∧
        (reason = reasonGPUOperandVersionUnsupported ↔
          ∃ operand ∈ gpuOperandRequirements, operand.TooOld policy) ∧
        (reason = reasonGPUOperatorVersionUnsupported ↔
          (¬ ∃ operand ∈ gpuOperandRequirements, operand.TooOld policy) ∧
            (∃ operand ∈ gpuOperandRequirements, operand.pinned policy = "") ∧
            ¬ MeetsFloor (operatorVersion policy (some csv))) ∧
        (reason = "" ↔
          (¬ ∃ operand ∈ gpuOperandRequirements, operand.TooOld policy) ∧
            ((∃ operand ∈ gpuOperandRequirements, operand.pinned policy = "") →
              MeetsFloor (operatorVersion policy (some csv)))) :=
  ⟨rfl, rfl, versionFailure_verdict rfl (toolkitPolicy "v1.20.1-ubuntu20.04") rfl false⟩

/-- White space around a pinned version is dropped before it is read: the text as it stands is no
numeric core, and the operand is reported all the same. -/
theorem padded_operand_reported :
    (∀ operand ∈ gpuOperandRequirements, ∀ numbers,
      ¬ NumericCore (splitSemverSuffix
        (((toolkitPolicy " v1.0.0").nestedString operand.specPath).getD "")).1 numbers) ∧
      (sampleChecker.versionFailure (.ok []) false (some (toolkitPolicy " v1.0.0"))).map Prod.fst =
        .ok reasonGPUOperandVersionUnsupported := by
  refine ⟨?_, rfl⟩
  intro operand hoperand numbers hcore
  obtain ⟨p, hp, -⟩ := (numericCore_iff_parse (splitSemverSuffix_suffixFree _)).mp hcore
  rcases List.mem_pair.mp hoperand with rfl | rfl
  · have hnone : Semver.parse (withLeadingV (splitSemverSuffix " v1.0.0").1) = none := by decide
    exact absurd (hnone.symm.trans hp) (by simp)
  · have hnone : Semver.parse (withLeadingV (splitSemverSuffix "").1) = none := by decide
    exact absurd (hnone.symm.trans hp) (by simp)

/-- The ClusterPolicy leaves nothing to a ClusterServiceVersion. -/
def SettledByPolicy (policy : Option Json) : Prop :=
  ∃ p, policy = some p ∧
    ((∃ operand ∈ gpuOperandRequirements, operand.TooOld p) ∨
      (∀ operand ∈ gpuOperandRequirements, operand.pinned p ≠ "") ∨
      gpuOperatorVersionFromClusterPolicy p ≠ "")

theorem gateReason_of_settled {policy : Option Json} (h : SettledByPolicy policy)
    (csv csv' : Option Json) : gateReason policy csv = gateReason policy csv' := by
  obtain ⟨p, rfl, hold | hall | hlabel⟩ := h
  · simp only [gateReason, if_pos hold]
  · simp only [gateReason, if_pos hall]
  · have hversion : operatorVersion p csv = operatorVersion p csv' :=
      (if_pos hlabel).trans (if_pos hlabel).symm
    unfold gateReason
    dsimp only
    rw [hversion]

open Classical in
theorem gateReason_of_not_settled {policy : Option Json} (h : ¬ SettledByPolicy policy)
    (csv : Json) :
    gateReason policy (some csv) =
      if MeetsFloor (csvVersion csv) then "" else reasonGPUOperatorVersionUnsupported := by
  cases policy with
  | none => rfl
  | some p =>
    have hold : ¬ ∃ operand ∈ gpuOperandRequirements, operand.TooOld p :=
      fun hold => h ⟨p, rfl, .inl hold⟩
    have hall : ¬ ∀ operand ∈ gpuOperandRequirements, operand.pinned p ≠ "" :=
      fun hall => h ⟨p, rfl, .inr (.inl hall)⟩
    have hlabel : ¬ gpuOperatorVersionFromClusterPolicy p ≠ "" :=
      fun hlabel => h ⟨p, rfl, .inr (.inr hlabel)⟩
    simp only [gateReason, if_neg hold, if_neg hall, operatorVersion, if_neg hlabel,
      Option.map_some, Option.getD_some]

/-- Any object that matches comes first in some order. -/
theorem exists_perm_find? {csvs : List Json} {csv : Json} (hmem : csv ∈ csvs)
    (hmatch : isGPUOperatorCSV csv = true) :
    ∃ csvs' : List Json, csvs'.Perm csvs ∧ csvs'.find? isGPUOperatorCSV = some csv := by
  obtain ⟨before, after, rfl⟩ := List.append_of_mem hmem
  exact ⟨csv :: (before ++ after), List.perm_middle.symm, List.find?_cons_of_pos hmatch⟩

theorem find?_eq_none_of_perm {csvs csvs' : List Json} (hperm : csvs'.Perm csvs)
    (hnone : csvs.find? isGPUOperatorCSV = none) : csvs'.find? isGPUOperatorCSV = none := by
  rw [List.find?_eq_none] at hnone ⊢
  intro csv hcsv
  exact hnone csv (hperm.subset hcsv)

/-- Where the ClusterPolicy leaves it open, the order matters unless all that match are on one
side of the minimum. -/
theorem gateReason_order_free_iff {policy : Option Json} (h : ¬ SettledByPolicy policy)
    (csvs : List Json) :
    (∀ csvs' : List Json, csvs'.Perm csvs →
        gateReason policy (csvs'.find? isGPUOperatorCSV) =
          gateReason policy (csvs.find? isGPUOperatorCSV)) ↔
      ∀ csv ∈ csvs, ∀ csv' ∈ csvs, isGPUOperatorCSV csv = true → isGPUOperatorCSV csv' = true →
        (MeetsFloor (csvVersion csv) ↔ MeetsFloor (csvVersion csv')) := by
  constructor
  · intro hfree csv hcsv csv' hcsv' hmatch hmatch'
    obtain ⟨l, hl, hfirst⟩ := exists_perm_find? hcsv hmatch
    obtain ⟨l', hl', hfirst'⟩ := exists_perm_find? hcsv' hmatch'
    have hsame := (hfree l hl).trans (hfree l' hl').symm
    rw [hfirst, hfirst', gateReason_of_not_settled h, gateReason_of_not_settled h] at hsame
    have hreason : reasonGPUOperatorVersionUnsupported ≠ "" := by decide
    split_ifs at hsame with hmeets hmeets' hmeets'
    · exact iff_of_true hmeets hmeets'
    · exact absurd hsame.symm hreason
    · exact absurd hsame hreason
    · exact iff_of_false hmeets hmeets'
  · intro hagree csvs' hperm
    cases hfirst : csvs.find? isGPUOperatorCSV with
    | none => rw [find?_eq_none_of_perm hperm hfirst]
    | some csv =>
      cases hfirst' : csvs'.find? isGPUOperatorCSV with
      | none =>
        rw [find?_eq_none_of_perm hperm.symm hfirst'] at hfirst
        cases hfirst
      | some csv' =>
        have hiff := hagree csv' (hperm.subset (List.mem_of_find?_eq_some hfirst')) csv
          (List.mem_of_find?_eq_some hfirst) (List.find?_some hfirst') (List.find?_some hfirst)
        rw [gateReason_of_not_settled h, gateReason_of_not_settled h]
        classical exact if_congr hiff rfl rfl

/-- The reason does not depend on the order exactly when the checks are off, the ClusterPolicy
settles the matter, or all ClusterServiceVersions that match are on one side of the minimum. -/
theorem versionFailure_order_free_iff (c : GpuOperatorDependencyChecker) (ctxDone : Bool)
    (policy : Option Json) (csvs : List Json) :
    (∀ csvs' : List Json, csvs'.Perm csvs →
        (c.versionFailure (.ok csvs') ctxDone policy).map Prod.fst =
          (c.versionFailure (.ok csvs) ctxDone policy).map Prod.fst) ↔
      c.skipVersionChecks = true ∨ SettledByPolicy policy ∨
        ∀ csv ∈ csvs, ∀ csv' ∈ csvs, isGPUOperatorCSV csv = true → isGPUOperatorCSV csv' = true →
          (MeetsFloor (csvVersion csv) ↔ MeetsFloor (csvVersion csv')) := by
  cases hskip : c.skipVersionChecks with
  | true =>
    have hoff : ∀ list, c.versionFailure (.ok list) ctxDone policy = .ok ("", "") := by
      intro list
      simp [GpuOperatorDependencyChecker.versionFailure, hskip]
    simp [hoff]
  | false =>
    simp only [versionFailure_reason hskip, Except.ok.injEq, Bool.false_eq_true, false_or]
    by_cases hsettled : SettledByPolicy policy
    · simp only [hsettled, true_or, iff_true]
      intro csvs' hperm
      exact gateReason_of_settled hsettled _ _
    · simp only [hsettled, false_or]
      exact gateReason_order_free_iff hsettled csvs

/-- During an upgrade an old and a new object coexist; the policy pins no operand and carries no
label. -/
theorem upgrade_reason_depends_on_order :
    let old := sampleCSV "gpu-operator-certified.v26.3.0" "26.3.0"
    let new := sampleCSV "gpu-operator-certified.v26.7.1" "26.7.1"
    isGPUOperatorCSV old = true ∧ isGPUOperatorCSV new = true ∧ [new, old].Perm [old, new] ∧
      (sampleChecker.versionFailure (.ok [old, new]) false (some (.object []))).map Prod.fst =
        .ok reasonGPUOperatorVersionUnsupported ∧
      (sampleChecker.versionFailure (.ok [new, old]) false (some (.object []))).map Prod.fst =
        .ok "" := by
  refine ⟨by decide, by decide, List.Perm.swap _ _ _, rfl, rfl⟩

end Gate

end GpuFractioning.Operator
