import Architecture.Proofs.Analyzer.Evaluation
import Architecture.Standard

/-!
# The verdict of an analysis

A report that leaves stages out has violations already, unless the limit is zero:
then the first stage alone decides whether the modules pass.
-/

namespace Architecture

namespace Analyzer

/-- The validators find nothing. -/
def Clean (ctx : Context) (validators : List Validator) : Prop :=
  ∀ v ∈ validators, v.findings ctx = []

/-- The validators that run in any case. -/
def firstStage (a : Analyzer) : List Validator := a.stages.headD []

/-- Whether the modules pass, on the cache that earlier runs have left. -/
def passes (earlier : List Analyzer) (a : Analyzer) : Bool :=
  (a.shouldBeValid.run (cacheAfter earlier)).1.isOk

theorem findings_eq_nil_iff {ctx : Context} {validators : List Validator} :
    findings ctx validators = [] ↔ Clean ctx validators :=
  List.flatMap_eq_nil_iff

theorem flatten_take_one (stages : List (List Validator)) :
    (stages.take 1).flatten = stages.headD [] := by
  cases stages with
  | nil => rfl
  | cons stage rest => simp

theorem mem_validators_of_mem_firstStage {a : Analyzer} {v : Validator}
    (member : v ∈ a.firstStage) : v ∈ a.validators := by
  rw [firstStage, ← flatten_take_one] at member
  exact mem_of_mem_take_stages member

theorem Clean.firstStage {a : Analyzer} (clean : Clean a.context a.validators) :
    Clean a.context a.firstStage :=
  fun v member => clean v (mem_validators_of_mem_firstStage member)

theorem shouldBeValid_run_cacheAfter (earlier : List Analyzer) (a : Analyzer) :
    (a.shouldBeValid.run (cacheAfter earlier)).1 =
      if a.inquiry.value.isValid then .ok a.inquiry.value else .error a.inquiry.value := by
  rw [← evaluate_run_cacheAfter earlier a]
  rfl

theorem passes_iff (earlier : List Analyzer) (a : Analyzer) :
    passes earlier a = true ↔ a.inquiry.value.violations = [] := by
  rw [passes, shouldBeValid_run_cacheAfter, ← List.isEmpty_iff]
  change _ ↔ a.inquiry.value.isValid = true
  cases a.inquiry.value.isValid with
  | true => simp [Except.isOk, Except.toBool]
  | false => simp [Except.isOk, Except.toBool]

/-- Stages are left out only after violations, if the limit allows any. -/
theorem passes_iff_clean (earlier : List Analyzer) {a : Analyzer}
    (positive : 0 < a.context.options.maxViolations) :
    passes earlier a = true ↔ Clean a.context a.validators := by
  rcases inquiry_staged a with ⟨count, staged⟩
  rw [passes_iff, staged.violations, findings_eq_nil_iff]
  constructor
  · intro clean
    have all : a.stages.length ≤ count := by
      by_contra fewer
      have enough := (staged.stops.reached (by omega)).2
      rw [findings_eq_nil_iff.mpr clean] at enough
      exact absurd enough (by simpa using positive.ne')
    rwa [List.take_of_length_le all, flatten_stages] at clean
  · exact fun clean v member => clean v (mem_of_mem_take_stages member)

/-- Under a limit of zero nothing runs after the first stage. -/
theorem passes_iff_clean_firstStage (earlier : List Analyzer) {a : Analyzer}
    (zero : a.context.options.maxViolations = 0) :
    passes earlier a = true ↔ Clean a.context a.firstStage := by
  rcases inquiry_staged a with ⟨count, staged⟩
  have atMostOne : count ≤ 1 := by
    by_contra more
    have below := staged.stops.first 1 Nat.one_pos (by omega)
    omega
  have sameStages : a.stages.take count = a.stages.take 1 := by
    cases count with
    | zero =>
        have empty : a.stages.length = 0 := by
          by_contra nonempty
          exact absurd (staged.stops.reached (by omega)).1 (Nat.lt_irrefl 0)
        rw [List.length_eq_zero_iff.mp empty]
        rfl
    | succ count => rw [Nat.le_zero.mp (Nat.le_of_succ_le_succ atMostOne)]
  rw [passes_iff, staged.violations, findings_eq_nil_iff, sameStages, flatten_take_one, firstStage]

theorem clean_withLimit {a : Analyzer} {validators : List Validator} (limit : Nat)
    (ignore : ∀ v ∈ validators, v.IgnoresLimit) :
    Clean (a.withLimit limit).context validators ↔ Clean a.context validators := by
  refine forall₂_congr ?_
  intro v member
  have same : v.findings (a.withLimit limit).context = v.findings a.context :=
    (ignore v member).findings_eq a.context limit
  rw [same]

section Limits

variable {a : Analyzer} (earlier : List Analyzer) (ignore : ∀ v ∈ a.validators, v.IgnoresLimit)

include ignore

theorem passes_withLimit_iff_clean {limit : Nat} (positive : 0 < limit) :
    passes earlier (a.withLimit limit) = true ↔ Clean a.context a.validators := by
  have limited : 0 < (a.withLimit limit).context.options.maxViolations := positive
  rw [passes_iff_clean earlier limited]
  exact clean_withLimit limit ignore

theorem passes_withLimit_zero_iff :
    passes earlier (a.withLimit 0) = true ↔ Clean a.context a.firstStage := by
  rw [passes_iff_clean_firstStage earlier (maxViolations_withLimit a 0)]
  exact clean_withLimit 0 fun v member => ignore v (mem_validators_of_mem_firstStage member)

/-- If the first stage stands for all of them, the verdict is the same under every
limit. -/
theorem passes_withLimit_iff_of_firstStage (limit : Nat)
    (extended : Clean a.context a.firstStage → Clean a.context a.validators) :
    passes earlier (a.withLimit limit) = true ↔ Clean a.context a.validators := by
  cases limit with
  | zero =>
      rw [passes_withLimit_zero_iff earlier ignore]
      exact ⟨extended, Clean.firstStage⟩
  | succ limit => exact passes_withLimit_iff_clean earlier ignore (Nat.succ_pos limit)

end Limits

/-- The modules pass exactly when no validator finds anything, unless the limit is
zero and a later stage finds what the first does not. If validators do not look at
the limit, the verdict depends on it in that case only. -/
theorem passes_iff_clean_iff (earlier : List Analyzer) (a : Analyzer) :
    ((passes earlier a = true ↔ Clean a.context a.validators) ↔
        0 < a.context.options.maxViolations ∨
          (Clean a.context a.firstStage → Clean a.context a.validators)) ∧
      ((∀ v ∈ a.validators, v.IgnoresLimit) →
        (∀ limit other, 0 < limit → 0 < other →
          passes earlier (a.withLimit limit) = passes earlier (a.withLimit other)) ∧
        ((∀ limit other,
            passes earlier (a.withLimit limit) = passes earlier (a.withLimit other)) ↔
          (Clean a.context a.firstStage → Clean a.context a.validators))) := by
  constructor
  · by_cases zero : a.context.options.maxViolations = 0
    · rw [passes_iff_clean_firstStage earlier zero]
      constructor
      · exact fun same => .inr same.mp
      · rintro (positive | extended)
        · omega
        · exact ⟨extended, Clean.firstStage⟩
    · have positive := Nat.pos_of_ne_zero zero
      exact iff_of_true (passes_iff_clean earlier positive) (.inl positive)
  · intro ignore
    refine ⟨?_, ?_, ?_⟩
    · intro limit other positive otherPositive
      rw [Bool.eq_iff_iff, passes_withLimit_iff_clean earlier ignore positive,
        passes_withLimit_iff_clean earlier ignore otherPositive]
    · intro independent clean
      rwa [← passes_withLimit_zero_iff earlier ignore, independent 0 1,
        passes_withLimit_iff_clean earlier ignore Nat.one_pos] at clean
    · intro extended limit other
      rw [Bool.eq_iff_iff, passes_withLimit_iff_of_firstStage earlier ignore limit extended,
        passes_withLimit_iff_of_firstStage earlier ignore other extended]

/-- A service that keeps to its namespaces and depends on a type closed to it. -/
def ofSecretService (limit : Nat) : Analyzer where
  context := {
    index := TypeIndex.ofModules [serviceModule]
    options := plainOptions limit
    heuristic := ⟨[], []⟩
    underTest := ["App"] }
  validators := [(Rule.isolations .inbound [{ space := "App.Web" }]).validator,
    (Rule.usedOnly [{ target := ⟨some "App.Core", "Secret"⟩ }]).validator]

/-- The rules of the service do not look at the limit, and yet the verdict depends on
whether it is zero. -/
theorem passes_iff_clean_iff_secretService :
    let a := ofSecretService 0
    (∀ v ∈ a.validators, v.IgnoresLimit) ∧
      (∀ limit other, 0 < limit → 0 < other →
        passes [] (a.withLimit limit) = passes [] (a.withLimit other)) ∧
      ¬ ∀ limit other, passes [] (a.withLimit limit) = passes [] (a.withLimit other) := by
  intro a
  have ignore : ∀ v ∈ a.validators, v.IgnoresLimit := by
    simp only [a, ofSecretService, List.forall_mem_cons]
    exact ⟨Rule.ignoresLimit _, Rule.ignoresLimit _, by simp⟩
  rcases (passes_iff_clean_iff [] a).2 ignore with ⟨positive, independentIff⟩
  refine ⟨ignore, positive, ?_⟩
  rw [independentIff, ← findings_eq_nil_iff, ← findings_eq_nil_iff]
  decide +kernel

open scoped Standard

/-- The service passes under a limit of zero and fails under a limit of one. -/
theorem passes_zeroLimit :
    create [serviceModule] [] (ofSecretService 0).validators (plainOptions 0) =
        .ok (ofSecretService 0) ∧
      passes [] (ofSecretService 0) = true ∧
      ¬ Clean (ofSecretService 0).context (ofSecretService 0).validators ∧
      passes [] (ofSecretService 1) = false := by
  refine ⟨?_, by decide +kernel, ?_, by decide +kernel⟩
  · have created : create [serviceModule] [] (ofSecretService 0).validators (plainOptions 0) =
        .ok { ofSecretService 0 with validators := inOrder (ofSecretService 0).validators } := rfl
    rwa [inOrder, List.mergeSort_of_pairwise (by decide)] at created
  · rw [← findings_eq_nil_iff]
    decide +kernel

end Analyzer

end Architecture
