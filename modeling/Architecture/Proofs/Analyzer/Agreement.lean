import Architecture.Proofs.Analyzer.Evaluation
import Mathlib.Data.List.Forall2
import Mathlib.Data.List.Perm.Basic

/-!
# Reports that agree

Two analyses may list their rules or their types in different orders. If their
validators correspond one by one, and those that correspond find the same violations
up to order, then each stage finds as many violations in one as in the other. The limit
is therefore reached after the same stage, and the reports differ in order only.
-/

namespace Architecture

open List

/-- Reports that differ in nothing but the order of their violations. -/
structure Report.Agrees (report other : Report) : Prop where
  typesChecked : report.typesChecked = other.typesChecked
  rulesEvaluated : report.rulesEvaluated = other.rulesEvaluated
  truncated : report.truncated = other.truncated
  violations : report.violations.Perm other.violations

/-- Validators of one kind that find the same up to order, each in its own context. -/
structure Validator.Matches (ctx other : Context) (v w : Validator) : Prop where
  kind : v.kind = w.kind
  findings : (v.findings ctx).Perm (w.findings other)

namespace Analyzer

variable {ctx other : Context} {validators others : List Validator}

theorem findings_perm (matched : Forall₂ (Validator.Matches ctx other) validators others) :
    (findings ctx validators).Perm (findings other others) := by
  induction matched with
  | nil => exact .refl _
  | cons first _ inductionHypothesis => exact first.findings.append inductionHypothesis

theorem forall₂_byKind (matched : Forall₂ (Validator.Matches ctx other) validators others) :
    Forall₂ (Forall₂ (Validator.Matches ctx other)) (byKind validators) (byKind others) := by
  have ofKind : ∀ kind : RuleKind, Forall₂ (Validator.Matches ctx other)
      (validators.filter (·.kind = kind)) (others.filter (·.kind = kind)) := by
    intro kind
    refine rel_filter ?_ matched
    intro v w pair
    simp [pair.kind]
  refine rel_filter ?_ ?_
  · intro stage later pairs
    simp only [Bool.not_eq_true', isEmpty_eq_false_iff, ← length_pos_iff, pairs.length_eq]
  · rw [forall₂_map_left_iff, forall₂_map_right_iff, forall₂_same]
    exact fun kind _ => ofKind kind

/-- Where the totals after each number of stages are the same, as many stages run. -/
theorem StopsAfter.unique {limit available count more : Nat} {total : Nat → Nat}
    (stops : StopsAfter limit total available count)
    (stopsToo : StopsAfter limit total available more) : count = more :=
  Nat.le_antisymm (stops.mono (Nat.le_refl limit) stopsToo)
    (stopsToo.mono (Nat.le_refl limit) stops)

theorem inquiry_typesChecked (a : Analyzer) :
    a.inquiry.value.typesChecked = a.context.typesUnderTest.length := by
  rcases checkStages_value a.context
    { typesChecked := a.context.typesUnderTest.length } a.stages with ⟨count, _, evaluated⟩
  rw [inquiry, evaluated]

variable {a b : Analyzer}

theorem inquiry_agrees
    (sameTypes : a.context.typesUnderTest.length = b.context.typesUnderTest.length)
    (sameLimit : a.context.options.maxViolations = b.context.options.maxViolations)
    (stages : Forall₂ (Forall₂ (Validator.Matches a.context b.context)) a.stages b.stages) :
    a.inquiry.value.Agrees b.inquiry.value := by
  have upTo : ∀ n, Forall₂ (Validator.Matches a.context b.context)
      (a.stages.take n).flatten (b.stages.take n).flatten :=
    fun n => rel_flatten (forall₂_take n stages)
  rcases inquiry_staged a with ⟨count, staged⟩
  rcases inquiry_staged b with ⟨more, stagedToo⟩
  have stops := staged.stops
  simp only [(findings_perm (upTo _)).length_eq, sameLimit, stages.length_eq] at stops
  have sameCount : count = more := stops.unique stagedToo.stops
  subst more
  refine ⟨?_, ?_, ?_, ?_⟩
  · rw [inquiry_typesChecked, inquiry_typesChecked, sameTypes]
  · rw [staged.rulesEvaluated, stagedToo.rulesEvaluated, (upTo count).length_eq]
  · rw [Bool.eq_iff_iff, staged.truncated, stagedToo.truncated, stages.length_eq]
  · rw [staged.violations, stagedToo.violations]
    exact findings_perm (upTo count)

/-- The validators have no part in the context. -/
theorem create_validators [PatternNotation] {modules : List ModuleDescriptor}
    {underTest : List String} {options : AnalysisOptions}
    (created : create modules underTest validators options = .ok a)
    (others : List Validator) :
    create modules underTest others options = .ok { a with validators := inOrder others } := by
  rcases create_eq_ok_iff.mp created with ⟨heuristic, compiled, rfl⟩
  exact create_eq_ok_iff.mpr ⟨heuristic, compiled, rfl⟩

/-- Analyzers of validators that correspond give reports that agree, whatever ran before
either of them. -/
theorem evaluate_agrees [PatternNotation] (earlier before : List Analyzer)
    {modules reloaded : List ModuleDescriptor} {underTest named : List String}
    {options settings : AnalysisOptions}
    (created : create modules underTest validators options = .ok a)
    (createdToo : create reloaded named others settings = .ok b)
    (sameTypes : a.context.typesUnderTest.length = b.context.typesUnderTest.length)
    (sameLimit : a.context.options.maxViolations = b.context.options.maxViolations)
    (matched : Forall₂ (Validator.Matches a.context b.context) validators others) :
    Report.Agrees (a.evaluate.run (cacheAfter earlier)).1
      (b.evaluate.run (cacheAfter before)).1 := by
  rw [evaluate_run_cacheAfter, evaluate_run_cacheAfter]
  apply inquiry_agrees sameTypes sameLimit
  rw [stages_of_create created, stages_of_create createdToo]
  exact forall₂_byKind matched

end Analyzer

end Architecture
