import Architecture.Proofs.Analyzer.Kinds
import Architecture.Standard

/-!
# What depends on generated code

Only restrictions on dependencies that leave generated dependants alone ask whether a
type is generated. Two analyses that disagree on which types are generated therefore run
the stages before the dependencies alike. What comes later can differ by whether it runs
at all, but not in what it finds.
-/

namespace Architecture

/-- The same context with another idea of what is generated. -/
def Context.withGenerated (ctx : Context) (markers patterns : List String)
    (heuristic : GeneratedHeuristic) : Context :=
  { ctx with
    options := { ctx.options with generatedMarkers := markers, generatedPatterns := patterns }
    heuristic }

/-- The validator finds the same whatever is taken for generated. -/
def Validator.IgnoresGenerated (v : Validator) : Prop :=
  ∀ (ctx : Context) (markers patterns : List String) (heuristic : GeneratedHeuristic),
    v.check (ctx.withGenerated markers patterns heuristic) = v.check ctx

theorem Validator.IgnoresGenerated.findings_eq {v : Validator} (ignore : v.IgnoresGenerated)
    (ctx : Context) (markers patterns : List String) (heuristic : GeneratedHeuristic) :
    v.findings ctx = v.findings (ctx.withGenerated markers patterns heuristic) :=
  congrArg Inquiry.value (ignore ctx markers patterns heuristic).symm

namespace Rule

/-- No part of the rule leaves generated dependants alone. -/
def ChecksGenerated : Rule → Prop
  | .usedOnly rules => ∀ rule ∈ rules, rule.excludeGenerated = false
  | _ => True

theorem checksGenerated_of_kind {rule : Rule} (kind : rule.kind ≠ .dependencies) :
    rule.ChecksGenerated := by
  cases rule with
  | usedOnly rules => exact absurd rfl kind
  | _ => trivial

end Rule

theorem UsedOnly.binding_withGenerated (ctx : Context) (markers patterns : List String)
    (heuristic : GeneratedHeuristic) {rules : List UsedOnly}
    (checked : ∀ rule ∈ rules, rule.excludeGenerated = false) (t : TypeDescriptor)
    (dependency : TypeKey) :
    binding (ctx.withGenerated markers patterns heuristic) rules t dependency =
      binding ctx rules t dependency := by
  have noneExcluded : (rules.filter (covers ctx.index dependency)).any (·.excludeGenerated) =
      false := by
    rw [List.any_eq_false]
    intro rule member
    simp [checked rule (List.mem_of_mem_filter member)]
  unfold binding
  simp only [Context.withGenerated, noneExcluded, Bool.false_and]

theorem Rule.ignoresGenerated {rule : Rule} (checks : rule.ChecksGenerated) :
    rule.validator.IgnoresGenerated := by
  intro ctx markers patterns heuristic
  cases rule with
  | isolations d rules =>
      have checks : Isolation.check (ctx.withGenerated markers patterns heuristic) d =
          Isolation.check ctx d := by
        funext rule
        apply Isolation.scan_congr <;> rfl
      simp only [validator, check, Isolation.checkAll, checks]
  | usedOnly rules =>
      have edges : UsedOnly.checkEdge (ctx.withGenerated markers patterns heuristic) rules =
          UsedOnly.checkEdge ctx rules := by
        funext t dependency
        unfold UsedOnly.checkEdge
        rw [UsedOnly.binding_withGenerated ctx markers patterns heuristic checks]
        rfl
      have types : UsedOnly.checkType (ctx.withGenerated markers patterns heuristic) rules =
          UsedOnly.checkType ctx rules := by
        funext t
        unfold UsedOnly.checkType
        rw [edges]
        rfl
      simp only [validator, check, UsedOnly.check, types]
      rfl
  | forbiddenModules patterns => rfl
  | solution s => rfl
  | shapes rules => rfl
  | methodMarkers rules => rfl

/-- No rule looks at what is generated, except those on dependencies. -/
theorem Rule.ignoresGenerated_of_kind (rules : List Rule) :
    ∀ v ∈ rules.map validator, v.kind ≠ .dependencies → v.IgnoresGenerated := by
  intro v member kind
  obtain ⟨rule, _, rfl⟩ := List.mem_map.mp member
  exact ignoresGenerated (checksGenerated_of_kind kind)

namespace Analyzer

section Created

variable [PatternNotation] {modules : List ModuleDescriptor} {underTest : List String}
  {validators : List Validator} {options : AnalysisOptions} {markers patterns : List String}
  {a b : Analyzer}

theorem withGenerated_of_create (created : create modules underTest validators options = .ok a)
    (createdToo : create modules underTest validators
      { options with generatedMarkers := markers, generatedPatterns := patterns } = .ok b) :
    b.validators = a.validators ∧
      ∃ heuristic, b.context = a.context.withGenerated markers patterns heuristic := by
  obtain ⟨_, _, rfl⟩ := create_eq_ok_iff.mp created
  obtain ⟨heuristic, _, rfl⟩ := create_eq_ok_iff.mp createdToo
  exact ⟨rfl, heuristic, rfl⟩

theorem evaluate_of_create (created : create modules underTest validators options = .ok a)
    (earlier : List Analyzer) :
    (a.evaluate.run (cacheAfter earlier)).1 =
      (checkStages a.context { typesChecked := a.context.typesUnderTest.length }
        (byKind validators)).value := by
  rw [evaluate_run_cacheAfter, inquiry, stages_of_create created]

end Created

/-- What is taken for generated matters for dependencies only. Violations on namespaces and
modules are the same whatever it is. Where no rule leaves generated dependants alone the
whole reports are the same, and where no stage is left out the violations on shapes are. -/
theorem evaluate_generated [PatternNotation] (earlier before : List Analyzer)
    {modules : List ModuleDescriptor} {underTest : List String} {rules : List Rule}
    {options : AnalysisOptions} {markers patterns : List String} {a b : Analyzer}
    (created : create modules underTest (rules.map Rule.validator) options = .ok a)
    (createdToo : create modules underTest (rules.map Rule.validator)
      { options with generatedMarkers := markers, generatedPatterns := patterns } = .ok b) :
    let report := (a.evaluate.run (cacheAfter earlier)).1
    let other := (b.evaluate.run (cacheAfter before)).1
    report.ofKind .namespaces = other.ofKind .namespaces ∧
      report.ofKind .modules = other.ofKind .modules ∧
      ((∀ rule ∈ rules, rule.ChecksGenerated) → report = other) ∧
      (report.truncated = false → other.truncated = false →
        report.ofKind .shapes = other.ofKind .shapes) := by
  intro report other
  have reported : report = a.inquiry.value := evaluate_run_cacheAfter earlier a
  have reportedToo : other = b.inquiry.value := evaluate_run_cacheAfter before b
  obtain ⟨validators, heuristic, context⟩ := withGenerated_of_create created createdToo
  obtain ⟨count, staged⟩ := inquiry_staged a
  obtain ⟨more, stagedToo⟩ := inquiry_staged b
  rw [stages_of_create created, ← reported] at staged
  rw [stages_of_create createdToo, ← reportedToo, context] at stagedToo
  have ownKind := Rule.kind_of_mem_findings rules
  have sameFindings : ∀ v ∈ rules.map Rule.validator, v.kind ≠ .dependencies →
      v.findings a.context = v.findings (a.context.withGenerated markers patterns heuristic) :=
    fun v member kind => (Rule.ignoresGenerated_of_kind rules v member kind).findings_eq ..
  have early : ∀ kind ∈ earlyKinds, report.ofKind kind = other.ofKind kind := by
    intro kind isEarly
    apply ofKind_eq_of_early isEarly rfl _ (ownKind _) (ownKind _) staged stagedToo
    exact fun v member early => sameFindings v member (ne_of_mem_of_not_mem early (by decide))
  refine ⟨early _ (by decide), early _ (by decide), ?_, ?_⟩
  · intro allChecked
    rw [reported, reportedToo]
    apply inquiry_eq validators.symm
    · rw [context]
      rfl
    · rw [context]
      rfl
    · intro v member
      obtain ⟨rule, ruleMember, rfl⟩ :=
        List.mem_map.mp ((mem_validators_of_create created).mp member)
      rw [context]
      exact (Rule.ignoresGenerated (allChecked rule ruleMember)).findings_eq ..
  · apply ofKind_eq_of_whole _ (ownKind _) (ownKind _) staged stagedToo
    exact fun v member kind => sameFindings v member (by simp [kind])

/-- Options under which a service is generated. -/
def generatedServices : AnalysisOptions :=
  { plainOptions 15 with generatedMarkers := [], generatedPatterns := ["^Serv"] }

open scoped Standard

/-- As a generated type the service keeps a rule that it breaks otherwise, and its
namespaces and shapes are judged as before. -/
theorem evaluate_generated_service :
    let validators := serviceRules.map Rule.validator
    ∃ a b, create [serviceModule] [] validators (plainOptions 15) = .ok a ∧
      create [serviceModule] [] validators generatedServices = .ok b ∧
      let report := (a.evaluate.run (cacheAfter [])).1
      let other := (b.evaluate.run (cacheAfter [a])).1
      report.ofKind .dependencies ≠ other.ofKind .dependencies ∧
        report.ofKind .namespaces = other.ofKind .namespaces ∧
        report.ofKind .modules = other.ofKind .modules ∧
        report.truncated = false ∧ other.truncated = false ∧
        report.ofKind .shapes = other.ofKind .shapes := by
  intro validators
  have created : create [serviceModule] [] validators (plainOptions 15) = .ok _ := rfl
  have createdToo : create [serviceModule] [] validators generatedServices = .ok _ := rfl
  refine ⟨_, _, created, createdToo, ?_⟩
  intro report other
  have reported : report = _ := evaluate_of_create created []
  have reportedToo : other = _ := evaluate_of_create createdToo [_]
  obtain ⟨namespaces, modules, _, shapes⟩ := evaluate_generated [] [_] created createdToo
  have whole : report.truncated = false := by
    rw [reported]
    decide +kernel
  have wholeToo : other.truncated = false := by
    rw [reportedToo]
    decide +kernel
  refine ⟨?_, namespaces, modules, whole, wholeToo, shapes whole wholeToo⟩
  rw [reported, reportedToo]
  decide +kernel

end Analyzer

end Architecture
