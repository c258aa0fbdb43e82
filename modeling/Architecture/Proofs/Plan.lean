import Architecture.Plan
import Architecture.Proofs.Analyzer.Evaluation
import Architecture.Proofs.Rule.Solution

/-!
# Building a plan

A plan that can be built gives an analyzer whose validators are the rules of the
plan. The rules on namespaces make up its first stage, which always runs, so the
violations of this kind in a report are what these rules find.
-/

namespace Architecture

/-- Whether the step registers a rule on a namespace. -/
def Registration.isIsolation : Registration → Bool
  | .isolation _ _ => true
  | _ => false

namespace Plan

variable {plan : Plan} {a : Analyzer} {rules : List Rule}

/-- The rules on namespaces in one direction. -/
def isolations (plan : Plan) : Direction → List Isolation
  | .inbound => plan.inbound
  | .outbound => plan.outbound

theorem mem_push {known : List Isolation} {added rule : Isolation} :
    rule ∈ Isolation.push known added ↔ rule ∈ known ∨ rule = added := by
  unfold Isolation.push
  split
  next present =>
    refine ⟨.inl, ?_⟩
    rintro (member | rfl)
    · exact member
    · exact present
  next => simp

section Registered

variable [PatternNotation]

theorem mem_isolations_register (plan : Plan) (step : Registration) (d : Direction)
    (rule : Isolation) :
    rule ∈ (plan.register step).isolations d ↔
      rule ∈ plan.isolations d ∨ step = .isolation d rule := by
  cases step with
  | isolation direction added =>
      cases direction <;> cases d <;> simp [register, isolations, mem_push, eq_comm]
  | forbidModule text =>
      cases compiled : compilePattern text <;> cases d <;> simp [register, isolations, compiled]
  | _ => cases d <;> simp [register, isolations]

/-- What a list of a plan holds after some steps was in it before or was added by one of them. -/
theorem mem_registerAll_iff {α : Type} (field : Plan → List α) {adds : Registration → α → Prop}
    (each : ∀ plan step x, x ∈ field (plan.register step) ↔ x ∈ field plan ∨ adds step x)
    (plan : Plan) (steps : List Registration) (x : α) :
    x ∈ field (plan.registerAll steps) ↔ x ∈ field plan ∨ ∃ step ∈ steps, adds step x := by
  induction steps generalizing plan with
  | nil => simp [registerAll]
  | cons step rest inductionHypothesis =>
      have next := inductionHypothesis (plan.register step)
      rw [each] at next
      simpa [registerAll, or_assoc] using next

theorem mem_isolations_registerAll (plan : Plan) (steps : List Registration) (d : Direction)
    (rule : Isolation) :
    rule ∈ (plan.registerAll steps).isolations d ↔
      rule ∈ plan.isolations d ∨ .isolation d rule ∈ steps := by
  simpa using mem_registerAll_iff (·.isolations d)
    (fun plan step => mem_isolations_register plan step d) plan steps rule

/-- A plan on which nothing but isolated namespaces was registered has a rule for each of
them in both directions. -/
theorem mem_isolations_of_isolate {steps : List Registration} {spaces : List String}
    (isolated : steps.filter (·.isIsolation) = spaces.flatMap isolate) (d : Direction)
    (rule : Isolation) :
    rule ∈ (({} : Plan).registerAll steps).isolations d ↔ ∃ space ∈ spaces, rule = { space } := by
  have among : .isolation d rule ∈ steps ↔ .isolation d rule ∈ spaces.flatMap isolate := by
    rw [← isolated, List.mem_filter]
    exact (and_iff_left rfl).symm
  rw [mem_isolations_registerAll, among, List.mem_flatMap]
  cases d <;> simp [isolations, isolate]

theorem build_eq_ok_iff :
    plan.build = .ok a ↔ plan.errors = [] ∧ ∃ rules, plan.rules = .ok rules ∧
      Analyzer.create plan.modules plan.underTest (rules.map Rule.validator) plan.options =
        .ok a := by
  unfold build
  cases plan.errors with
  | nil => simp [bind_eq_ok_iff]
  | cons e rest => simp

theorem build_eq_error_iff {e : SetupError} :
    plan.build = .error e ↔ (∃ rest, plan.errors = e :: rest) ∨ plan.errors = [] ∧
      (plan.rules = .error e ∨
        (∃ rules, plan.rules = .ok rules) ∧
          GeneratedHeuristic.ofOptions plan.options = .error e) := by
  unfold build
  cases plan.errors with
  | nil => simp [bind_eq_error_iff, Analyzer.create_eq_error_iff]
  | cons first rest => simp

end Registered

/-- All rules of a plan, with or without anything to check. -/
def candidates (plan : Plan) (solution : Solution) (methods : List MethodMarker) : List Rule :=
  [.isolations .inbound plan.inbound, .isolations .outbound plan.outbound,
    .forbiddenModules plan.forbidden, .solution solution, .usedOnly plan.usedOnly,
    .shapes ((plan.typeRules.map (·.shape)).filter (!·.isEmpty)),
    .methodMarkers (methods.filter (!·.required.isEmpty))]

theorem rules_eq_ok_iff :
    plan.rules = .ok rules ↔ ∃ solution methods, plan.resolveSolution = .ok solution ∧
      plan.resolveMethods = .ok methods ∧
      (plan.candidates solution methods).filter (!·.isEmpty) = rules := by
  simp only [Plan.rules, bind_eq_ok_iff, exists_and_left, candidates]
  simp only [pure, Except.pure, Except.ok.injEq]

/-- Rules on methods look up nothing but their targets. -/
theorem resolveMethods_congr {other : Plan} (sameRules : plan.typeRules = other.typeRules)
    (found : ∀ rule ∈ plan.typeRules,
      (TypeIndex.ofModules plan.modules).find? rule.shape.target =
        (TypeIndex.ofModules other.modules).find? rule.shape.target) :
    plan.resolveMethods = other.resolveMethods := by
  have resolved :
      plan.typeRules.mapM (TypeRule.resolveMethods (TypeIndex.ofModules plan.modules)) =
        plan.typeRules.mapM (TypeRule.resolveMethods (TypeIndex.ofModules other.modules)) := by
    apply mapM_congr
    intro rule member
    simp only [TypeRule.resolveMethods, MethodMarker.resolve, found rule member]
  rw [resolveMethods, resolveMethods, ← sameRules, resolved]

theorem isolations_mem_rules_iff (resolved : plan.rules = .ok rules) (d : Direction)
    (spaces : List Isolation) :
    .isolations d spaces ∈ rules ↔ spaces = plan.isolations d ∧ spaces ≠ [] := by
  rcases rules_eq_ok_iff.mp resolved with ⟨solution, methods, _, _, rfl⟩
  cases d <;> simp [candidates, isolations, Rule.isEmpty]

end Plan

namespace Analyzer

theorem mem_take_byKind_of_namespaces {validators : List Validator} {v : Validator}
    (member : v ∈ validators) (kind : v.kind = .namespaces) {limit count : Nat}
    {total : Nat → Nat} (stops : StopsAfter limit total (byKind validators).length count) :
    v ∈ ((byKind validators).take count).flatten := by
  have vMember : v ∈ validators.filter (·.kind = .namespaces) := by simp [member, kind]
  have nonempty : (!(validators.filter (·.kind = .namespaces)).isEmpty) = true := by
    rw [Bool.not_eq_true', List.isEmpty_eq_false_iff]
    exact List.ne_nil_of_mem vMember
  have first : ∃ rest, byKind validators = validators.filter (·.kind = .namespaces) :: rest := by
    rw [byKind, RuleKind.all, List.map_cons, List.filter_cons, if_pos nonempty]
    exact ⟨_, rfl⟩
  -- The first stage always runs, whatever the limit.
  rcases first with ⟨rest, split⟩
  rw [split] at stops ⊢
  cases count with
  | zero => exact absurd (stops.reached (by simp)).1 (Nat.lt_irrefl 0)
  | succ count => exact List.mem_append_left _ vMember

/-- The violations on namespaces in a report are those that the validators on
namespaces find. -/
theorem mem_violations_namespaces_iff {a : Analyzer} {validators : List Validator}
    {limit count : Nat} {report : Report}
    (staged : Staged limit a.context (byKind validators) report count)
    (ownKind : ∀ v ∈ validators, ∀ found ∈ v.findings a.context, found.kind = v.kind)
    (found : Violation) :
    found ∈ report.violations ∧ found.kind = .namespaces ↔
      ∃ v ∈ validators, v.kind = .namespaces ∧ found ∈ v.findings a.context := by
  rw [staged.violations, findings, List.mem_flatMap]
  constructor
  · rintro ⟨⟨v, taken, member⟩, kind⟩
    have vMember := mem_of_mem_take_byKind taken
    exact ⟨v, vMember, (ownKind v vMember found member).symm.trans kind, member⟩
  · rintro ⟨v, vMember, kind, member⟩
    refine ⟨⟨v, ?_, member⟩, (ownKind v vMember found member).trans kind⟩
    exact mem_take_byKind_of_namespaces vMember kind staged.stops

end Analyzer

namespace Plan

/-- The violations on namespaces in the report of a plan are those that its rules on
namespaces find. -/
theorem mem_violations_namespaces_iff_isolations [PatternNotation] {plan : Plan} {a : Analyzer}
    (earlier : List Analyzer) (built : plan.build = .ok a) (found : Violation) :
    found ∈ (a.evaluate.run (Analyzer.cacheAfter earlier)).1.violations ∧
        found.kind = .namespaces ↔
      ∃ d, ∃ rule ∈ plan.isolations d, found ∈ (Isolation.check a.context d rule).value := by
  rcases build_eq_ok_iff.mp built with ⟨_, rules, resolved, created⟩
  rcases Analyzer.inquiry_staged a with ⟨count, staged⟩
  rw [Analyzer.stages_of_create created] at staged
  have ownKind := Rule.kind_of_mem_findings rules a.context
  have checked : ∀ d, ∀ spaces : List Isolation,
      found ∈ (Rule.isolations d spaces).validator.findings a.context ↔
        ∃ rule ∈ spaces, found ∈ (Isolation.check a.context d rule).value := by
    intro d spaces
    simp [Validator.findings, Rule.validator, Rule.check, Isolation.checkAll_value]
  rw [Analyzer.evaluate_run_cacheAfter,
    Analyzer.mem_violations_namespaces_iff staged ownKind found]
  constructor
  · rintro ⟨v, member, kind, foundMember⟩
    rcases List.mem_map.mp member with ⟨rule, ruleMember, rfl⟩
    cases rule with
    | isolations d spaces =>
        rcases (isolations_mem_rules_iff resolved d spaces).mp ruleMember with ⟨rfl, _⟩
        exact ⟨d, (checked d _).mp foundMember⟩
    | _ => cases kind
  · rintro ⟨d, rule, member, foundMember⟩
    have ruleMember : Rule.isolations d (plan.isolations d) ∈ rules :=
      (isolations_mem_rules_iff resolved d _).mpr ⟨rfl, List.ne_nil_of_mem member⟩
    refine ⟨_, List.mem_map_of_mem ruleMember, ?_, (checked d _).mpr ⟨rule, member, foundMember⟩⟩
    cases d <;> rfl

end Plan

end Architecture
