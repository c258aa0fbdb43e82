import Architecture.Proofs.Plan.Registration
import Architecture.Proofs.Rule.MethodMarker

/-!
# Plans with something to check

Rules without content are dropped when a plan is built, at several levels: shapes that ask
for nothing, methods that need no marker, policies that nobody has. The invariant here says
that a plan asks for something, and every step with content establishes it. A plan that can
be built has a rule exactly when it asks for something, and an analysis evaluates a rule
exactly when it has one.
-/

namespace Architecture

open Analyzer

/-- The constraint has content. A method that needs no marker has none. -/
def Constraint.Asks : Constraint → Prop
  | .method _ required => required ≠ []
  | _ => True

namespace TypeRule

/-- Something is left of the rule when what is empty is dropped. -/
def HasContent (rule : TypeRule) : Prop :=
  rule.shape.isEmpty = false ∨ ∃ method ∈ rule.methods, method.2 ≠ []

/-- The rule has content, or would have if all its patterns could be read. -/
def Asks (rule : TypeRule) : Prop := rule.errors ≠ [] ∨ rule.HasContent

section Constrained

variable [PatternNotation]

theorem asks_constrain (rule : TypeRule) {c : Constraint} (asks : c.Asks) :
    (rule.constrain c).Asks := by
  cases c with
  | record expected => exact .inr (.inl (by simp [constrain, TypeShape.isEmpty]))
  | nameEndsWith suffix => exact .inr (.inl (by simp [constrain, TypeShape.isEmpty]))
  | nameMatches text | namespaceMatches text =>
      cases compiled : compilePattern text with
      | error e => exact .inl (by simp [constrain, compiled])
      | ok p => exact .inr (.inl (by simp [constrain, compiled, TypeShape.isEmpty]))
  | access level =>
      have listed : (rule.shape.addAccess level).access ≠ [] := by
        unfold TypeShape.addAccess
        by_cases present : level ∈ rule.shape.access
        · simpa [present] using List.ne_nil_of_mem present
        · simp [present]
      exact .inr (.inl (by simp [constrain, TypeShape.isEmpty, listed]))
  | method selector required =>
      exact .inr (.inr ⟨(selector, required), by simp [constrain], asks⟩)

theorem Asks.constrain {rule : TypeRule} (asks : rule.Asks) (c : Constraint) :
    (rule.constrain c).Asks := by
  cases c with
  | method selector required =>
      rcases asks with errors | shape | ⟨method, member, needed⟩
      · exact .inl errors
      · exact .inr (.inl shape)
      · exact .inr (.inr ⟨method, List.mem_append_left _ member, needed⟩)
  | _ => exact asks_constrain rule trivial

theorem asks_foldl {constraints : List Constraint} {rule : TypeRule}
    (asks : rule.Asks ∨ ∃ c ∈ constraints, c.Asks) :
    (constraints.foldl TypeRule.constrain rule).Asks := by
  induction constraints generalizing rule with
  | nil => simpa using asks
  | cons c rest inductionHypothesis =>
      apply inductionHypothesis
      rcases asks with before | ⟨asking, member, asks⟩
      · exact .inl (before.constrain c)
      · rcases List.mem_cons.mp member with rfl | later
        · exact .inl (asks_constrain rule asks)
        · exact .inr ⟨asking, later, asks⟩

end Constrained

end TypeRule

/-- The step registers a rule with content. -/
def Registration.Asks : Registration → Prop
  | .isolation _ _ | .usedOnly _ | .forbidModule _ => True
  | .type _ constraints => ∃ c ∈ constraints, c.Asks
  | .solutionModule entry => entry.policies ≠ []
  | .module _ | .referenceModule _ | .options _ => False

namespace Plan

/-- A rule is left of the plan when what is empty is dropped, or would be if all patterns
could be read. -/
inductive Asks (plan : Plan) : Prop where
  | unreadable (nonempty : plan.errors ≠ [])
  | isolations (d : Direction) (nonempty : plan.isolations d ≠ [])
  | forbidden (nonempty : plan.forbidden ≠ [])
  | usedOnly (nonempty : plan.usedOnly ≠ [])
  | typeRule {rule : TypeRule} (member : rule ∈ plan.typeRules) (content : rule.HasContent)
  | solution {entry : SolutionEntry} (member : entry ∈ plan.solution)
      (nonempty : entry.policies ≠ [])

section Registered

variable [PatternNotation]

theorem Asks.register {plan : Plan} (asks : plan.Asks) (step : Registration) :
    (plan.register step).Asks := by
  cases asks with
  | unreadable nonempty => exact .unreadable (by simp [accumulates_errors plan step, nonempty])
  | isolations d nonempty =>
      obtain ⟨rule, member⟩ := List.exists_mem_of_ne_nil _ nonempty
      have kept := (mem_isolations_register plan step d rule).mpr (.inl member)
      exact .isolations d (List.ne_nil_of_mem kept)
  | forbidden nonempty => exact .forbidden (by simp [accumulates_forbidden plan step, nonempty])
  | usedOnly nonempty => exact .usedOnly (by simp [accumulates_usedOnly plan step, nonempty])
  | typeRule member content =>
      exact .typeRule (by simp [accumulates_typeRules plan step, member]) content
  | solution member nonempty =>
      exact .solution (by simp [accumulates_solution plan step, member]) nonempty

theorem asks_register (plan : Plan) {step : Registration} (asks : step.Asks) :
    (plan.register step).Asks := by
  cases step with
  | isolation d rule =>
      have added := (mem_isolations_register plan (.isolation d rule) d rule).mpr (.inr rfl)
      exact .isolations d (List.ne_nil_of_mem added)
  | usedOnly rule => exact .usedOnly (by simp [register])
  | forbidModule text =>
      cases compiled : compilePattern text with
      | error e => exact .unreadable (by simp [register, compiled])
      | ok p => exact .forbidden (by simp [register, compiled])
  | type target constraints =>
      have asksRule : (TypeRule.ofConstraints target constraints).Asks :=
        TypeRule.asks_foldl (.inr asks)
      rcases asksRule with errors | content
      · exact .unreadable (by simp [register, errors])
      · exact .typeRule (List.mem_append_right _ List.mem_cons_self) content
  | solutionModule entry => exact .solution (by simp [register]) asks
  | module | referenceModule | options => cases asks

/-- A step with content makes itself felt whatever is registered around it. -/
theorem asks_registerAll {steps : List Registration} {plan : Plan}
    (asks : plan.Asks ∨ ∃ step ∈ steps, step.Asks) : (plan.registerAll steps).Asks := by
  induction steps generalizing plan with
  | nil => simpa [registerAll] using asks
  | cons step rest inductionHypothesis =>
      apply inductionHypothesis
      rcases asks with before | ⟨asking, member, asks⟩
      · exact .inl (before.register step)
      · rcases List.mem_cons.mp member with rfl | later
        · exact .inl (asks_register plan asks)
        · exact .inr ⟨asking, later, asks⟩

end Registered

section Building

variable {plan : Plan} {rules : List Rule}

theorem resolve_required {ix : TypeIndex} {target : TypeName} {selector : MethodSelector}
    {required : List TypeName} {marker : MethodMarker}
    (resolved : MethodMarker.resolve ix target selector required = .ok marker) :
    marker.required = required.eraseDups := by
  rcases MethodMarker.resolve_eq_ok_iff.mp resolved with ⟨_, _, _, _, rfl⟩
  rfl

theorem eraseDups_eq_nil_iff {names : List TypeName} : names.eraseDups = [] ↔ names = [] := by
  cases names with
  | nil => simp
  | cons name rest => simp [List.eraseDups_cons]

theorem exists_required_iff {methods : List MethodMarker}
    (resolved : plan.resolveMethods = .ok methods) :
    (∃ marker ∈ methods, marker.required ≠ []) ↔
      ∃ rule ∈ plan.typeRules, ∃ method ∈ rule.methods, method.2 ≠ [] := by
  simp only [resolveMethods, TypeRule.resolveMethods, bind_eq_ok_iff, mapM_eq_ok_iff] at resolved
  obtain ⟨found, perRule, made⟩ := resolved
  cases made
  constructor
  · rintro ⟨marker, member, needed⟩
    obtain ⟨markers, markersMember, member⟩ := List.mem_flatten.mp member
    obtain ⟨rule, ruleMember, ofRule⟩ := exists_left_of_forall₂ perRule markersMember
    obtain ⟨method, methodMember, ofMethod⟩ := exists_left_of_forall₂ ofRule member
    refine ⟨rule, ruleMember, method, methodMember, ?_⟩
    rwa [resolve_required ofMethod, Ne, eraseDups_eq_nil_iff] at needed
  · rintro ⟨rule, ruleMember, method, methodMember, needed⟩
    obtain ⟨markers, markersMember, ofRule⟩ := exists_right_of_forall₂ perRule ruleMember
    obtain ⟨marker, member, ofMethod⟩ := exists_right_of_forall₂ ofRule methodMember
    refine ⟨marker, List.mem_flatten_of_mem markersMember member, ?_⟩
    rwa [resolve_required ofMethod, Ne, eraseDups_eq_nil_iff]

theorem isEmpty_resolveSolution_iff {solution : Solution}
    (resolved : plan.resolveSolution = .ok solution) :
    solution.isEmpty = false ↔ ∃ entry ∈ plan.solution, entry.policies ≠ [] := by
  rw [resolveSolution, foldlM_apply] at resolved
  obtain ⟨_, grants⟩ := (Solution.Grants.ofModules plan.underTest).foldlM resolved
  rw [List.nil_append] at grants
  rw [← Bool.not_eq_true, Solution.isEmpty_iff_stanceFor, not_forall]
  constructor
  · rintro ⟨name, present⟩
    obtain ⟨stance, known⟩ := Option.ne_none_iff_exists'.mp present
    obtain ⟨r, member, _⟩ := (grants.stance name stance).mp known
    obtain ⟨entry, entryMember, requested⟩ := List.mem_flatMap.mp member
    obtain ⟨policy, policyMember, _⟩ := List.mem_map.mp requested
    exact ⟨entry, entryMember, List.ne_nil_of_mem policyMember⟩
  · rintro ⟨entry, entryMember, nonempty⟩
    obtain ⟨policy, policyMember⟩ := List.exists_mem_of_ne_nil _ nonempty
    have requested : (entry.name, policy) ∈ plan.solution.flatMap (·.requests) :=
      List.mem_flatMap.mpr ⟨entry, entryMember, List.mem_map_of_mem policyMember⟩
    have known := (grants.stance _ _).mpr ⟨_, requested, rfl, rfl⟩
    exact ⟨_, Option.ne_none_iff_exists'.mpr ⟨_, known⟩⟩

/-- A plan that can be built has a rule if and only if it asks for something. -/
theorem rules_ne_nil_iff (noErrors : plan.errors = []) (resolved : plan.rules = .ok rules) :
    rules ≠ [] ↔ plan.Asks := by
  obtain ⟨solution, methods, solved, found, rfl⟩ := rules_eq_ok_iff.mp resolved
  have asked : (plan.candidates solution methods).filter (!·.isEmpty) ≠ [] ↔
      ∃ rule ∈ plan.candidates solution methods, rule.isEmpty = false := by
    simp [List.filter_eq_nil_iff]
  rw [asked]
  constructor
  · rintro ⟨rule, member, nonempty⟩
    simp only [candidates, List.mem_cons, List.not_mem_nil, or_false] at member
    rcases member with rfl | rfl | rfl | rfl | rfl | rfl | rfl
    · exact .isolations .inbound (List.isEmpty_eq_false_iff.mp nonempty)
    · exact .isolations .outbound (List.isEmpty_eq_false_iff.mp nonempty)
    · exact .forbidden (List.isEmpty_eq_false_iff.mp nonempty)
    · obtain ⟨entry, member, listed⟩ := (isEmpty_resolveSolution_iff solved).mp nonempty
      exact .solution member listed
    · exact .usedOnly (List.isEmpty_eq_false_iff.mp nonempty)
    · obtain ⟨_, member⟩ := List.isEmpty_eq_false_iff_exists_mem.mp nonempty
      simp only [List.mem_filter, List.mem_map, Bool.not_eq_true'] at member
      obtain ⟨⟨rule, member, rfl⟩, shape⟩ := member
      exact .typeRule member (.inl shape)
    · obtain ⟨marker, member⟩ := List.isEmpty_eq_false_iff_exists_mem.mp nonempty
      obtain ⟨member, needed⟩ := List.mem_filter.mp member
      rcases (exists_required_iff found).mp ⟨marker, member, by simpa using needed⟩ with
        ⟨rule, ruleMember, method⟩
      exact .typeRule ruleMember (.inr method)
  · intro asks
    cases asks with
    | unreadable nonempty => exact absurd noErrors nonempty
    | isolations d nonempty =>
        refine ⟨.isolations d (plan.isolations d), ?_, List.isEmpty_eq_false_iff.mpr nonempty⟩
        cases d <;> simp [candidates, isolations]
    | forbidden nonempty =>
        exact ⟨.forbiddenModules plan.forbidden, by simp [candidates],
          List.isEmpty_eq_false_iff.mpr nonempty⟩
    | usedOnly nonempty =>
        exact ⟨.usedOnly plan.usedOnly, by simp [candidates],
          List.isEmpty_eq_false_iff.mpr nonempty⟩
    | solution member nonempty =>
        exact ⟨.solution solution, by simp [candidates],
          (isEmpty_resolveSolution_iff solved).mpr ⟨_, member, nonempty⟩⟩
    | @typeRule rule member content =>
        rcases content with shape | method
        · refine ⟨.shapes ((plan.typeRules.map (·.shape)).filter (!·.isEmpty)),
            by simp [candidates], ?_⟩
          refine List.isEmpty_eq_false_iff_exists_mem.mpr ⟨rule.shape, ?_⟩
          exact List.mem_filter.mpr ⟨List.mem_map_of_mem member, by simp [shape]⟩
        · refine ⟨.methodMarkers (methods.filter (!·.required.isEmpty)),
            by simp [candidates], ?_⟩
          rcases (exists_required_iff found).mpr ⟨rule, member, method⟩ with
            ⟨marker, markerMember, needed⟩
          refine List.isEmpty_eq_false_iff_exists_mem.mpr ⟨marker, ?_⟩
          exact List.mem_filter.mpr ⟨markerMember, by simp [needed]⟩

theorem validators_ne_nil_iff [PatternNotation] {a : Analyzer} (built : plan.build = .ok a) :
    a.validators ≠ [] ↔ plan.Asks := by
  obtain ⟨noErrors, rules, resolved, created⟩ := build_eq_ok_iff.mp built
  obtain ⟨_, _, rfl⟩ := create_eq_ok_iff.mp created
  rw [← rules_ne_nil_iff noErrors resolved, Ne, ← List.length_eq_zero_iff,
    (inOrder_perm _).length_eq, List.length_map, List.length_eq_zero_iff]

/-- A plan without rules asks for nothing. -/
theorem not_asks_settings (plan : Plan) : ¬ plan.settings.Asks := by
  intro asks
  cases asks with
  | isolations d nonempty => cases d <;> exact nonempty rfl
  | unreadable nonempty | forbidden nonempty | usedOnly nonempty => exact nonempty rfl
  | typeRule member | solution member => cases member

end Building

end Plan

/-- Some rule is evaluated, whatever the limit, if there is one. -/
theorem Analyzer.rulesEvaluated_pos_iff (a : Analyzer) :
    0 < a.inquiry.value.rulesEvaluated ↔ a.validators ≠ [] := by
  obtain ⟨count, staged⟩ := inquiry_staged a
  rw [staged.rulesEvaluated, List.length_pos_iff]
  constructor
  · intro nonempty
    obtain ⟨v, member⟩ := List.exists_mem_of_ne_nil _ nonempty
    exact List.ne_nil_of_mem (mem_of_mem_take_stages member)
  · intro nonempty
    have stops := staged.stops
    rw [← flatten_stages] at nonempty
    cases split : a.stages with
    | nil => exact absurd (by simp [split]) nonempty
    | cons stage rest =>
        have stageMember : stage ∈ a.stages := by simp [split]
        have filled : stage ≠ [] := List.ne_nil_of_mem_splitBy stageMember
        rw [split] at stops
        cases count with
        | zero => exact absurd (stops.reached (by simp)).1 (Nat.lt_irrefl 0)
        | succ count => simp [filled]

end Architecture
