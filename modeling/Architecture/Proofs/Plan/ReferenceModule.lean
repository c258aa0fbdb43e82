import Architecture.Proofs.Plan.Registration
import Architecture.Proofs.Rule.Lookups
import Architecture.Standard

/-!
# Modules that are only looked up

A module that is loaded for reference is not tested, so the rules on namespaces and
modules do not see it. The other rules can meet its types only under their names. Where
none of these names occurs in what else is loaded, and no rule has one as its target, the
module makes no difference at all: neither to whether the plan can be built, nor to any
part of its report.
-/

namespace Architecture

open Analyzer

variable {front back : List ModuleDescriptor} {m : ModuleDescriptor}

namespace TypeIndex

theorem types_ofModules (modules : List ModuleDescriptor) :
    (ofModules modules).types = modules.flatMap (·.normalized.types) := by
  rw [types, modules_ofModules, List.flatMap_map]

theorem find?_types_insert {p : TypeDescriptor → Bool}
    (unmatched : ∀ t ∈ m.normalized.types, ¬ p t = true) :
    (ofModules (front ++ m :: back)).types.find? p =
      (ofModules (front ++ back)).types.find? p := by
  simp only [types_ofModules, List.flatMap_append, List.flatMap_cons, List.find?_append,
    List.find?_eq_none.mpr unmatched, Option.none_or]

theorem name_mem_of_mem_normalized {t : TypeDescriptor} (member : t ∈ m.normalized.types) :
    t.name ∈ m.types.map (·.name) := by
  rcases List.mem_map.mp member with ⟨u, uMember, rfl⟩
  exact List.mem_map.mpr ⟨u, uMember, rfl⟩

/-- One more module is not seen by lookups of names that its types do not have. -/
theorem agreesOn_insert
    (within : ∀ t ∈ (ofModules (front ++ back)).types, t.Within (· ∉ m.types.map (·.name))) :
    (ofModules (front ++ back)).AgreesOn (· ∉ m.types.map (·.name))
      (ofModules (front ++ m :: back)) where
  byKey := by
    intro k absent
    rw [get?_ofModules, get?_ofModules, find?_types_insert]
    intro t member sameKey
    apply absent
    rw [← of_decide_eq_true sameKey]
    exact name_mem_of_mem_normalized member
  byName := by
    intro n absent
    rw [find?_ofModules, find?_ofModules, find?_types_insert]
    intro t member sameName
    apply absent
    rw [← of_decide_eq_true sameName]
    exact name_mem_of_mem_normalized member
  keyWithin := by
    intro k t found
    rw [get?_ofModules] at found
    exact within t (List.mem_of_find?_eq_some found)
  nameWithin := by
    intro n t found
    rw [find?_ofModules] at found
    exact within t (List.mem_of_find?_eq_some found)

end TypeIndex

namespace Analyzer

variable [PatternNotation] {underTest : List String} {validators others : List Validator}
  {options : AnalysisOptions} {a b : Analyzer}

theorem modulesUnderTest_of_create_insert (tested : underTest ≠ [])
    (untested : m.name ∉ underTest)
    (created : create (front ++ back) underTest validators options = .ok a)
    (createdToo : create (front ++ m :: back) underTest others options = .ok b) :
    a.context.modulesUnderTest = b.context.modulesUnderTest := by
  rcases create_eq_ok_iff.mp created with ⟨_, _, rfl⟩
  rcases create_eq_ok_iff.mp createdToo with ⟨_, _, rfl⟩
  have skipped : m.normalized.name ∉ underTest := untested
  simp [Context.modulesUnderTest, tested, skipped]

theorem agreesOn_of_create_insert
    (within : ∀ t ∈ (TypeIndex.ofModules (front ++ back)).types,
      t.Within (· ∉ m.types.map (·.name)))
    (created : create (front ++ back) underTest validators options = .ok a)
    (createdToo : create (front ++ m :: back) underTest others options = .ok b) :
    a.context.AgreesOn (· ∉ m.types.map (·.name)) b.context := by
  rcases create_eq_ok_iff.mp created with ⟨heuristic, compiled, rfl⟩
  rcases create_eq_ok_iff.mp createdToo with ⟨heuristicToo, compiledToo, rfl⟩
  cases compiled.symm.trans compiledToo
  exact ⟨TypeIndex.agreesOn_insert within, rfl, rfl⟩

end Analyzer

namespace Plan

variable {plan : Plan}

/-- The plan with other modules loaded, of which the same are tested. -/
def withModules (plan : Plan) (modules : List ModuleDescriptor) : Plan := { plan with modules }

section Steps

variable [PatternNotation]

theorem register_withModules (plan : Plan) (modules : List ModuleDescriptor)
    (step : Registration) :
    (plan.withModules modules).register step =
      (plan.register step).withModules (modules ++ step.alone.modules) := by
  cases step with
  | isolation direction rule =>
      cases direction <;> simp [withModules, register, Registration.alone]
  | forbidModule text =>
      cases compiled : compilePattern text <;>
        simp [withModules, register, Registration.alone, compiled]
  | _ => simp [withModules, register, Registration.alone]

theorem registerAll_withModules (plan : Plan) (modules : List ModuleDescriptor)
    (steps : List Registration) :
    (plan.withModules modules).registerAll steps =
      (plan.registerAll steps).withModules
        (modules ++ steps.flatMap fun step => step.alone.modules) := by
  induction steps generalizing plan modules with
  | nil => simp [registerAll, withModules]
  | cons step rest inductionHypothesis =>
      have follow := inductionHypothesis (plan.register step) (modules ++ step.alone.modules)
      rw [← register_withModules, List.append_assoc] at follow
      exact follow

/-- A module that is registered for reference is one more module, and nothing else. -/
theorem exists_withModules_of_referenceModule (steps later : List Registration)
    (m : ModuleDescriptor) :
    let plan := ({} : Plan).registerAll (steps ++ later)
    ∃ front back, plan.modules = front ++ back ∧
      ({} : Plan).registerAll (steps ++ .referenceModule m :: later) =
        plan.withModules (front ++ m :: back) := by
  refine ⟨(({} : Plan).registerAll steps).modules,
    later.flatMap fun step => step.alone.modules, ?_, ?_⟩
  · rw [registerAll, List.foldl_append]
    exact accumulates_modules.registerAll _ later
  · have inserted := registerAll_withModules (({} : Plan).registerAll steps)
      ((({} : Plan).registerAll steps).modules ++ [m]) later
    rw [List.append_assoc, List.singleton_append] at inserted
    rw [registerAll, registerAll, List.foldl_append, List.foldl_append]
    exact inserted

end Steps

/-- The types that rules are about. -/
def targets (plan : Plan) : List TypeName :=
  plan.usedOnly.map (·.target) ++ plan.typeRules.map (·.shape.target)

/-- No type of the module has a name that occurs in a loaded type or is a target. -/
structure Ignores (plan : Plan) (m : ModuleDescriptor) : Prop where
  types : ∀ t ∈ (TypeIndex.ofModules plan.modules).types, t.Within (· ∉ m.types.map (·.name))
  targets : ∀ n ∈ plan.targets, n ∉ m.types.map (·.name)

section Insertion

variable {a b : Analyzer}

theorem resolveMethods_withModules (ignores : plan.Ignores m)
    (split : plan.modules = front ++ back) :
    (plan.withModules (front ++ m :: back)).resolveMethods = plan.resolveMethods := by
  have within := ignores.types
  rw [split] at within
  apply resolveMethods_congr
  · rfl
  · intro rule member
    have isTarget : rule.shape.target ∈ plan.targets :=
      List.mem_append_right _ (List.mem_map.mpr ⟨rule, member, rfl⟩)
    rw [split]
    exact ((TypeIndex.agreesOn_insert within).byName _ (ignores.targets _ isTarget)).symm

theorem rules_withModules (ignores : plan.Ignores m) (split : plan.modules = front ++ back) :
    (plan.withModules (front ++ m :: back)).rules = plan.rules := by
  unfold rules
  rw [resolveMethods_withModules ignores split]
  rfl

/-- Rules on methods are no part of the early stages. -/
theorem stagesOf_early_candidates (plan : Plan) (solution : Solution)
    (methods others : List MethodMarker) :
    stagesOf earlyKinds
        (((plan.candidates solution methods).filter (!·.isEmpty)).map Rule.validator) =
      stagesOf earlyKinds
        (((plan.candidates solution others).filter (!·.isEmpty)).map Rule.validator) := by
  have whatever : ∀ methods, stagesOf earlyKinds
        (((plan.candidates solution methods).filter (!·.isEmpty)).map Rule.validator) =
      stagesOf earlyKinds
        (((plan.candidates solution []).dropLast.filter (!·.isEmpty)).map Rule.validator) := by
    intro methods
    have last : plan.candidates solution methods = (plan.candidates solution []).dropLast ++
      [.methodMarkers (methods.filter (!·.required.isEmpty))] := rfl
    rw [last, List.filter_append, List.map_append]
    apply stagesOf_append
    intro v member
    rcases List.mem_map.mp member with ⟨rule, ruleMember, rfl⟩
    cases List.mem_singleton.mp (List.mem_of_mem_filter ruleMember)
    show RuleKind.shapes ∉ earlyKinds
    decide
  exact (whatever methods).trans (whatever others).symm

theorem early_withModules [PatternNotation] (split : plan.modules = front ++ back)
    (tested : plan.underTest ≠ []) (untested : m.name ∉ plan.underTest) (built : plan.build = .ok a)
    (builtToo : (plan.withModules (front ++ m :: back)).build = .ok b) :
    a.inquiry.value.typesChecked = b.inquiry.value.typesChecked ∧
      ∀ kind ∈ earlyKinds, a.inquiry.value.ofKind kind = b.inquiry.value.ofKind kind := by
  rcases build_eq_ok_iff.mp built with ⟨_, rules, resolved, created⟩
  rcases build_eq_ok_iff.mp builtToo with ⟨_, others, resolvedToo, createdToo⟩
  rw [split] at created
  have sameModules := modulesUnderTest_of_create_insert tested untested created createdToo
  have sameOptions := (options_of_create created).trans (options_of_create createdToo).symm
  rcases inquiry_staged a with ⟨count, staged⟩
  rcases inquiry_staged b with ⟨more, stagedToo⟩
  rw [stages_of_create created] at staged
  rw [stages_of_create createdToo, ← sameOptions] at stagedToo
  constructor
  · rw [inquiry_typesChecked, inquiry_typesChecked, Context.typesUnderTest, Context.typesUnderTest,
      sameModules]
  · intro kind early
    refine ofKind_eq_of_early early ?_ ?_ (Rule.kind_of_mem_findings rules a.context)
      (Rule.kind_of_mem_findings others b.context) staged stagedToo
    · rcases rules_eq_ok_iff.mp resolved with ⟨solution, methods, solved, _, rfl⟩
      rcases rules_eq_ok_iff.mp resolvedToo with ⟨solutionToo, methodsToo, solvedToo, _, rfl⟩
      cases solved.symm.trans solvedToo
      exact stagesOf_early_candidates plan solution methods methodsToo
    · intro v member earlyKind
      rcases List.mem_map.mp member with ⟨rule, _, rfl⟩
      exact Rule.findings_eq_of_early earlyKind sameModules sameOptions

theorem targets_of_mem_rules {rules : List Rule} (resolved : plan.rules = .ok rules) {rule : Rule}
    (member : rule ∈ rules) {n : TypeName} (isTarget : n ∈ rule.targets) : n ∈ plan.targets := by
  rcases rules_eq_ok_iff.mp resolved with ⟨solution, methods, _, _, rfl⟩
  cases rule with
  | usedOnly rules =>
      have registered : rules = plan.usedOnly := by
        simpa [candidates] using List.mem_of_mem_filter member
      subst rules
      exact List.mem_append_left _ isTarget
  | _ => cases isTarget

theorem inquiry_withModules [PatternNotation] (ignores : plan.Ignores m)
    (split : plan.modules = front ++ back)
    (tested : plan.underTest ≠ []) (untested : m.name ∉ plan.underTest)
    (built : plan.build = .ok a)
    (builtToo : (plan.withModules (front ++ m :: back)).build = .ok b) :
    a.inquiry.value = b.inquiry.value := by
  rcases build_eq_ok_iff.mp built with ⟨_, rules, resolved, created⟩
  rcases build_eq_ok_iff.mp builtToo with ⟨_, others, resolvedToo, createdToo⟩
  rw [rules_withModules ignores split] at resolvedToo
  cases resolved.symm.trans resolvedToo
  have within := ignores.types
  rw [split] at created within
  have sameModules := modulesUnderTest_of_create_insert tested untested created createdToo
  have agrees := agreesOn_of_create_insert within created createdToo
  apply inquiry_eq
  · rcases create_eq_ok_iff.mp created with ⟨_, _, rfl⟩
    rcases create_eq_ok_iff.mp createdToo with ⟨_, _, rfl⟩
    rfl
  · rw [agrees.options]
  · rw [Context.typesUnderTest, Context.typesUnderTest, sameModules]
  · intro v member
    rcases List.mem_map.mp ((mem_validators_of_create created).mp member) with
      ⟨rule, ruleMember, rfl⟩
    apply Rule.findings_eq_of_agreesOn agrees sameModules
    · intro t tested
      rcases create_eq_ok_iff.mp created with ⟨_, _, rfl⟩
      rcases List.mem_flatMap.mp tested with ⟨home, homeMember, tMember⟩
      exact within t (List.mem_flatMap.mpr ⟨home, List.mem_of_mem_filter homeMember, tMember⟩)
    · intro n isTarget
      exact ignores.targets n (targets_of_mem_rules resolved ruleMember isTarget)

theorem map_build_withModules [PatternNotation] (ignores : plan.Ignores m)
    (split : plan.modules = front ++ back)
    (tested : plan.underTest ≠ []) (untested : m.name ∉ plan.underTest) :
    plan.build.map (·.inquiry.value) =
      (plan.withModules (front ++ m :: back)).build.map (·.inquiry.value) := by
  cases built : plan.build with
  | ok a =>
      rcases build_eq_ok_iff.mp built with ⟨noErrors, rules, resolved, created⟩
      rcases create_eq_ok_iff.mp created with ⟨heuristic, compiled, _⟩
      have builtToo : (plan.withModules (front ++ m :: back)).build = .ok _ :=
        build_eq_ok_iff.mpr ⟨noErrors, rules, (rules_withModules ignores split).trans resolved,
          create_eq_ok_iff.mpr ⟨heuristic, compiled, rfl⟩⟩
      rw [builtToo]
      exact congrArg Except.ok (inquiry_withModules ignores split tested untested built builtToo)
  | error e =>
      have refused : (plan.withModules (front ++ m :: back)).build = .error e := by
        rw [build_eq_error_iff] at built ⊢
        rwa [rules_withModules ignores split]
      rw [refused]

end Insertion

/-- A module that is registered for reference is only looked up. It is not checked, and the
violations on namespaces and modules are the same as without it. Where no loaded type
mentions one of its types and no rule is about one, the plan is built or refused as
before and the report is the same as a whole. -/
theorem build_of_referenceModule [PatternNotation] (earlier before : List Analyzer)
    (steps later : List Registration) (m : ModuleDescriptor) :
    let plan := ({} : Plan).registerAll (steps ++ later)
    let wider := ({} : Plan).registerAll (steps ++ .referenceModule m :: later)
    plan.underTest ≠ [] → m.name ∉ plan.underTest →
      (∀ a b, plan.build = .ok a → wider.build = .ok b →
        let report := (a.evaluate.run (cacheAfter earlier)).1
        let other := (b.evaluate.run (cacheAfter before)).1
        report.typesChecked = other.typesChecked ∧
          report.ofKind .namespaces = other.ofKind .namespaces ∧
          report.ofKind .modules = other.ofKind .modules) ∧
      (plan.Ignores m →
        plan.build.map (fun a => (a.evaluate.run (cacheAfter earlier)).1) =
          wider.build.map fun b => (b.evaluate.run (cacheAfter before)).1) := by
  intro plan wider tested untested
  rcases exists_withModules_of_referenceModule steps later m with ⟨front, back, split, inserted⟩
  simp only [evaluate_run_cacheAfter]
  constructor
  · intro a b built builtToo
    rw [show wider = _ from inserted] at builtToo
    rcases early_withModules split tested untested built builtToo with ⟨sameTypes, sameKinds⟩
    exact ⟨sameTypes, sameKinds _ (by simp [earlyKinds]), sameKinds _ (by simp [earlyKinds])⟩
  · intro ignores
    rw [show wider = _ from inserted]
    exact map_build_withModules ignores split tested untested

/-- A library of interfaces that the service knows nothing of. -/
def channelModule : ModuleDescriptor := { TypeIndex.cyclicModule with name := "Channels" }

open scoped Standard

theorem build_of_referenceModule_serviceSteps :
    let plan := ({} : Plan).registerAll serviceSteps
    let wider := ({} : Plan).registerAll (.referenceModule channelModule :: serviceSteps)
    plan.underTest ≠ [] ∧ channelModule.name ∉ plan.underTest ∧ plan.Ignores channelModule ∧
      plan.build.isOk = true ∧ wider.build.isOk = true ∧
      ∀ a b, plan.build = .ok a → wider.build = .ok b →
        let report := (a.evaluate.run (cacheAfter [])).1
        let other := (b.evaluate.run (cacheAfter [a])).1
        report.ofKind .namespaces = other.ofKind .namespaces ∧ report = other := by
  intro plan wider
  have tested : plan.underTest ≠ [] := by decide +kernel
  have untested : channelModule.name ∉ plan.underTest := by decide +kernel
  have ignores : plan.Ignores channelModule := by
    constructor
    · unfold TypeDescriptor.Within
      decide +kernel
    · decide +kernel
  refine ⟨tested, untested, ignores, by decide +kernel, by decide +kernel, ?_⟩
  intro a b built builtToo
  rcases build_of_referenceModule [] [a] [] serviceSteps channelModule tested untested with
    ⟨early, whole⟩
  have reports := whole ignores
  rw [List.nil_append, List.nil_append, built, builtToo] at reports
  exact ⟨(early a b built builtToo).2.1, Except.ok.inj reports⟩

end Plan

end Architecture
