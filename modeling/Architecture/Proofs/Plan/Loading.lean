import Architecture.Proofs.Plan.Registration
import Architecture.Proofs.Rule.Loading
import Architecture.Standard

/-!
# Modules registered in any order

Steps that load modules leave the rules and options of a plan alone. Plans whose modules
were loaded in different orders, with the types of a module in different orders too, look
up the same types if no two of these share a name. They can then be built alike, and
their reports agree as long as no rule on a namespace was cut off.
-/

namespace Architecture

open Analyzer ModuleDescriptor List

namespace Registration

/-- Whether the step loads a module. -/
def isModule : Registration → Bool
  | .module _ | .referenceModule _ => true
  | _ => false

/-- The names that the step puts under test. -/
def tested : Registration → List String
  | .module m => [m.name]
  | _ => []

/-- Steps that load modules which differ in nothing but the order of their types. -/
inductive LoadsSame : Registration → Registration → Prop where
  | module {m other : ModuleDescriptor} : m.SameButOrder other →
      LoadsSame (.module m) (.module other)
  | referenceModule {m other : ModuleDescriptor} : m.SameButOrder other →
      LoadsSame (.referenceModule m) (.referenceModule other)

/-- The same steps but for the order of the modules, and of the types in each of them. -/
structure Reloads (steps others : List Registration) : Prop where
  rest : steps.filter (!·.isModule) = others.filter (!·.isModule)
  modules : ∃ middle, (steps.filter (·.isModule)).Perm middle ∧
    Forall₂ LoadsSame middle (others.filter (·.isModule))

section Alike

variable {steps others : List Registration}

theorem flatMap_tested (alike : Forall₂ LoadsSame steps others) :
    steps.flatMap tested = others.flatMap tested := by
  induction alike with
  | nil => rfl
  | cons first _ inductionHypothesis =>
      cases first with
      | module same => simp [tested, same.name, inductionHypothesis]
      | referenceModule same => simp [tested, inductionHypothesis]

theorem forall₂_modules [PatternNotation] (alike : Forall₂ LoadsSame steps others) :
    Forall₂ SameButOrder (steps.flatMap fun step => step.alone.modules)
      (others.flatMap fun step => step.alone.modules) := by
  induction alike with
  | nil => exact .nil
  | cons first _ inductionHypothesis =>
      cases first with
      | module same => exact .cons same inductionHypothesis
      | referenceModule same => exact .cons same inductionHypothesis

end Alike

end Registration

namespace Plan

open Registration

/-- The modules of a plan. -/
def loading (plan : Plan) : Plan := { modules := plan.modules, underTest := plan.underTest }

/-- The plan before any module is loaded. -/
def unloaded (plan : Plan) : Plan := { plan with modules := [], underTest := [] }

section Loaded

variable [PatternNotation]

theorem loading_registerAll (plan : Plan) (steps : List Registration) :
    (plan.registerAll steps).loading = plan.loading.registerAll (steps.filter (·.isModule)) := by
  refine registerAll_part ?_ ?_ plan steps
  · intro plan step counted
    cases step with
    | module | referenceModule => rfl
    | options | isolation | usedOnly | forbidModule | type | solutionModule => cases counted
  · intro plan step skipped
    cases step with
    | isolation direction rule => cases direction <;> rfl
    | forbidModule text =>
        cases compiled : compilePattern text <;> simp [loading, register, compiled]
    | options | usedOnly | type | solutionModule => rfl
    | module | referenceModule => cases skipped

theorem unloaded_registerAll (plan : Plan) (steps : List Registration) :
    (plan.registerAll steps).unloaded =
      plan.unloaded.registerAll (steps.filter (!·.isModule)) := by
  refine registerAll_part ?_ ?_ plan steps
  · intro plan step counted
    cases step with
    | isolation direction rule => cases direction <;> rfl
    | forbidModule text =>
        cases compiled : compilePattern text <;> simp [unloaded, register, compiled]
    | options | usedOnly | type | solutionModule => rfl
    | module | referenceModule => cases counted
  · intro plan step skipped
    cases step with
    | module | referenceModule => rfl
    | options | isolation | usedOnly | forbidModule | type | solutionModule => cases skipped

theorem mem_underTest_register (plan : Plan) (step : Registration) (name : String) :
    name ∈ (plan.register step).underTest ↔ name ∈ plan.underTest ∨ name ∈ step.tested := by
  cases step with
  | module m =>
      simp only [register, tested, List.contains_iff_mem, mem_singleton]
      split
      next present =>
        refine ⟨.inl, ?_⟩
        rintro (known | rfl)
        · exact known
        · exact present
      next => simp
  | isolation direction rule => cases direction <;> simp [register, tested]
  | forbidModule text =>
      cases compiled : compilePattern text <;> simp [register, tested, compiled]
  | _ => simp [register, tested]

theorem mem_underTest_registerAll (plan : Plan) (steps : List Registration) (name : String) :
    name ∈ (plan.registerAll steps).underTest ↔
      name ∈ plan.underTest ∨ name ∈ steps.flatMap tested := by
  rw [mem_flatMap]
  exact mem_registerAll_iff (·.underTest) mem_underTest_register plan steps name

/-- Plans that differ in the order of their modules and types only. -/
structure Reloaded (plan other : Plan) : Prop where
  modules : Rearranged plan.modules other.modules
  underTest : ∀ name, name ∈ plan.underTest ↔ name ∈ other.underTest
  unloaded : plan.unloaded = other.unloaded

theorem reloaded_registerAll {steps others : List Registration}
    (reloads : Reloads steps others) :
    (({} : Plan).registerAll steps).Reloaded (({} : Plan).registerAll others) := by
  rcases reloads with ⟨rest, middle, permuted, alike⟩
  have loadedBy : ∀ steps : List Registration, (({} : Plan).registerAll steps).loading =
      ({} : Plan).registerAll (steps.filter (·.isModule)) := loading_registerAll {}
  have modulesOf : ∀ steps : List Registration, (({} : Plan).registerAll steps).modules =
      (steps.filter (·.isModule)).flatMap fun step => step.alone.modules := by
    intro steps
    have same := congrArg Plan.modules (loadedBy steps)
    rwa [accumulates_modules.registerAll] at same
  have namesOf : ∀ (steps : List Registration) (name : String),
      name ∈ (({} : Plan).registerAll steps).underTest ↔
        name ∈ (steps.filter (·.isModule)).flatMap tested := by
    intro steps name
    have same := congrArg Plan.underTest (loadedBy steps)
    rw [show (({} : Plan).registerAll steps).underTest = _ from same, mem_underTest_registerAll]
    simp
  refine ⟨?_, ?_, ?_⟩
  · rw [modulesOf, modulesOf]
    exact ⟨_, permuted.flatMap_right _, forall₂_modules alike⟩
  · intro name
    rw [namesOf, namesOf, (permuted.flatMap_right tested).mem_iff, flatMap_tested alike]
  · rw [unloaded_registerAll, unloaded_registerAll, rest]

end Loaded

end Plan

namespace Analyzer

variable {modules others : List ModuleDescriptor} {underTest named : List String}
  {validators : List Validator} {options : AnalysisOptions} {a : Analyzer}

/-- Modules in another order make for an analyzer that looks at the same in another
order. -/
theorem exists_create_of_rearranged [PatternNotation]
    (created : create modules underTest validators options = .ok a)
    (rearranged : Rearranged modules others)
    (distinct : (TypeIndex.ofModules modules).DistinctNames)
    (sameNames : ∀ name, name ∈ underTest ↔ name ∈ named) :
    ∃ b, create others named validators options = .ok b ∧ a.context.Reloaded b.context := by
  rcases create_eq_ok_iff.mp created with ⟨heuristic, compiled, rfl⟩
  have tested : ∀ name,
      (if underTest.isEmpty then modules.map (·.name) else underTest.eraseDups).contains name =
        (if named.isEmpty then others.map (·.name) else named.eraseDups).contains name := by
    intro name
    have sameEmpty : underTest.isEmpty = named.isEmpty := by
      rw [Bool.eq_iff_iff, List.isEmpty_iff, List.isEmpty_iff, eq_nil_iff_forall_not_mem,
        eq_nil_iff_forall_not_mem]
      exact forall_congr' fun name => not_congr (sameNames name)
    rw [Bool.eq_iff_iff, contains_iff_mem, contains_iff_mem, sameEmpty]
    split
    next => exact rearranged.mem_names_iff name
    next => simpa using sameNames name
  refine ⟨_, create_eq_ok_iff.mpr ⟨heuristic, compiled, rfl⟩,
    TypeIndex.sameLookups_of_rearranged rearranged distinct, ?_, rfl, rfl⟩
  simp only [Context.modulesUnderTest, TypeIndex.modules_ofModules]
  exact rearranged.normalized.filter tested

end Analyzer

/-- What a rule on a namespace finds is also bounded type by type. -/
theorem Isolation.length_check_le (ctx : Context) (d : Direction) (rule : Isolation) :
    (check ctx d rule).value.length ≤ ctx.typesUnderTest.length * ctx.options.perTypeCutoff := by
  have perType : ∀ types : List TypeDescriptor,
      (types.flatMap (rule.contribution ctx d)).length ≤
        types.length * ctx.options.perTypeCutoff := by
    intro types
    induction types with
    | nil => simp
    | cons t rest inductionHypothesis =>
        have first : (rule.contribution ctx d t).length ≤ ctx.options.perTypeCutoff := by
          rw [contribution, length_map, length_take]
          exact Nat.min_le_left _ _
        rw [flatMap_cons, length_append, length_cons, Nat.succ_mul]
        omega
  rw [check_value, length_take]
  have selected := length_filter_le (fun t => rule.selects d t.name.space) ctx.typesUnderTest
  exact (Nat.min_le_right _ _).trans ((perType _).trans (Nat.mul_le_mul_right _ selected))

namespace Plan.Reloaded

variable {plan other : Plan} {a : Analyzer}

theorem resolveSolution_eq (reloaded : plan.Reloaded other) :
    plan.resolveSolution = other.resolveSolution := by
  have sameEntries : plan.solution = other.solution := (congrArg Plan.solution reloaded.unloaded :)
  have sameMembers : Solution.ofModules plan.underTest = Solution.ofModules other.underTest := by
    unfold Solution.ofModules
    rw [sortedDistinct_congr]
    simp [reloaded.underTest]
  rw [resolveSolution, resolveSolution, sameEntries, sameMembers]

theorem resolveMethods_eq (reloaded : plan.Reloaded other)
    (lookups : (TypeIndex.ofModules plan.modules).SameLookups (TypeIndex.ofModules other.modules)) :
    plan.resolveMethods = other.resolveMethods :=
  resolveMethods_congr (congrArg Plan.typeRules reloaded.unloaded :) fun _ _ => lookups.byName _

theorem rules_eq (reloaded : plan.Reloaded other)
    (lookups : (TypeIndex.ofModules plan.modules).SameLookups (TypeIndex.ofModules other.modules)) :
    plan.rules = other.rules := by
  have fromRest : ∀ p : Plan, p.rules = do
      let solution ← p.resolveSolution
      let methods ← p.resolveMethods
      return (p.unloaded.candidates solution methods).filter (!·.isEmpty) := fun _ => rfl
  rw [fromRest, fromRest, reloaded.resolveSolution_eq, reloaded.resolveMethods_eq lookups,
    reloaded.unloaded]

/-- Where one plan can be built, so can the other, and their reports agree. -/
theorem exists_build [PatternNotation] (reloaded : plan.Reloaded other)
    (distinct : (TypeIndex.ofModules plan.modules).DistinctNames) (built : plan.build = .ok a)
    (below : ∀ d, ∀ rule ∈ plan.isolations d,
      (Isolation.check a.context d rule).value.length < a.context.options.perNamespaceCutoff) :
    ∃ b, other.build = .ok b ∧ ∀ earlier before,
      Report.Agrees (a.evaluate.run (cacheAfter earlier)).1
        (b.evaluate.run (cacheAfter before)).1 := by
  rcases build_eq_ok_iff.mp built with ⟨noErrors, rules, resolved, created⟩
  have sameOptions : plan.options = other.options := (congrArg Plan.options reloaded.unloaded :)
  have sameErrors : plan.errors = other.errors := (congrArg Plan.errors reloaded.unloaded :)
  rcases exists_create_of_rearranged created reloaded.modules distinct reloaded.underTest with
    ⟨b, createdToo, contexts⟩
  have lookups := TypeIndex.sameLookups_of_rearranged reloaded.modules distinct
  have resolvedToo := resolved
  rw [reloaded.rules_eq lookups] at resolvedToo
  rw [sameErrors] at noErrors
  rw [sameOptions] at createdToo
  refine ⟨b, build_eq_ok_iff.mpr ⟨noErrors, rules, resolvedToo, createdToo⟩, ?_⟩
  intro earlier before
  apply evaluate_agrees earlier before created createdToo contexts.typesUnderTest.length_eq
    (by rw [contexts.options])
  rw [forall₂_map_left_iff, forall₂_map_right_iff, forall₂_same]
  intro rule member
  apply rule.validator_matches_of_reloaded contexts
  cases rule with
  | isolations d spaces =>
      rcases (isolations_mem_rules_iff resolved d spaces).mp member with ⟨rfl, _⟩
      exact below d
  | _ => exact trivial

end Plan.Reloaded

namespace Plan

open Registration

/-- The order in which modules are loaded, and that of the types in them, matters neither
for whether a plan can be built nor, up to the order of violations, for its report. No two
types may share a name, and no rule on a namespace may reach its cut-off. -/
theorem build_agrees_of_reloads [PatternNotation] (earlier before : List Analyzer)
    {steps others : List Registration} {a : Analyzer} (reloads : Reloads steps others)
    (distinct :
      (TypeIndex.ofModules (({} : Plan).registerAll steps).modules).DistinctNames)
    (built : (({} : Plan).registerAll steps).build = .ok a)
    (below : ∀ d, ∀ rule ∈ (({} : Plan).registerAll steps).isolations d,
      (Isolation.check a.context d rule).value.length < a.context.options.perNamespaceCutoff) :
    ∃ b, (({} : Plan).registerAll others).build = .ok b ∧
      Report.Agrees (a.evaluate.run (cacheAfter earlier)).1
        (b.evaluate.run (cacheAfter before)).1 := by
  rcases (reloaded_registerAll reloads).exists_build distinct built below with
    ⟨b, builtToo, agrees⟩
  exact ⟨b, builtToo, agrees earlier before⟩

/-- Rules on the service and a module of interfaces, which is loaded first. -/
def loadingSteps : List Registration :=
  [.referenceModule TypeIndex.cyclicModule,
    .options { plainOptions 15 with perTypeCutoff := 2 },
    .isolation .inbound { space := "App.Core" },
    .usedOnly { target := ⟨some "App.Core", "Secret"⟩ },
    .module serviceModule,
    .type ⟨some "App.Core", "Secret"⟩ [.record true, .nameMatches "Token"]]

/-- The service loaded first, and the types of both modules in reverse order. -/
def reversedLoadingSteps : List Registration :=
  [.module { serviceModule with types := serviceModule.types.reverse },
    .options { plainOptions 15 with perTypeCutoff := 2 },
    .isolation .inbound { space := "App.Core" },
    .usedOnly { target := ⟨some "App.Core", "Secret"⟩ },
    .type ⟨some "App.Core", "Secret"⟩ [.record true, .nameMatches "Token"],
    .referenceModule
      { TypeIndex.cyclicModule with types := TypeIndex.cyclicModule.types.reverse }]

open scoped Standard

theorem build_agrees_of_reloads_loadingSteps :
    let plan := ({} : Plan).registerAll loadingSteps
    let other := ({} : Plan).registerAll reversedLoadingSteps
    Reloads loadingSteps reversedLoadingSteps ∧
      (TypeIndex.ofModules plan.modules).DistinctNames ∧
      ∃ a, plan.build = .ok a ∧
        (∀ d, ∀ rule ∈ plan.isolations d, (Isolation.check a.context d rule).value.length <
          a.context.options.perNamespaceCutoff) ∧
        ∃ b, other.build = .ok b ∧
          Report.Agrees (a.evaluate.run (cacheAfter [a])).1 (b.evaluate.run (cacheAfter [])).1 := by
  intro plan other
  have reloads : Reloads loadingSteps reversedLoadingSteps := by
    refine ⟨rfl, _, .swap _ _ _, .cons (.module ?_) (.cons (.referenceModule ?_) .nil)⟩
    · exact ⟨rfl, rfl, rfl, (reverse_perm _).symm⟩
    · exact ⟨rfl, rfl, rfl, (reverse_perm _).symm⟩
  have distinct : (TypeIndex.ofModules plan.modules).DistinctNames := by
    unfold TypeIndex.DistinctNames
    decide +kernel
  obtain ⟨a, built⟩ : ∃ a, plan.build = .ok a := ⟨_, rfl⟩
  have below : ∀ d, ∀ rule ∈ plan.isolations d, (Isolation.check a.context d rule).value.length <
      a.context.options.perNamespaceCutoff := by
    intro d rule _
    refine Nat.lt_of_le_of_lt (Isolation.length_check_le a.context d rule) ?_
    rcases build_eq_ok_iff.mp built with ⟨_, rules, _, created⟩
    rcases create_eq_ok_iff.mp created with ⟨heuristic, _, rfl⟩
    simp only [Context.typesUnderTest, Context.modulesUnderTest, TypeIndex.modules_ofModules]
    decide +kernel
  exact ⟨reloads, distinct, a, built, below,
    build_agrees_of_reloads [a] [] reloads distinct built below⟩

end Plan

end Architecture
