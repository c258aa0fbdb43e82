import Architecture.Proofs.Plan
import Architecture.Proofs.Rule.Reordering
import Architecture.Standard

/-!
# Rules registered in any order

Steps that register rules touch neither the modules nor the options of a plan, and each
of them adds to the rules that are there. Plans whose rules were registered in different
orders therefore hold the same rules, can be built or not alike, and give reports that
agree.
-/

namespace Architecture

open Analyzer

namespace Registration

/-- Whether the step registers a rule. Other steps load modules or set options. -/
def isRule : Registration → Bool
  | .module _ | .referenceModule _ | .options _ => false
  | _ => true

/-- A plan with this step alone. -/
def alone [PatternNotation] (step : Registration) : Plan := ({} : Plan).register step

end Registration

namespace Plan

section Growth

variable [PatternNotation]

/-- A field to which every step adds what it adds to an empty plan. -/
def Accumulates {α : Type} (field : Plan → List α) : Prop :=
  ∀ (plan : Plan) (step : Registration),
    field (plan.register step) = field plan ++ field step.alone

theorem Accumulates.registerAll {α : Type} {field : Plan → List α}
    (accumulates : Accumulates field) (plan : Plan) (steps : List Registration) :
    field (plan.registerAll steps) = field plan ++ steps.flatMap fun step => field step.alone := by
  induction steps generalizing plan with
  | nil => simp [Plan.registerAll]
  | cons step rest inductionHypothesis =>
      have follow := inductionHypothesis (plan.register step)
      rw [accumulates plan step, List.append_assoc] at follow
      simpa [Plan.registerAll] using follow

theorem Accumulates.perm {α : Type} {field : Plan → List α} (accumulates : Accumulates field)
    (plan : Plan) {steps others : List Registration} (reordered : steps.Perm others) :
    (field (plan.registerAll steps)).Perm (field (plan.registerAll others)) := by
  rw [accumulates.registerAll, accumulates.registerAll]
  exact (reordered.flatMap_right _).append_left _

theorem register_fields (plan : Plan) (step : Registration) :
    (plan.register step).modules = plan.modules ++ step.alone.modules ∧
      (plan.register step).forbidden = plan.forbidden ++ step.alone.forbidden ∧
      (plan.register step).usedOnly = plan.usedOnly ++ step.alone.usedOnly ∧
      (plan.register step).typeRules = plan.typeRules ++ step.alone.typeRules ∧
      (plan.register step).solution = plan.solution ++ step.alone.solution ∧
      (plan.register step).errors = plan.errors ++ step.alone.errors := by
  cases step with
  | isolation direction rule => cases direction <;> simp [Registration.alone, register]
  | forbidModule text =>
      cases compiled : compilePattern text <;> simp [Registration.alone, register, compiled]
  | _ => simp [Registration.alone, register]

theorem accumulates_modules : Accumulates (·.modules) :=
  fun plan step => (register_fields plan step).1

theorem accumulates_forbidden : Accumulates (·.forbidden) :=
  fun plan step => (register_fields plan step).2.1

theorem accumulates_usedOnly : Accumulates (·.usedOnly) :=
  fun plan step => (register_fields plan step).2.2.1

theorem accumulates_typeRules : Accumulates (·.typeRules) :=
  fun plan step => (register_fields plan step).2.2.2.1

theorem accumulates_solution : Accumulates (·.solution) :=
  fun plan step => (register_fields plan step).2.2.2.2.1

theorem accumulates_errors : Accumulates (·.errors) :=
  fun plan step => (register_fields plan step).2.2.2.2.2

end Growth

section Isolations

variable {plan : Plan} {d : Direction}

theorem nodup_push {known : List Isolation} (distinct : known.Nodup) (added : Isolation) :
    (Isolation.push known added).Nodup := by
  unfold Isolation.push
  split
  next => exact distinct
  next absent =>
    refine List.nodup_append.mpr ⟨distinct, List.nodup_singleton added, ?_⟩
    intro rule member last isLast same
    rw [same, List.mem_singleton.mp isLast] at member
    exact absent member

theorem nodup_isolations_register [PatternNotation] (distinct : (plan.isolations d).Nodup)
    (step : Registration) :
    ((plan.register step).isolations d).Nodup := by
  cases step with
  | isolation direction rule =>
      cases direction with
      | inbound =>
          cases d with
          | inbound => exact nodup_push distinct rule
          | outbound => exact distinct
      | outbound =>
          cases d with
          | inbound => exact distinct
          | outbound => exact nodup_push distinct rule
  | forbidModule text =>
      cases compiled : compilePattern text <;> cases d <;>
        simpa [register, isolations, compiled] using distinct
  | _ => cases d <;> exact distinct

theorem nodup_isolations_registerAll [PatternNotation] (distinct : (plan.isolations d).Nodup)
    (steps : List Registration) : ((plan.registerAll steps).isolations d).Nodup := by
  induction steps generalizing plan with
  | nil => exact distinct
  | cons step rest inductionHypothesis =>
      exact inductionHypothesis (nodup_isolations_register distinct step)

end Isolations

/-- A part of a plan that only some of the steps touch is what these steps make of it. -/
theorem registerAll_part [PatternNotation] {part : Plan → Plan} {counts : Registration → Bool}
    (added : ∀ plan step, counts step = true →
      part (plan.register step) = (part plan).register step)
    (untouched : ∀ plan step, counts step = false → part (plan.register step) = part plan)
    (plan : Plan) (steps : List Registration) :
    part (plan.registerAll steps) = (part plan).registerAll (steps.filter counts) := by
  induction steps generalizing plan with
  | nil => rfl
  | cons step rest inductionHypothesis =>
      have follow := inductionHypothesis (plan.register step)
      cases counted : counts step with
      | true =>
          rw [List.filter_cons_of_pos counted]
          rwa [added plan step counted] at follow
      | false =>
          rw [List.filter_cons_of_neg (by simp [counted])]
          rwa [untouched plan step counted] at follow

/-- The modules and options of a plan. -/
def settings (plan : Plan) : Plan :=
  { modules := plan.modules, underTest := plan.underTest, options := plan.options }

/-- Steps that register rules make no difference to the settings. -/
theorem settings_registerAll [PatternNotation] (plan : Plan) (steps : List Registration) :
    (plan.registerAll steps).settings =
      plan.settings.registerAll (steps.filter (!·.isRule)) := by
  refine registerAll_part ?_ ?_ plan steps
  · intro plan step counted
    cases step with
    | module | referenceModule | options => rfl
    | isolation | usedOnly | forbidModule | type | solutionModule => cases counted
  · intro plan step skipped
    cases step with
    | isolation direction rule => cases direction <;> rfl
    | forbidModule text =>
        cases compiled : compilePattern text <;> simp [settings, register, compiled]
    | usedOnly | type | solutionModule => rfl
    | module | referenceModule | options => cases skipped

/-- Plans with the same settings and the same rules, these in any order. -/
structure Reordered (plan other : Plan) : Prop where
  settings : plan.settings = other.settings
  isolations : ∀ d, (plan.isolations d).Perm (other.isolations d)
  forbidden : plan.forbidden.Perm other.forbidden
  usedOnly : plan.usedOnly.Perm other.usedOnly
  typeRules : plan.typeRules.Perm other.typeRules
  solution : plan.solution.Perm other.solution
  errors : plan.errors.Perm other.errors

theorem reordered_registerAll [PatternNotation] {steps others : List Registration}
    (settings : steps.filter (!·.isRule) = others.filter (!·.isRule))
    (rules : (steps.filter (·.isRule)).Perm (others.filter (·.isRule))) :
    (({} : Plan).registerAll steps).Reordered (({} : Plan).registerAll others) := by
  have permuted : steps.Perm others := by
    refine (List.filter_append_perm (·.isRule) steps).symm.trans ?_
    rw [settings]
    exact (rules.append_right _).trans (List.filter_append_perm (·.isRule) others)
  refine ⟨?_, ?_, accumulates_forbidden.perm _ permuted,
    accumulates_usedOnly.perm _ permuted, accumulates_typeRules.perm _ permuted,
    accumulates_solution.perm _ permuted, accumulates_errors.perm _ permuted⟩
  · rw [settings_registerAll, settings_registerAll, settings]
  · intro d
    have none : (({} : Plan).isolations d).Nodup := by cases d <;> exact .nil
    rw [List.perm_ext_iff_of_nodup (nodup_isolations_registerAll none steps)
      (nodup_isolations_registerAll none others)]
    intro rule
    rw [mem_isolations_registerAll, mem_isolations_registerAll, permuted.mem_iff]

namespace Reordered

variable {plan other : Plan} {rules : List Rule} {a : Analyzer}

theorem modules (reordered : plan.Reordered other) : plan.modules = other.modules :=
  (congrArg Plan.modules reordered.settings :)

theorem underTest (reordered : plan.Reordered other) : plan.underTest = other.underTest :=
  (congrArg Plan.underTest reordered.settings :)

theorem options (reordered : plan.Reordered other) : plan.options = other.options :=
  (congrArg Plan.options reordered.settings :)

theorem symm (reordered : plan.Reordered other) : other.Reordered plan where
  settings := reordered.settings.symm
  isolations := fun d => (reordered.isolations d).symm
  forbidden := reordered.forbidden.symm
  usedOnly := reordered.usedOnly.symm
  typeRules := reordered.typeRules.symm
  solution := reordered.solution.symm
  errors := reordered.errors.symm

theorem exists_resolveMethods (reordered : plan.Reordered other) {methods : List MethodMarker}
    (resolved : plan.resolveMethods = .ok methods) :
    ∃ others, other.resolveMethods = .ok others ∧ methods.Perm others := by
  simp only [resolveMethods, bind_eq_ok_iff, mapM_eq_ok_iff] at resolved ⊢
  rcases resolved with ⟨found, resolved, made⟩
  cases made
  rcases List.perm_comp_forall₂ reordered.typeRules.symm resolved with
    ⟨foundToo, resolvedToo, permuted⟩
  refine ⟨_, ⟨foundToo, ?_, rfl⟩, permuted.symm.flatten⟩
  rwa [← reordered.modules]

theorem exists_rules (reordered : plan.Reordered other) (resolved : plan.rules = .ok rules) :
    ∃ others, other.rules = .ok others ∧ List.Forall₂ Rule.Reordered rules others := by
  rcases rules_eq_ok_iff.mp resolved with ⟨solution, methods, solved, found, rfl⟩
  unfold resolveSolution at solved
  rw [reordered.underTest] at solved
  rcases exists_agrees_of_perm reordered.solution solved with ⟨solutionToo, solvedToo, agrees⟩
  rcases reordered.exists_resolveMethods found with ⟨methodsToo, foundToo, permuted⟩
  refine ⟨_, rules_eq_ok_iff.mpr ⟨solutionToo, methodsToo, solvedToo, foundToo, rfl⟩, ?_⟩
  have candidates : List.Forall₂ Rule.Reordered (plan.candidates solution methods)
      (other.candidates solutionToo methodsToo) :=
    .cons (.isolations (reordered.isolations .inbound)) <|
    .cons (.isolations (reordered.isolations .outbound)) <|
    .cons (.forbiddenModules reordered.forbidden) <| .cons (.solution agrees) <|
    .cons (.usedOnly reordered.usedOnly) <|
    .cons (.shapes ((reordered.typeRules.map _).filter _)) <|
    .cons (.methodMarkers (permuted.filter _)) .nil
  refine List.rel_filter ?_ candidates
  intro rule ruleToo pair
  simp [pair.isEmpty_eq]

/-- Where one plan can be built, so can the other, and their reports agree. -/
theorem exists_build [PatternNotation] (reordered : plan.Reordered other)
    (built : plan.build = .ok a) :
    ∃ b, other.build = .ok b ∧ ∀ earlier,
      Report.Agrees (a.evaluate.run (cacheAfter earlier)).1
        (b.evaluate.run (cacheAfter earlier)).1 := by
  rcases build_eq_ok_iff.mp built with ⟨noErrors, rules, resolved, created⟩
  rcases reordered.exists_rules resolved with ⟨others, resolvedToo, matched⟩
  have createdToo := create_validators created (others.map Rule.validator)
  rw [reordered.modules, reordered.underTest, reordered.options] at createdToo
  have noErrorsToo : other.errors = [] := List.perm_nil.mp (noErrors ▸ reordered.errors.symm)
  refine ⟨_, build_eq_ok_iff.mpr ⟨noErrorsToo, others, resolvedToo, createdToo⟩, ?_⟩
  intro earlier
  apply evaluate_agrees earlier earlier created createdToo rfl rfl
  rw [List.forall₂_map_left_iff, List.forall₂_map_right_iff]
  exact matched.imp fun _ _ pair => pair.validator_matches _

end Reordered

/-- The order in which rules are registered matters neither for whether a plan can be
built nor, up to the order of violations, for its report. -/
theorem build_agrees_of_reordered [PatternNotation] (earlier : List Analyzer)
    {steps others : List Registration}
    (settings : steps.filter (!·.isRule) = others.filter (!·.isRule))
    (rules : (steps.filter (·.isRule)).Perm (others.filter (·.isRule))) :
    let plan := ({} : Plan).registerAll steps
    let other := ({} : Plan).registerAll others
    plan.build.isOk = other.build.isOk ∧
      ∀ a b, plan.build = .ok a → other.build = .ok b →
        Report.Agrees (a.evaluate.run (cacheAfter earlier)).1
          (b.evaluate.run (cacheAfter earlier)).1 := by
  intro plan other
  have reordered : plan.Reordered other := reordered_registerAll settings rules
  have isOk : ∀ {p q : Plan}, p.Reordered q → p.build.isOk = true → q.build.isOk = true := by
    intro p q reordered ok
    cases built : p.build with
    | error e =>
        rw [built] at ok
        cases ok
    | ok a =>
        rcases reordered.exists_build built with ⟨b, builtToo, _⟩
        rw [builtToo]
        rfl
  constructor
  · rw [Bool.eq_iff_iff]
    exact ⟨isOk reordered, isOk reordered.symm⟩
  · intro a b built builtToo
    rcases reordered.exists_build built with ⟨c, builtAgain, agrees⟩
    cases builtToo.symm.trans builtAgain
    exact agrees earlier

/-- Rules of every family, some of them broken, around the registration of a module. -/
def serviceSteps : List Registration :=
  [.usedOnly { target := ⟨some "App.Core", "Secret"⟩ },
    .options (plainOptions 15),
    .isolation .inbound { space := "App.Core" },
    .module serviceModule,
    .type ⟨some "App.Core", "Secret"⟩ [.record true, .nameMatches "Token"],
    .solutionModule { name := "App", allowed := some ["App"] },
    .isolation .inbound { space := "App.Core" },
    .isolation .outbound { space := "App.Web" },
    .forbidModule "Lib@2"]

/-- The rules in reverse order, with the options and the module where they were. -/
def reversedServiceSteps : List Registration :=
  [.forbidModule "Lib@2",
    .options (plainOptions 15),
    .isolation .outbound { space := "App.Web" },
    .module serviceModule,
    .isolation .inbound { space := "App.Core" },
    .solutionModule { name := "App", allowed := some ["App"] },
    .type ⟨some "App.Core", "Secret"⟩ [.record true, .nameMatches "Token"],
    .isolation .inbound { space := "App.Core" },
    .usedOnly { target := ⟨some "App.Core", "Secret"⟩ }]

open scoped Standard

theorem build_agrees_of_reordered_serviceSteps :
    let plan := ({} : Plan).registerAll serviceSteps
    let other := ({} : Plan).registerAll reversedServiceSteps
    serviceSteps.filter (!·.isRule) = reversedServiceSteps.filter (!·.isRule) ∧
      (serviceSteps.filter (·.isRule)).Perm (reversedServiceSteps.filter (·.isRule)) ∧
      plan.build.isOk = true ∧ other.build.isOk = true ∧
      ∀ a b, plan.build = .ok a → other.build = .ok b →
        Report.Agrees (a.evaluate.run (cacheAfter [a])).1 (b.evaluate.run (cacheAfter [a])).1 := by
  intro plan other
  have settings : serviceSteps.filter (!·.isRule) = reversedServiceSteps.filter (!·.isRule) := rfl
  have rules : (serviceSteps.filter (·.isRule)).Perm (reversedServiceSteps.filter (·.isRule)) :=
    (List.reverse_perm _).symm
  have built : plan.build.isOk = true := by decide +kernel
  have builtToo : other.build.isOk = true := by
    rw [← built]
    exact (build_agrees_of_reordered [] settings rules).1.symm
  refine ⟨settings, rules, built, builtToo, ?_⟩
  exact fun a b => (build_agrees_of_reordered [a] settings rules).2 a b

end Plan

end Architecture
