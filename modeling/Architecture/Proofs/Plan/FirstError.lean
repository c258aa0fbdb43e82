import Architecture.Proofs.Plan.Registration
import Architecture.Standard

/-!
# Which error is reported

A plan is refused for one error, although several steps may be at fault. Patterns are checked
first, then the policies of the solution, then methods, and the options last; within a
check, the steps count in the order in which they were registered. An error found by one
check is therefore kept when more rules are registered, unless one of these does not pass an
earlier check.
-/

namespace Architecture

section Errors

variable {ε α β : Type}

/-- The error of what has failed. -/
def errorOf? : Except ε α → Option ε
  | .error e => some e
  | .ok _ => none

theorem errorOf?_eq_some_iff {x : Except ε α} {e : ε} : errorOf? x = some e ↔ x = .error e := by
  cases x <;> simp [errorOf?]

/-- What comes second can only fail where what comes first has not. -/
theorem errorOf?_bind (x : Except ε α) (f : α → Except ε β) :
    errorOf? (x >>= f) = (errorOf? x).or (x.toOption.bind fun a => errorOf? (f a)) := by
  cases x <;> rfl

theorem errorOf?_bind_of_forall {f : α → Except ε β} {e? : Option ε}
    (second : ∀ a, errorOf? (f a) = e?) (x : Except ε α) :
    errorOf? (x >>= f) = (errorOf? x).or e? := by
  cases x with
  | error e => rfl
  | ok a => exact second a

theorem errorOf?_mapM_append (f : α → Except ε β) (xs ys : List α) :
    errorOf? ((xs ++ ys).mapM f) = (errorOf? (xs.mapM f)).or (errorOf? (ys.mapM f)) := by
  rw [List.mapM_append]
  apply errorOf?_bind_of_forall
  intro _
  cases ys.mapM f <;> rfl

end Errors

namespace Plan

/-- What is checked when a plan is built. -/
inductive Stage where
  | patterns
  | policies
  | methods
  | options
deriving DecidableEq

namespace Stage

/-- The checks in the order in which they are made. -/
def all : List Stage := [.patterns, .policies, .methods, .options]

def before (stage : Stage) : List Stage := all.takeWhile (· ≠ stage)

theorem findSome?_all {α : Type} (f : Stage → Option α) :
    all.findSome? f = (f .patterns).or ((f .policies).or ((f .methods).or (f .options))) := by
  simp only [all, List.findSome?_cons, List.findSome?_nil]
  cases f .patterns <;> cases f .policies <;> cases f .methods <;> cases f .options <;> rfl

theorem exists_all_eq (stage : Stage) : ∃ after, all = stage.before ++ stage :: after := by
  cases stage <;> exact ⟨_, rfl⟩

end Stage

/-- The error that a check of the plan finds. -/
def error? [PatternNotation] (plan : Plan) : Stage → Option SetupError
  | .patterns => plan.errors.head?
  | .policies => errorOf? plan.resolveSolution
  | .methods => errorOf? plan.resolveMethods
  | .options => errorOf? (GeneratedHeuristic.ofOptions plan.options)

/-- The first error that a check finds is the one reported. -/
theorem errorOf?_build [PatternNotation] (plan : Plan) :
    errorOf? plan.build = Stage.all.findSome? plan.error? := by
  have resolved : errorOf? plan.rules =
      (errorOf? plan.resolveSolution).or (errorOf? plan.resolveMethods) := by
    apply errorOf?_bind_of_forall
    intro solution
    cases plan.resolveMethods <;> rfl
  have created : ∀ rules : List Rule,
      errorOf? (Analyzer.create plan.modules plan.underTest (rules.map Rule.validator)
        plan.options) = errorOf? (GeneratedHeuristic.ofOptions plan.options) := by
    intro rules
    rw [Analyzer.create]
    cases GeneratedHeuristic.ofOptions plan.options <;> rfl
  rw [Stage.findSome?_all, build]
  cases unread : plan.errors with
  | cons e rest => simp [error?, unread, errorOf?]
  | nil =>
      have passed : plan.error? .patterns = none := by simp [error?, unread]
      rw [passed, Option.none_or, ← Option.or_assoc]
      simp only [error?, ← resolved]
      exact errorOf?_bind_of_forall created plan.rules

end Plan

namespace Registration

/-- The error that a step brings about at a check, after the steps of a plan. -/
def error? [PatternNotation] (plan : Plan) (step : Registration) : Plan.Stage → Option SetupError
  | .patterns => step.alone.errors.head?
  | .policies => plan.resolveSolution.toOption.bind fun solution =>
      errorOf? (step.alone.solution.foldlM SolutionEntry.apply solution)
  | .methods =>
      errorOf? (step.alone.typeRules.mapM (TypeRule.resolveMethods (.ofModules plan.modules)))
  | .options => none

end Registration

namespace Plan

variable {plan : Plan} {step : Registration} {more : List Registration} {stage : Stage}
  {e : SetupError}

theorem errorOf?_resolveMethods (plan : Plan) :
    errorOf? plan.resolveMethods =
      errorOf? (plan.typeRules.mapM (TypeRule.resolveMethods (.ofModules plan.modules))) := by
  rw [resolveMethods]
  cases plan.typeRules.mapM (TypeRule.resolveMethods (.ofModules plan.modules)) <;> rfl

section Stages

variable [PatternNotation]

theorem settings_register (plan : Plan) (isRule : step.isRule = true) :
    (plan.register step).settings = plan.settings := by
  have settled := settings_registerAll plan [step]
  rwa [List.filter_cons_of_neg (by simp [isRule])] at settled

/-- A rule that is registered adds its error to those that were found before. -/
theorem error?_register (plan : Plan) (isRule : step.isRule = true) (stage : Stage) :
    (plan.register step).error? stage = (plan.error? stage).or (step.error? plan stage) := by
  have settings := settings_register plan isRule
  have modules : (plan.register step).modules = plan.modules :=
    (congrArg Plan.modules settings :)
  have underTest : (plan.register step).underTest = plan.underTest :=
    (congrArg Plan.underTest settings :)
  have options : (plan.register step).options = plan.options :=
    (congrArg Plan.options settings :)
  obtain ⟨_, _, _, typeRules, solution, errors⟩ := register_fields plan step
  cases stage with
  | patterns => rw [error?, errors, List.head?_append, error?, Registration.error?]
  | policies =>
      rw [error?, resolveSolution, solution, underTest, List.foldlM_append, errorOf?_bind]
      rfl
  | methods =>
      rw [error?, error?, Registration.error?, errorOf?_resolveMethods, errorOf?_resolveMethods,
        modules, typeRules, errorOf?_mapM_append]
  | options => rw [error?, options, error?, Registration.error?, Option.or_none]

/-- The first error that steps, one after the other, bring about at a check. -/
def errorIn? (plan : Plan) (stage : Stage) : List Registration → Option SetupError
  | [] => none
  | step :: rest => (step.error? plan stage).or ((plan.register step).errorIn? stage rest)

theorem error?_registerAll (plan : Plan)
    (rules : ∀ step ∈ more, step.isRule = true) (stage : Stage) :
    (plan.registerAll more).error? stage = (plan.error? stage).or (plan.errorIn? stage more) := by
  induction more generalizing plan with
  | nil => rw [errorIn?, Option.or_none, registerAll, List.foldl_nil]
  | cons step rest inductionHypothesis =>
      rw [List.forall_mem_cons] at rules
      have follow := inductionHypothesis (plan.register step) rules.2
      rwa [error?_register plan rules.1, Option.or_assoc] at follow

/-- The check at which building the plan fails, and the error that it finds. -/
structure FailsAt (plan : Plan) (stage : Stage) (e : SetupError) : Prop where
  found : plan.error? stage = some e
  passed : ∀ earlier ∈ stage.before, plan.error? earlier = none

theorem exists_failsAt (refused : plan.build = .error e) :
    ∃ stage, plan.FailsAt stage e := by
  rw [← errorOf?_eq_some_iff, errorOf?_build, Stage.findSome?_all] at refused
  simp only [Option.or_eq_some_iff] at refused
  rcases refused with found | ⟨patterns, found | ⟨policies, found | ⟨methods, found⟩⟩⟩
  · exact ⟨.patterns, found, by simp [Stage.before, Stage.all]⟩
  · exact ⟨.policies, found, by simp [Stage.before, Stage.all, patterns]⟩
  · exact ⟨.methods, found, by simp [Stage.before, Stage.all, patterns, policies]⟩
  · exact ⟨.options, found, by simp [Stage.before, Stage.all, patterns, policies, methods]⟩

/-- More rules leave the error as it is, unless one of them does not pass an earlier check. -/
theorem FailsAt.build_registerAll (failed : plan.FailsAt stage e)
    (rules : ∀ step ∈ more, step.isRule = true) :
    (plan.registerAll more).build =
      .error ((stage.before.findSome? (plan.errorIn? · more)).getD e) := by
  rcases stage.exists_all_eq with ⟨after, split⟩
  -- What an earlier check finds now is due to the new rules, since it found nothing before.
  have earlier : stage.before.findSome? (plan.registerAll more).error? =
      stage.before.findSome? (plan.errorIn? · more) := by
    rw [← List.head?_filterMap, ← List.head?_filterMap]
    congr 1
    apply List.filterMap_congr
    intro other member
    rw [error?_registerAll plan rules, failed.passed other member, Option.none_or]
  have here : (plan.registerAll more).error? stage = some e := by
    rw [error?_registerAll plan rules, failed.found, Option.some_or]
  rw [← errorOf?_eq_some_iff, errorOf?_build, split, List.findSome?_append, earlier,
    List.findSome?_cons, here]
  cases stage.before.findSome? (plan.errorIn? · more) <;> rfl

/-- Rules and settings do not get in each other's way. -/
theorem register_comm (plan : Plan) {setting : Registration}
    (isRule : step.isRule = true) (isSetting : setting.isRule = false) :
    (plan.register step).register setting = (plan.register setting).register step := by
  cases setting with
  | module m | referenceModule m | options o =>
      cases step with
      | isolation direction rule => cases direction <;> rfl
      | forbidModule text => cases compiled : compilePattern text <;> simp [register, compiled]
      | usedOnly | type | solutionModule => rfl
      | module | referenceModule | options => cases isRule
  | isolation | usedOnly | forbidModule | type | solutionModule => cases isSetting

theorem register_registerAll_comm (plan : Plan) {settings : List Registration}
    (isRule : step.isRule = true) (areSettings : ∀ setting ∈ settings, setting.isRule = false) :
    (plan.register step).registerAll settings = (plan.registerAll settings).register step := by
  induction settings generalizing plan with
  | nil => rfl
  | cons setting rest inductionHypothesis =>
      rw [List.forall_mem_cons] at areSettings
      have moved := inductionHypothesis (plan.register setting) areSettings.2
      rwa [← register_comm plan isRule areSettings.1] at moved

/-- It makes no difference if all settings come before all rules. -/
theorem registerAll_eq_settings_rules (plan : Plan) (steps : List Registration) :
    plan.registerAll steps =
      (plan.registerAll (steps.filter (!·.isRule))).registerAll (steps.filter (·.isRule)) := by
  induction steps generalizing plan with
  | nil => rfl
  | cons step rest inductionHypothesis =>
      have follow := inductionHypothesis (plan.register step)
      cases isRule : step.isRule with
      | true =>
          -- The rule is moved behind the settings that come after it.
          have areSettings : ∀ setting ∈ rest.filter (!·.isRule), setting.isRule = false := by
            simp
          rw [register_registerAll_comm plan isRule areSettings] at follow
          simpa [isRule, registerAll] using follow
      | false => simpa [isRule, registerAll] using follow

/-- A check finds the error of the first step that does not pass it. Only the options are a
setting that may not pass. -/
theorem error?_eq_errorIn? (steps : List Registration) (stage : Stage) :
    let plan := ({} : Plan).registerAll steps
    plan.error? stage =
      (plan.settings.error? stage).or (plan.settings.errorIn? stage (steps.filter (·.isRule))) := by
  intro plan
  have areRules : ∀ step ∈ steps.filter (·.isRule), step.isRule = true := by simp
  have settings : plan.settings = ({} : Plan).registerAll (steps.filter (!·.isRule)) :=
    settings_registerAll {} steps
  rw [settings, ← error?_registerAll _ areRules, ← registerAll_eq_settings_rules]

/-- A plan that is refused fails at one check, where the first step that does not pass decides
on the error. More rules change the error exactly if one of them brings about another one at
an earlier check; of several such errors, the first one at the first check is reported. -/
theorem build_error_stable_iff (steps more : List Registration)
    (rules : ∀ step ∈ more, step.isRule = true) (e : SetupError)
    (refused : (({} : Plan).registerAll steps).build = .error e) :
    let plan := ({} : Plan).registerAll steps
    let grown := ({} : Plan).registerAll (steps ++ more)
    (∀ stage, plan.error? stage = (plan.settings.error? stage).or
        (plan.settings.errorIn? stage (steps.filter (·.isRule)))) ∧
      ∃ stage, plan.FailsAt stage e ∧
        grown.build = .error ((stage.before.findSome? (plan.errorIn? · more)).getD e) ∧
        (grown.build = .error e ↔
          ∀ other, stage.before.findSome? (plan.errorIn? · more) = some other → other = e) := by
  intro plan grown
  rcases exists_failsAt refused with ⟨stage, failed⟩
  have continued : grown = plan.registerAll more := List.foldl_append
  have reported := failed.build_registerAll rules
  rw [← continued] at reported
  refine ⟨error?_eq_errorIn? steps, stage, failed, reported, ?_⟩
  rw [reported]
  cases stage.before.findSome? (plan.errorIn? · more) <;> simp

end Stages

/-- A policy for a module that is not there. -/
def strayPolicy : List Registration :=
  [.module Analyzer.serviceModule, .solutionModule { name := "Web", allowed := some ["App"] }]

open scoped Standard

/-- Neither rules that are in order nor a second stray policy or an unknown method make a
difference. -/
theorem build_error_stable_iff_strayPolicy :
    let more : List Registration :=
      [.isolation .inbound { space := "App.Core" }, .forbidModule "Lib@2",
        .solutionModule { name := "Cli", forbidden := some ["App"] },
        .type ⟨some "App", "Missing"⟩ [.method { name := "Run" } []]]
    (∀ step ∈ more, step.isRule = true) ∧
      (({} : Plan).registerAll strayPolicy).build = .error (.outsideSolution "Web") ∧
      (({} : Plan).registerAll (strayPolicy ++ more)).build = .error (.outsideSolution "Web") := by
  intro more
  have rules : ∀ step ∈ more, step.isRule = true := by decide
  have refused : (({} : Plan).registerAll strayPolicy).build = .error (.outsideSolution "Web") :=
    errorOf?_eq_some_iff.mp (by decide +kernel)
  have passed : (({} : Plan).registerAll strayPolicy).errorIn? .patterns more = none := by
    decide +kernel
  rcases build_error_stable_iff strayPolicy more rules _ refused with ⟨_, stage, failed, _, stable⟩
  refine ⟨rules, refused, stable.mpr ?_⟩
  have atPolicies : stage = .policies := by
    cases stage with
    | policies => rfl
    | patterns => exact absurd failed.found (by decide +kernel)
    | methods | options => exact absurd (failed.passed .policies (by decide)) (by decide +kernel)
  subst atPolicies
  intro other found
  simp [Stage.before, Stage.all, passed] at found

/-- A pattern that cannot be read is reported in place of the policy that was refused before it,
and a refused policy in place of an unknown method. -/
theorem build_error_replaced :
    let unknownMethod : List Registration :=
      [.module Analyzer.serviceModule, .type ⟨some "App", "Missing"⟩ [.method { name := "Run" } []]]
    let stray : Registration := .solutionModule { name := "Web", allowed := some ["App"] }
    ((({} : Plan).registerAll strayPolicy).build = .error (.outsideSolution "Web") ∧
      (({} : Plan).registerAll (strayPolicy ++ [.forbidModule "("])).build =
        .error (.invalidPattern "(")) ∧
    (({} : Plan).registerAll unknownMethod).build = .error (.unknownTarget "App.Missing") ∧
      (({} : Plan).registerAll (unknownMethod ++ [stray])).build =
        .error (.outsideSolution "Web") := by
  simp only [← errorOf?_eq_some_iff]
  decide +kernel

end Plan

end Architecture
