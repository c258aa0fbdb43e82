import Architecture.Check
import Architecture.Proofs.Analyzer.Verdict
import Architecture.Proofs.Loading
import Architecture.Standard

/-!
# Checks without rules

A check may be asked to fail if there is nothing to check. It then says so exactly when the
configuration declares no rule, since rules that are declared are evaluated.
-/

namespace Architecture

open Analyzer Files

/-- All of a check before its verdict: the configuration as written, and the analyzer. -/
def prepareCheck [Notations] (package : String) (options : CheckOptions) :
    ExceptT CheckFailure (StateM World) (String × Analyzer) := do
  let root ← (projectRoot package : StateM World _)
  let (text, base) ← projectConfig root options
  match Config.parse? text with
  | none => throw .unparsable
  | some config =>
    let project : Project := { text, config := config.orPackage package, base }
    match ← (project.analyzer.run : StateM World _) with
    | .error problem => throw (.project problem)
    | .ok a => return (text, a)

/-- The verdict of a check. -/
def judge (options : CheckOptions) (a : Analyzer) : Except CheckFailure Unit :=
  match (a.shouldBeValid.run {}).1 with
  | .error report => .error (.violated report)
  | .ok report =>
    if options.failOnEmpty && report.rulesEvaluated = 0 then .error .nothingChecked else .ok ()

theorem runCheck_eq [Notations] (package : String) (options : CheckOptions) :
    runCheck package options = (do
      let (_, a) ← prepareCheck package options
      ExceptT.mk (pure (judge options a)) : ExceptT CheckFailure (StateM World) Unit) := by
  unfold runCheck prepareCheck
  simp only [bind_assoc]
  refine bind_congr fun root => bind_congr ?_
  rintro ⟨text, base⟩
  cases Config.parse? text with
  | none => rfl
  | some config =>
      simp only [bind_assoc]
      refine bind_congr ?_
      rintro (problem | a)
      · rfl
      · dsimp only [judge]
        simp only [pure_bind]
        cases (a.shouldBeValid.run {}).1 with
        | error report => rfl
        | ok report =>
            dsimp only
            split
            next => rfl
            next => rfl

theorem isReadOnly_hasWorkspace [Notations] (path : String) :
    IsReadOnly (hasWorkspace path : StateM World _) := by
  refine (IsReadOnly.readText path).bind ?_
  rintro (failure | text)
  · exact .pure _
  · exact .pure _

theorem isReadOnly_projectRoot [Notations] (package : String) :
    IsReadOnly (projectRoot package : StateM World _) :=
  (IsReadOnly.findM? fun _ _ => isReadOnly_hasWorkspace _).bind fun _ => .pure _

/-- The file that holds the configuration of a project, if any. -/
def configPath? (root : String) (options : CheckOptions) : StateM World (Option String) :=
  match options.config with
  | some path => pure (some (join root path))
  | none => (configNames.map (join root)).findM? pathExists

def readConfig (root : String) : Option String →
    ExceptT CheckFailure (StateM World) (String × String)
  | none => return ("", root)
  | some path => do
    match ← (FileAccess.readText path : StateM World _) with
    | .error failure => throw (.unreadable path failure)
    | .ok text => return (text, (parent? path).getD root)

theorem projectConfig_eq (root : String) (options : CheckOptions) :
    projectConfig root options = liftM (configPath? root options) >>= readConfig root := by
  unfold projectConfig configPath?
  cases options.config with
  | some path => rfl
  | none => rfl

theorem isReadOnly_configPath? (root : String) (options : CheckOptions) :
    IsReadOnly (configPath? root options) := by
  unfold configPath?
  cases options.config with
  | some path => exact .pure _
  | none => exact .findM? fun _ _ => .pathExists _

theorem isReadOnly_readConfig (root : String) (path? : Option String) :
    IsReadOnly (readConfig root path?).run := by
  cases path? with
  | none => exact .run_pure _
  | some path =>
      refine (IsReadOnly.run_lift (IsReadOnly.readText path)).run_bind ?_
      rintro (failure | text)
      · exact .run_throw _
      · exact .run_pure _

theorem isReadOnly_projectConfig (root : String) (options : CheckOptions) :
    IsReadOnly (projectConfig root options : ExceptT CheckFailure (StateM World) _).run := by
  rw [projectConfig_eq]
  exact (IsReadOnly.run_lift (isReadOnly_configPath? root options)).run_bind
    (isReadOnly_readConfig root)

theorem projectConfig_ne_nothingChecked (w : World) (root : String) (options : CheckOptions) :
    valueIn w (projectConfig root options).run ≠ .error .nothingChecked := by
  rw [projectConfig_eq, (isReadOnly_configPath? _ _).valueIn_run_lift_bind]
  cases valueIn w (configPath? root options) with
  | none => exact nofun
  | some path =>
      rw [readConfig, (IsReadOnly.readText path).valueIn_run_lift_bind]
      cases valueIn w (FileAccess.readText path) with
      | error failure => exact nofun
      | ok text => exact nofun

theorem isReadOnly_prepareCheck [Notations] (package : String) (options : CheckOptions) :
    IsReadOnly (prepareCheck package options).run := by
  refine (IsReadOnly.run_lift (isReadOnly_projectRoot package)).run_bind fun root => ?_
  refine (isReadOnly_projectConfig root options).run_bind ?_
  rintro ⟨text, base⟩
  dsimp only
  split
  next => exact .run_throw _
  next config _ =>
    refine (IsReadOnly.run_lift (Project.isReadOnly_analyzer _)).run_bind ?_
    rintro (problem | a)
    · exact .run_throw _
    · exact .run_pure _

theorem valueIn_runCheck [Notations] (w : World) (package : String) (options : CheckOptions) :
    valueIn w (runCheck package options).run =
      (valueIn w (prepareCheck package options).run >>= fun prepared =>
        judge options prepared.2) := by
  rw [runCheck_eq, (isReadOnly_prepareCheck package options).valueIn_run_bind]
  rfl

/-- Only the verdict can be that nothing was checked. -/
theorem prepareCheck_ne_nothingChecked [Notations] (w : World) (package : String)
    (options : CheckOptions) :
    valueIn w (prepareCheck package options).run ≠ .error .nothingChecked := by
  intro failed
  rw [prepareCheck, (isReadOnly_projectRoot _).valueIn_run_lift_bind,
    (isReadOnly_projectConfig _ _).valueIn_run_bind, bind_eq_error_iff] at failed
  rcases failed with failed | ⟨⟨text, base⟩, _, failed⟩
  · exact projectConfig_ne_nothingChecked w _ options failed
  dsimp only at failed
  split at failed
  next => cases failed
  next config _ =>
    rw [(Project.isReadOnly_analyzer _).valueIn_run_lift_bind] at failed
    split at failed
    next => cases failed
    next => cases failed

/-- A check is prepared from a plan without rules and from the rules of its configuration. -/
theorem exists_of_prepareCheck [Notations] {w : World} {package text : String}
    {options : CheckOptions}
    {a : Analyzer} (prepared : valueIn w (prepareCheck package options).run = .ok (text, a)) :
    ∃ (bare : Plan) (rules : RuleFile.Rules), bare.settings = bare ∧
      RuleFile.load text = .ok rules ∧ (bare.registerAll rules.registrations).build = .ok a := by
  rw [prepareCheck, (isReadOnly_projectRoot _).valueIn_run_lift_bind,
    (isReadOnly_projectConfig _ _).valueIn_run_bind, bind_eq_ok_iff] at prepared
  obtain ⟨⟨found, base⟩, _, prepared⟩ := prepared
  dsimp only at prepared
  split at prepared
  next => cases prepared
  next config _ =>
    rw [(Project.isReadOnly_analyzer _).valueIn_run_lift_bind] at prepared
    split at prepared
    next => cases prepared
    next b analyzed =>
      cases prepared
      have planned := Project.exists_of_analyzer analyzed
      exact planned

/-- Without rules there are no violations, so the verdict is that nothing was checked. -/
theorem judge_eq_nothingChecked_iff {options : CheckOptions} (strict : options.failOnEmpty = true)
    (a : Analyzer) : judge options a = .error .nothingChecked ↔ a.validators = [] := by
  have answered : (a.shouldBeValid.run {}).1 =
      if a.inquiry.value.isValid then .ok a.inquiry.value else .error a.inquiry.value :=
    shouldBeValid_run_cacheAfter [] a
  have none : a.validators = [] ↔ a.inquiry.value.rulesEvaluated = 0 := by
    have positive := a.rulesEvaluated_pos_iff
    rw [Nat.pos_iff_ne_zero, not_iff_not] at positive
    exact positive.symm
  rw [judge, answered, none]
  cases valid : a.inquiry.value.isValid with
  | true => simp [strict]
  | false =>
      -- no stage has run without a rule, and a report without stages is valid
      simp only [Bool.false_eq_true, if_false, Except.error.injEq, reduceCtorEq, false_iff]
      intro zero
      obtain ⟨count, staged⟩ := inquiry_staged a
      rw [staged.rulesEvaluated, List.length_eq_zero_iff] at zero
      rw [Report.isValid, staged.violations, zero] at valid
      cases valid

theorem judge_iff_of_prepareCheck [Notations] {w : World} {package text : String}
    {options : CheckOptions}
    {a : Analyzer} {rules : RuleFile.Rules} (strict : options.failOnEmpty = true)
    (prepared : valueIn w (prepareCheck package options).run = .ok (text, a))
    (loaded : RuleFile.load text = .ok rules) :
    judge options a = .error .nothingChecked ↔ rules.count = 0 := by
  obtain ⟨bare, found, settings, loadedToo, built⟩ := exists_of_prepareCheck prepared
  cases loaded.symm.trans loadedToo
  have declared := RuleFile.validators_ne_nil_iff loaded settings built
  rw [Nat.pos_iff_ne_zero, not_iff_not] at declared
  rw [judge_eq_nothingChecked_iff strict, declared]

/-- Rules that a text declares reach the analyzer and are evaluated, if nothing else is
registered. So a check that counts on rules misses them only if none are declared. -/
theorem rulesEvaluated_pos_iff_declared [Notations] :
    (∀ (earlier : List Analyzer) (text : String) (rules : RuleFile.Rules) (plan : Plan)
        (a : Analyzer), RuleFile.load text = .ok rules → plan.settings = plan →
        (plan.registerAll rules.registrations).build = .ok a →
        (0 < rules.count ↔ 0 < a.validators.length) ∧
          (0 < a.validators.length ↔
            1 ≤ (a.evaluate.run (cacheAfter earlier)).1.rulesEvaluated)) ∧
      ∀ (w : World) (package : String) (options : CheckOptions), options.failOnEmpty = true →
        (valueIn w (runCheck package options).run = .error .nothingChecked ↔
          ∃ text a rules, valueIn w (prepareCheck package options).run = .ok (text, a) ∧
            RuleFile.load text = .ok rules ∧ rules.count = 0) := by
  constructor
  · intro earlier text rules plan a loaded bare built
    rw [List.length_pos_iff, RuleFile.validators_ne_nil_iff loaded bare built,
      evaluate_run_cacheAfter]
    refine ⟨Iff.rfl, ?_⟩
    rw [← RuleFile.validators_ne_nil_iff loaded bare built]
    exact a.rulesEvaluated_pos_iff.symm
  · intro w package options strict
    rw [valueIn_runCheck]
    constructor
    · intro failed
      cases prepared : valueIn w (prepareCheck package options).run with
      | error failure =>
          rw [prepared] at failed
          cases failed
          exact absurd prepared (prepareCheck_ne_nothingChecked w package options)
      | ok found =>
          obtain ⟨text, a⟩ := found
          obtain ⟨_, rules, _, loaded, _⟩ := exists_of_prepareCheck prepared
          rw [prepared] at failed
          have none := (judge_iff_of_prepareCheck strict prepared loaded).mp failed
          exact ⟨text, a, rules, rfl, loaded, none⟩
    · rintro ⟨text, a, rules, prepared, loaded, none⟩
      rw [prepared]
      exact (judge_iff_of_prepareCheck strict prepared loaded).mpr none

/-- A rule with one of its two directions switched off. -/
def outboundText : String :=
  "[[isolate-namespace]]\nnamespace = \"App.Web\"\ninbound = false\n"

/-- A project that names its modules and declares no rule. -/
def ruleFreeProject : World where
  root := .directory [("app", .directory [
    ("archgraph.toml", .file (some "[[modules]]\nsnapshot = \"model.json\"\n")),
    ("model.json", .file (some "\x7b\"name\": \"app\"\x7d"))])]

open scoped Standard

theorem rulesEvaluated_pos_iff_declared_service :
    let plan := ({} : Plan).registerAll [.options (plainOptions 15), .module serviceModule]
    (∃ rules a, RuleFile.load outboundText = .ok rules ∧ plan.settings = plan ∧
      (plan.registerAll rules.registrations).build = .ok a ∧ 0 < rules.count ∧
      1 ≤ (a.evaluate.run (cacheAfter [a])).1.rulesEvaluated) ∧
    valueIn ruleFreeProject (runCheck "/app" { failOnEmpty := true }).run =
      .error .nothingChecked := by
  intro plan
  obtain ⟨evaluated, checked⟩ := rulesEvaluated_pos_iff_declared
  constructor
  · have builds : (RuleFile.load outboundText).toOption.any (fun rules => rules.count = 1 &&
        (plan.registerAll rules.registrations).build.isOk) = true := by decide +kernel
    generalize loaded : RuleFile.load outboundText = found at builds
    cases found with
    | error e => cases builds
    | ok rules =>
        simp only [Except.toOption, Option.any_some, Bool.and_eq_true, decide_eq_true_eq] at builds
        obtain ⟨one, builds⟩ := builds
        have declared : 0 < rules.count := one ▸ Nat.one_pos
        cases built : (plan.registerAll rules.registrations).build with
        | error e => simp [built, Except.isOk, Except.toBool] at builds
        | ok a =>
          obtain ⟨kept, counted⟩ := evaluated [a] outboundText rules plan a loaded rfl built
          exact ⟨rules, a, rfl, rfl, built, declared, counted.mp (kept.mp declared)⟩
  · rw [checked ruleFreeProject "/app" { failOnEmpty := true } rfl]
    have prepares : (valueIn ruleFreeProject
        (prepareCheck "/app" { failOnEmpty := true }).run).toOption.any (fun prepared =>
          (RuleFile.load prepared.1).toOption.map (·.count) = some 0) = true := by
      decide +kernel
    generalize valueIn ruleFreeProject (prepareCheck "/app" { failOnEmpty := true }).run = prepared
      at prepares ⊢
    rcases prepared with e | ⟨text, a⟩
    · cases prepares
    · cases loaded : RuleFile.load text with
      | error e => simp [loaded, Except.toOption] at prepares
      | ok rules =>
          have none : rules.count = 0 := by simpa [loaded, Except.toOption] using prepares
          exact ⟨text, a, rules, rfl, loaded, none⟩

end Architecture
