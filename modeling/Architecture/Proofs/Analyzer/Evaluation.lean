import Architecture.Proofs.Analyzer.Stages
import Architecture.Proofs.Cache.Transparency
import Architecture.Proofs.Fallible
import Architecture.Proofs.Rule
import Architecture.Standard

/-!
# Staged evaluation

A report holds what the first few stages find. Stages are counted off one by one
until the violations reach the limit or no stage is left, and the limit is looked
at only between two stages.
-/

namespace Architecture

/-- What a validator finds in a context. -/
def Validator.findings (v : Validator) (ctx : Context) : List Violation :=
  (v.check ctx).value

/-- What the validators of rules find is of their own kind. -/
theorem Rule.kind_of_mem_findings (rules : List Rule) (ctx : Context) :
    ∀ v ∈ rules.map validator, ∀ found ∈ v.findings ctx, found.kind = v.kind := by
  intro v member
  rcases List.mem_map.mp member with ⟨rule, _, rfl⟩
  exact rule.kind_of_mem_check ctx

theorem Validator.IgnoresLimit.findings_eq {v : Validator} (ignore : v.IgnoresLimit)
    (ctx : Context) (limit : Nat) : v.findings (ctx.withLimit limit) = v.findings ctx :=
  congrArg Inquiry.value (ignore ctx limit)

namespace Analyzer

/-- What validators find in a context, one after another. -/
def findings (ctx : Context) (validators : List Validator) : List Violation :=
  validators.flatMap (·.findings ctx)

/-- The number of stages that run out of those available, given the total of
violations after each: the first number, from one on, at which the limit is
reached while a further stage remains, or else all. -/
structure StopsAfter (limit : Nat) (total : Nat → Nat) (available count : Nat) : Prop where
  le_available : count ≤ available
  reached : count < available → 0 < count ∧ limit ≤ total count
  first : ∀ earlier, 0 < earlier → earlier < count → total earlier < limit

namespace StopsAfter

variable {limit larger available count more : Nat} {total : Nat → Nat}

theorem all (few : available ≤ 1) : StopsAfter limit total available available where
  le_available := Nat.le_refl _
  reached := fun less => by omega
  first := fun earlier positive less => by omega

theorem one (nonempty : 1 ≤ available) (reached : limit ≤ total 1) :
    StopsAfter limit total available 1 where
  le_available := nonempty
  reached := fun _ => ⟨Nat.one_pos, reached⟩
  first := fun earlier positive less => by omega

theorem succ (below : total 1 < limit)
    (rest : StopsAfter limit (fun n => total (n + 1)) available count) :
    StopsAfter limit total (available + 1) (count + 1) where
  le_available := Nat.succ_le_succ rest.le_available
  reached := fun less => ⟨Nat.succ_pos _, (rest.reached (by omega)).2⟩
  first := by
    intro earlier positive less
    cases earlier with
    | zero => omega
    | succ earlier =>
        by_cases start : earlier = 0
        · subst earlier
          exact below
        · exact rest.first earlier (by omega) (by omega)

/-- A larger limit lets at least as many stages run. -/
theorem mono (raised : limit ≤ larger) (stops : StopsAfter limit total available count)
    (stopsLater : StopsAfter larger total available more) : count ≤ more := by
  by_contra fewer
  have within : more < available := by
    have := stops.le_available
    omega
  rcases stopsLater.reached within with ⟨positive, enough⟩
  have notYet := stops.first more positive (by omega)
  omega

end StopsAfter

theorem checkStage_value (ctx : Context) (report : Report) (stage : List Validator) :
    (checkStage ctx report stage).value =
      { report with
        violations := report.violations ++ findings ctx stage
        rulesEvaluated := report.rulesEvaluated + stage.length } := by
  rw [checkStage, Inquiry.value_foldlM]
  induction stage generalizing report with
  | nil => simp [findings]
  | cons v rest inductionHypothesis =>
      rw [List.foldl_cons, inductionHypothesis]
      simp [checkValidator, findings, Validator.findings, Nat.add_assoc, Nat.add_comm 1]

/-- The stages that run make up the report. -/
theorem checkStages_value (ctx : Context) (report : Report) (stages : List (List Validator)) :
    ∃ count,
      StopsAfter ctx.options.maxViolations
        (fun n => (report.violations ++ findings ctx (stages.take n).flatten).length)
        stages.length count ∧
      (checkStages ctx report stages).value =
        { report with
          violations := report.violations ++ findings ctx (stages.take count).flatten
          rulesEvaluated := report.rulesEvaluated + (stages.take count).flatten.length
          truncated := report.truncated || decide (count < stages.length) } := by
  induction stages generalizing report with
  | nil => exact ⟨0, .all (by simp), by simp [checkStages, findings]⟩
  | cons stage rest inductionHypothesis =>
      cases rest with
      | nil => exact ⟨1, .all (by simp), by simp [checkStages, checkStage_value]⟩
      | cons next rest =>
          by_cases reached : ctx.options.maxViolations ≤
              (report.violations ++ findings ctx stage).length
          · refine ⟨1, .one (by simp) (by simpa using reached), ?_⟩
            simp only [List.length_append] at reached
            simp [checkStages, checkStage_value, reached]
          · rcases inductionHypothesis (checkStage ctx report stage).value with
              ⟨count, stops, evaluated⟩
            refine ⟨count + 1, .succ ?_ ?_, ?_⟩
            · simpa using reached
            · simpa [checkStage_value, findings, Nat.add_assoc] using stops
            · simp only [List.length_append] at reached
              simp only [checkStages, Inquiry.value_bind, checkStage_value] at evaluated ⊢
              rw [if_neg (by simpa using reached), evaluated]
              simp [findings, Nat.add_assoc]

/-- The report is made of the first stages, as many as given, all of them whole, and
under the limit evaluation stops after these. -/
structure Staged (limit : Nat) (ctx : Context) (stages : List (List Validator))
    (report : Report) (count : Nat) : Prop where
  stops : StopsAfter limit (fun n => (findings ctx (stages.take n).flatten).length)
    stages.length count
  violations : report.violations = findings ctx (stages.take count).flatten
  rulesEvaluated : report.rulesEvaluated = (stages.take count).flatten.length
  truncated : report.truncated = true ↔ count < stages.length

theorem inquiry_staged (a : Analyzer) :
    ∃ count, Staged a.context.options.maxViolations a.context a.stages a.inquiry.value count := by
  rcases checkStages_value a.context
    { typesChecked := a.context.typesUnderTest.length } a.stages with ⟨count, stops, evaluated⟩
  refine ⟨count, by simpa using stops, ?_, ?_, ?_⟩ <;> simp [inquiry, evaluated]

/-- The same analyzer under another limit of violations. -/
def withLimit (a : Analyzer) (limit : Nat) : Analyzer :=
  { a with context := a.context.withLimit limit }

@[simp]
theorem stages_withLimit (a : Analyzer) (limit : Nat) : (a.withLimit limit).stages = a.stages :=
  rfl

@[simp]
theorem maxViolations_withLimit (a : Analyzer) (limit : Nat) :
    (a.withLimit limit).context.options.maxViolations = limit := rfl

section Created

variable [PatternNotation] {modules : List ModuleDescriptor} {underTest : List String}
  {validators : List Validator} {options : AnalysisOptions} {a : Analyzer}

theorem create_eq_ok_iff :
    create modules underTest validators options = .ok a ↔
      ∃ heuristic, GeneratedHeuristic.ofOptions options = .ok heuristic ∧
        ({
          context := {
            index := TypeIndex.ofModules modules, options, heuristic
            underTest := if underTest.isEmpty then modules.map (·.name) else underTest.eraseDups }
          validators := inOrder validators } : Analyzer) = a := by
  simp only [create, bind_eq_ok_iff, pure, Except.pure, Except.ok.injEq]

theorem create_eq_error_iff {e : SetupError} :
    create modules underTest validators options = .error e ↔
      GeneratedHeuristic.ofOptions options = .error e := by
  simp [create, bind_eq_error_iff, pure, Except.pure]

theorem stages_of_create (created : create modules underTest validators options = .ok a) :
    a.stages = byKind validators := by
  rcases create_eq_ok_iff.mp created with ⟨heuristic, _, rfl⟩
  exact splitBy_inOrder validators

theorem mem_validators_of_create (created : create modules underTest validators options = .ok a)
    {v : Validator} : v ∈ a.validators ↔ v ∈ validators := by
  rcases create_eq_ok_iff.mp created with ⟨heuristic, _, rfl⟩
  exact (inOrder_perm validators).mem_iff

theorem options_of_create (created : create modules underTest validators options = .ok a) :
    a.context.options = options := by
  rcases create_eq_ok_iff.mp created with ⟨heuristic, _, rfl⟩
  rfl

theorem create_withLimit (created : create modules underTest validators options = .ok a)
    (limit : Nat) :
    create modules underTest validators { options with maxViolations := limit } =
      .ok (a.withLimit limit) := by
  rcases create_eq_ok_iff.mp created with ⟨heuristic, compiled, rfl⟩
  exact create_eq_ok_iff.mpr ⟨heuristic, compiled, rfl⟩

end Created

theorem mem_of_mem_take_byKind {validators : List Validator} {count : Nat} {v : Validator}
    (member : v ∈ ((byKind validators).take count).flatten) : v ∈ validators := by
  rcases List.mem_flatten.mp member with ⟨stage, stageMember, vMember⟩
  rcases kind_of_mem_byKind (List.mem_of_mem_take stageMember) with ⟨kind, rfl, _⟩
  exact (List.mem_filter.mp vMember).1

/-- Stages in order of kind give violations in order of kind, if validators find
violations of their own kind only. -/
theorem findings_pairwise {ctx : Context} {validators : List Validator} (count : Nat)
    (ownKind : ∀ v ∈ validators, ∀ found ∈ v.findings ctx, found.kind = v.kind) :
    (findings ctx ((byKind validators).take count).flatten).Pairwise
      fun v w => v.kind.rank ≤ w.kind.rank := by
  rw [findings, List.pairwise_flatMap]
  constructor
  · intro v member
    refine List.pairwise_of_forall_mem_list ?_
    intro found foundMember other otherMember
    have vMember := mem_of_mem_take_byKind member
    rw [ownKind v vMember found foundMember, ownKind v vMember other otherMember]
  · have sorted : ((byKind validators).take count).flatten.Pairwise
        fun v w => v.kind.rank ≤ w.kind.rank := by
      refine (inOrder_pairwise validators).sublist ?_
      rw [inOrder_eq_flatten]
      exact (List.take_sublist count _).flatten
    refine sorted.imp_of_mem ?_
    intro v w vMember wMember ordered found foundMember other otherMember
    rw [ownKind v (mem_of_mem_take_byKind vMember) found foundMember,
      ownKind w (mem_of_mem_take_byKind wMember) other otherMember]
    exact ordered

/-- Under a larger limit the violations found before are found again, and others
may follow. -/
theorem violations_prefix_withLimit {a : Analyzer} {limit : Nat}
    (raised : a.context.options.maxViolations ≤ limit)
    (ignore : ∀ v ∈ a.validators, v.IgnoresLimit) :
    a.inquiry.value.violations <+: (a.withLimit limit).inquiry.value.violations := by
  have sameFindings : ∀ n, findings (a.withLimit limit).context (a.stages.take n).flatten =
      findings a.context (a.stages.take n).flatten := by
    intro n
    refine List.flatMap_congr ?_
    intro v member
    exact (ignore v (mem_of_mem_take_stages member)).findings_eq a.context limit
  rcases inquiry_staged a with ⟨count, staged⟩
  rcases inquiry_staged (a.withLimit limit) with ⟨more, stagedLater⟩
  have stopsLater := stagedLater.stops
  have violationsLater := stagedLater.violations
  simp only [stages_withLimit, maxViolations_withLimit, sameFindings] at stopsLater violationsLater
  have atLeast : count ≤ more := staged.stops.mono raised stopsLater
  rw [staged.violations, violationsLater]
  exact ((List.take_prefix_take_left atLeast).flatten).flatMap _

/-- An evaluation runs the stages of its validators until the limit is reached
after one of them. Built-in rules report their violations in order of kind, and
where no validator looks at the limit, as no built-in rule does, a larger limit
only adds violations at the end. -/
theorem evaluate_staged [PatternNotation] (earlier : List Analyzer)
    {modules : List ModuleDescriptor}
    {underTest : List String} {validators : List Validator} {options : AnalysisOptions}
    {a : Analyzer} (created : create modules underTest validators options = .ok a) :
    let report := (a.evaluate.run (cacheAfter earlier)).1
    (∃ count, Staged options.maxViolations a.context (byKind validators) report count) ∧
      ((∀ v ∈ validators, ∃ rule : Rule, v = rule.validator) →
        report.violations.Pairwise fun v w => v.kind.rank ≤ w.kind.rank) ∧
      (∀ limit, options.maxViolations ≤ limit → (∀ v ∈ validators, v.IgnoresLimit) →
        ∃ raised, create modules underTest validators { options with maxViolations := limit } =
            .ok raised ∧
          report.violations <+: (raised.evaluate.run (cacheAfter earlier)).1.violations) ∧
      ∀ rule : Rule, rule.validator.IgnoresLimit := by
  intro report
  have reported : report = a.inquiry.value := evaluate_run_cacheAfter earlier a
  have sameOptions := options_of_create created
  rcases inquiry_staged a with ⟨count, staged⟩
  rw [sameOptions, stages_of_create created, ← reported] at staged
  refine ⟨⟨count, staged⟩, ?_, ?_, Rule.ignoresLimit⟩
  · intro builtIn
    rw [staged.violations]
    apply findings_pairwise
    intro v member found foundMember
    rcases builtIn v member with ⟨rule, rfl⟩
    exact rule.kind_of_mem_check a.context found foundMember
  · intro limit raised ignore
    refine ⟨a.withLimit limit, create_withLimit created limit, ?_⟩
    rw [reported, evaluate_run_cacheAfter]
    apply violations_prefix_withLimit
    · rwa [sameOptions]
    · exact fun v member => ignore v ((mem_validators_of_create created).mp member)

/-- A service that derives from a type of another namespace. -/
def serviceModule : ModuleDescriptor where
  name := "App"
  types := [
    { name := ⟨some "App.Core", "Secret"⟩, kind := .plainClass },
    { name := ⟨some "App.Web", "Service"⟩, kind := .plainClass
      base := some (.named ⟨some "App.Core", "Secret"⟩ "" []) }]

/-- A rule that the service breaks in each of two stages, and one that it keeps. -/
def serviceRules : List Rule :=
  [.shapes [], .usedOnly [{ target := ⟨some "App.Core", "Secret"⟩ }],
    .isolations .inbound [{ space := "App.Core" }]]

/-- Options that take no type for generated. -/
def plainOptions (limit : Nat) : AnalysisOptions :=
  { maxViolations := limit, generatedMarkers := [], generatedPatterns := [] }

open scoped Standard

/-- With a limit of one the service is not checked beyond its namespaces. -/
theorem evaluate_staged_serviceRules :
    let validators := serviceRules.map Rule.validator
    ∃ a, create [serviceModule] [] validators (plainOptions 1) = .ok a ∧
      let report := (a.evaluate.run (cacheAfter [a])).1
      (∃ count, Staged 1 a.context (byKind validators) report count) ∧
        (report.violations.Pairwise fun v w => v.kind.rank ≤ w.kind.rank) ∧
        ∃ raised, create [serviceModule] [] validators (plainOptions 2) = .ok raised ∧
          report.violations <+: (raised.evaluate.run (cacheAfter [a])).1.violations := by
  intro validators
  obtain ⟨a, created⟩ : ∃ a, create [serviceModule] [] validators (plainOptions 1) = .ok a :=
    ⟨_, rfl⟩
  have builtIn : ∀ v ∈ validators, ∃ rule : Rule, v = rule.validator := by
    intro v member
    rcases List.mem_map.mp member with ⟨rule, _, rfl⟩
    exact ⟨rule, rfl⟩
  rcases evaluate_staged [a] created with ⟨staged, ordered, extended, ignore⟩
  refine ⟨a, created, staged, ordered builtIn, extended 2 (by decide) ?_⟩
  intro v member
  rcases builtIn v member with ⟨rule, rfl⟩
  exact ignore rule

/-- A validator that finds something only where nothing may be found. -/
def limitReader : Validator where
  info := TypeShape.info
  check := fun ctx =>
    pure (if ctx.options.maxViolations = 0 then [TypeShape.info.violation "" .nothing ""] else [])

/-- No violations at all reach a limit of zero, but a stage has run by then. A
validator may look at the limit, and find less under a larger one. -/
theorem evaluate_zeroLimit :
    let stages := byKind [(Rule.shapes []).validator]
    (∃ a, create [] [] [(Rule.shapes []).validator] (plainOptions 0) = .ok a ∧
      let total := fun n => (findings a.context (stages.take n).flatten).length
      ¬ ∃ count ≤ stages.length, (count < stages.length → 0 ≤ total count) ∧
        (∀ fewer < count, total fewer < 0) ∧
        (a.evaluate.run {}).1.rulesEvaluated = (stages.take count).flatten.length) ∧
      ∃ a raised, create [] [] [limitReader] (plainOptions 0) = .ok a ∧
        create [] [] [limitReader] (plainOptions 1) = .ok raised ∧
        ¬ (a.evaluate.run {}).1.violations <+: (raised.evaluate.run {}).1.violations := by
  refine ⟨⟨_, rfl, ?_⟩, _, _, rfl, rfl, by decide +kernel⟩
  rintro total ⟨count, _, _, first, evaluated⟩
  cases count with
  | zero => exact absurd evaluated (by decide +kernel)
  | succ count => exact absurd (first 0 (Nat.succ_pos count)) (Nat.not_lt_zero _)

end Analyzer

end Architecture
