import Architecture.Report
import Architecture.Validator

/-!
Evaluation of validators in stages.

Validators of one kind form a stage. Stages run in order of kind, each as a whole. No further stage
is begun once the violations have reached the limit.
-/

namespace Architecture

structure Analyzer where
  context : Context
  validators : List Validator

namespace Analyzer

/-- Validators in order of kind; those of one kind stay in the order in which they were given. -/
def inOrder (validators : List Validator) : List Validator :=
  validators.mergeSort fun a b => a.kind.rank ≤ b.kind.rank

/-- Without modules named as under test, all of them are. -/
def create [PatternNotation] (modules : List ModuleDescriptor) (underTest : List String)
    (validators : List Validator) (options : AnalysisOptions) : Except SetupError Analyzer := do
  let heuristic ← GeneratedHeuristic.ofOptions options
  let underTest := if underTest.isEmpty then modules.map (·.name) else underTest.eraseDups
  return {
    context := { index := TypeIndex.ofModules modules, options, heuristic, underTest }
    validators := inOrder validators }

def stages (a : Analyzer) : List (List Validator) :=
  a.validators.splitBy fun v w => v.kind = w.kind

def checkValidator (ctx : Context) (report : Report) (v : Validator) : Inquiry Report := do
  let found ← v.check ctx
  return { report with
    violations := report.violations ++ found, rulesEvaluated := report.rulesEvaluated + 1 }

def checkStage (ctx : Context) (report : Report) (stage : List Validator) : Inquiry Report :=
  stage.foldlM (checkValidator ctx) report

def checkStages (ctx : Context) (report : Report) : List (List Validator) → Inquiry Report
  | [] => return report
  | [stage] => checkStage ctx report stage
  | stage :: next :: rest => do
    let report ← checkStage ctx report stage
    if ctx.options.maxViolations ≤ report.violations.length then
      return { report with truncated := true }
    else checkStages ctx report (next :: rest)

/-- The report, with references still to be asked for. -/
def inquiry (a : Analyzer) : Inquiry Report :=
  checkStages a.context { typesChecked := a.context.typesUnderTest.length } a.stages

/-- The report, on a cache that knows queries by a key. -/
def evaluateBy {κ : Type} [DecidableEq κ] (key : ReferenceQuery → κ) (a : Analyzer) :
    StateM (Cache κ) Report :=
  a.inquiry.cachedBy key

def evaluate (a : Analyzer) : Cached Report := a.evaluateBy id

/-- The report, as an error if it holds a violation. -/
def shouldBeValid (a : Analyzer) : Cached (Except Report Report) := do
  let report ← a.evaluate
  return if report.isValid then .ok report else .error report

end Analyzer

end Architecture
