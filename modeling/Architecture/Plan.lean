import Architecture.Analyzer
import Architecture.Rule

/-!
Plans: modules, options and rules collected step by step.

A plan is grown by registrations and then turned into an analyzer. A pattern that cannot be read is
remembered and refused when the analyzer is built, the earliest one first. Methods and solution
policies are resolved only then, when all modules are known.
-/

namespace Architecture

variable [PatternNotation]

/-- A constraint on the types assignable to a target. -/
inductive Constraint where
  | record (expected : Bool)
  | nameMatches (pattern : String)
  | nameEndsWith (suffix : String)
  | namespaceMatches (pattern : String)
  | access (level : AccessLevel)
  | method (selector : MethodSelector) (required : List TypeName)

/-- All that is asked of the types assignable to a target. -/
structure TypeRule where
  shape : TypeShape
  methods : List (MethodSelector × List TypeName) := []
  errors : List SetupError := []

namespace TypeRule

def constrain (rule : TypeRule) : Constraint → TypeRule
  | .record expected => { rule with shape := { rule.shape with record := some expected } }
  | .nameMatches text =>
    match compilePattern text with
    | .ok p => { rule with shape := { rule.shape with namePattern := some p } }
    | .error e => { rule with errors := rule.errors ++ [e] }
  | .nameEndsWith suffix => { rule with shape := { rule.shape with nameSuffix := some suffix } }
  | .namespaceMatches text =>
    match compilePattern text with
    | .ok p => { rule with shape := { rule.shape with namespacePattern := some p } }
    | .error e => { rule with errors := rule.errors ++ [e] }
  | .access level => { rule with shape := rule.shape.addAccess level }
  | .method selector required =>
    { rule with methods := rule.methods ++ [(selector, required)] }

def ofConstraints (target : TypeName) (constraints : List Constraint) : TypeRule :=
  constraints.foldl constrain { shape := { target } }

/-- The rules on methods, resolved against the loaded types. -/
def resolveMethods (ix : TypeIndex) (rule : TypeRule) : Except SetupError (List MethodMarker) :=
  rule.methods.mapM fun (selector, required) =>
    MethodMarker.resolve ix rule.shape.target selector required

end TypeRule

/-- The policies of one solution module: what is allowed is applied before what is forbidden. -/
structure SolutionEntry where
  name : String
  allowed : Option (List String) := none
  forbidden : Option (List String) := none
deriving DecidableEq, Repr

namespace SolutionEntry

/-- Adds names to those that are listed under a stance. -/
def list (entry : SolutionEntry) (policy : Policy) : SolutionEntry :=
  match policy.stance with
  | .allow => { entry with allowed := some (entry.allowed.getD [] ++ policy.names) }
  | .forbid => { entry with forbidden := some (entry.forbidden.getD [] ++ policy.names) }

def policies (entry : SolutionEntry) : List Policy :=
  (entry.allowed.toList.map (Policy.mk .allow)) ++ entry.forbidden.toList.map (Policy.mk .forbid)

def apply (s : Solution) (entry : SolutionEntry) : Except SetupError Solution :=
  entry.policies.foldlM (fun s policy => s.addPolicy entry.name policy) s

end SolutionEntry

structure Plan where
  modules : List ModuleDescriptor := []
  underTest : List String := []
  inbound : List Isolation := []
  outbound : List Isolation := []
  forbidden : List Pattern := []
  usedOnly : List UsedOnly := []
  typeRules : List TypeRule := []
  solution : List SolutionEntry := []
  options : AnalysisOptions := {}
  errors : List SetupError := []

/-- A step by which a plan grows. -/
inductive Registration where
  /-- A module whose types are checked. -/
  | module (m : ModuleDescriptor)
  /-- A module whose types are only looked up. -/
  | referenceModule (m : ModuleDescriptor)
  | options (o : AnalysisOptions)
  | isolation (direction : Direction) (rule : Isolation)
  | usedOnly (rule : UsedOnly)
  | forbidModule (pattern : String)
  | type (target : TypeName) (constraints : List Constraint)
  | solutionModule (entry : SolutionEntry)

namespace Plan

def register (plan : Plan) : Registration → Plan
  | .module m =>
    { plan with
      modules := plan.modules ++ [m]
      underTest :=
        if plan.underTest.contains m.name then plan.underTest else plan.underTest ++ [m.name] }
  | .referenceModule m => { plan with modules := plan.modules ++ [m] }
  | .options o => { plan with options := o }
  | .isolation .inbound rule => { plan with inbound := Isolation.push plan.inbound rule }
  | .isolation .outbound rule => { plan with outbound := Isolation.push plan.outbound rule }
  | .usedOnly rule => { plan with usedOnly := plan.usedOnly ++ [rule] }
  | .forbidModule text =>
    match compilePattern text with
    | .ok p => { plan with forbidden := plan.forbidden ++ [p] }
    | .error e => { plan with errors := plan.errors ++ [e] }
  | .type target constraints =>
    let rule := TypeRule.ofConstraints target constraints
    { plan with typeRules := plan.typeRules ++ [rule], errors := plan.errors ++ rule.errors }
  | .solutionModule entry => { plan with solution := plan.solution ++ [entry] }

def registerAll (plan : Plan) (steps : List Registration) : Plan := steps.foldl register plan

/-- The steps that keep a namespace to itself. -/
def isolate (space : String) : List Registration :=
  [.isolation .inbound { space }, .isolation .outbound { space }]

/-- The policies of the modules under test. -/
def resolveSolution (plan : Plan) : Except SetupError Solution :=
  plan.solution.foldlM SolutionEntry.apply (Solution.ofModules plan.underTest)

def resolveMethods (plan : Plan) : Except SetupError (List MethodMarker) := do
  let ix := TypeIndex.ofModules plan.modules
  return (← plan.typeRules.mapM (TypeRule.resolveMethods ix)).flatten

/-- The rules that have something to check. -/
def rules (plan : Plan) : Except SetupError (List Rule) := do
  let solution ← plan.resolveSolution
  let methods ← plan.resolveMethods
  let rules := [
    Rule.isolations .inbound plan.inbound, .isolations .outbound plan.outbound,
    .forbiddenModules plan.forbidden, .solution solution, .usedOnly plan.usedOnly,
    .shapes ((plan.typeRules.map (·.shape)).filter (!·.isEmpty)),
    .methodMarkers (methods.filter (!·.required.isEmpty))]
  return rules.filter (!·.isEmpty)

def build (plan : Plan) : Except SetupError Analyzer :=
  match plan.errors with
  | e :: _ => .error e
  | [] => do
    let rules ← plan.rules
    Analyzer.create plan.modules plan.underTest (rules.map Rule.validator) plan.options

/-- The report of a plan, with a cache of its own. -/
def evaluate (plan : Plan) : Except SetupError Report := do
  let analyzer ← plan.build
  return (analyzer.evaluate.run {}).1

end Plan

end Architecture
