import Architecture.Rule.ForbiddenModule
import Architecture.Rule.Isolation
import Architecture.Rule.MethodMarker
import Architecture.Rule.Shape
import Architecture.Rule.Solution
import Architecture.Rule.UsedOnly
import Architecture.Validator

/-!
All rules, and the catalogue that describes them.
-/

namespace Architecture

inductive Rule where
  | isolations (direction : Direction) (rules : List Isolation)
  | forbiddenModules (patterns : List Pattern)
  | solution (s : Solution)
  | usedOnly (rules : List UsedOnly)
  | shapes (rules : List TypeShape)
  | methodMarkers (rules : List MethodMarker)

namespace Rule

def info : Rule → RuleInfo
  | .isolations d _ => Isolation.info d
  | .forbiddenModules _ => ForbiddenModule.info
  | .solution _ => Solution.info
  | .usedOnly _ => UsedOnly.info
  | .shapes _ => TypeShape.info
  | .methodMarkers _ => MethodMarker.info

def kind (r : Rule) : RuleKind := r.info.kind

def check (r : Rule) (ctx : Context) : Inquiry (List Violation) :=
  match r with
  | .isolations d rules => Isolation.checkAll ctx d rules
  | .forbiddenModules patterns => return ForbiddenModule.check ctx patterns
  | .solution s => return s.check ctx
  | .usedOnly rules => UsedOnly.check ctx rules
  | .shapes rules => return TypeShape.check ctx rules
  | .methodMarkers rules => return MethodMarker.check ctx rules

def validator (r : Rule) : Validator := { info := r.info, check := r.check }

/-- Whether there is nothing to check. -/
def isEmpty : Rule → Bool
  | .isolations _ rules => rules.isEmpty
  | .forbiddenModules patterns => patterns.isEmpty
  | .solution s => s.isEmpty
  | .usedOnly rules => rules.isEmpty
  | .shapes rules => rules.isEmpty
  | .methodMarkers rules => rules.isEmpty

/-- What there is to say about every rule, by kind and code. -/
def catalogue : List RuleInfo :=
  [Isolation.info .inbound, Isolation.info .outbound, ForbiddenModule.info, Solution.info,
    UsedOnly.info, TypeShape.info, MethodMarker.info]

/-- The rule with this code, in any case, or with exactly this name. -/
def lookup? (key : String) : Option RuleInfo :=
  catalogue.find? fun info => Text.sameIgnoringCase info.code key || info.name = key

end Rule

end Architecture
