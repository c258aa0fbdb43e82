import Architecture.Options
import Architecture.Violation

/-!
Reports of an analysis: their texts and their form as data.
-/

namespace Architecture

open Data

structure Report where
  violations : List Violation := []
  typesChecked : Nat := 0
  rulesEvaluated : Nat := 0
  /-- Whether a stage was left out because of the violations found before it. -/
  truncated : Bool := false
deriving DecidableEq

namespace Report

def isValid (r : Report) : Bool := r.violations.isEmpty

def countOf (r : Report) (kind : RuleKind) : Nat := r.violations.countP (·.kind = kind)

def summary (r : Report) : String :=
  "Found " ++ toString r.violations.length ++ " violation(s) in " ++ toString r.typesChecked ++
    " type(s) across " ++ toString r.rulesEvaluated ++ " rule(s)" ++
    (if r.truncated then " (stopped at violation limit)" else "")

def testEntry (v : Violation) : String :=
  v.rule ++ " [" ++ v.code ++ "] in " ++ v.current ++ "\n  " ++ v.message ++ "\n" ++ v.helpLine ++
    "\n"

/-- The text with which a failed test ends. -/
def testText (r : Report) : String :=
  "\n=== archgraph: " ++ toString r.violations.length ++ " violation(s) ===\n\n" ++
    Text.join "" (r.violations.map testEntry) ++ r.summary ++ "\n"

/-- The message with which an invalid architecture is refused. -/
def invalidMessage (r : Report) : String :=
  "Invalid architecture: " ++ toString r.violations.length ++ " violation(s)"

def invalidCode : String := "archgraph::invalid_architecture"

def invalidHelp : String :=
  "each related diagnostic names the offending type and what it references"

end Report

namespace Subject

/-- The subject of a kind from what is written as its name; none has nothing but null there. -/
def ofKind? (kind : String) (name : Option Value) : Option Subject :=
  match kind with
  | "type" => (name.bind TypeName.decode?).map .type
  | "module" => (name.bind Value.text?).map .module
  | "method" => (name.bind Value.text?).map .method
  | "none" =>
    match name with
    | none | some .null => some .nothing
    | some _ => none
  | _ => none

/-- As a list, a subject has both fields. -/
def decode? (v : Value) : Option Subject := do
  let fields ← v.fields? ["kind", "name"]
  guard (v.list?.all (·.length = 2))
  ofKind? (← required? fields "kind" Value.text?) (fields.lookup "name")

def encode : Subject → Value
  | .type n => .record [("kind", .text "type"), ("name", n.encode)]
  | .module s => .record [("kind", .text "module"), ("name", .text s)]
  | .method s => .record [("kind", .text "method"), ("name", .text s)]
  | .nothing => .record [("kind", .text "none")]

end Subject

namespace Violation

def decode? (v : Value) : Option Violation := do
  let fields ← v.fields? ["code", "rule", "kind", "current", "referenced", "message", "help"]
  return {
    code := ← required? fields "code" Value.text?
    rule := ← required? fields "rule" Value.text?
    kind := ← required? fields "kind" (choice? RuleKind.ofName?)
    current := ← required? fields "current" Value.text?
    referenced := ← required? fields "referenced" Subject.decode?
    message := ← required? fields "message" Value.text?
    help := ← defaulted? fields "help" none (Value.optional? Value.text?) }

def encode (v : Violation) : Value :=
  .record <| [("code", .text v.code), ("rule", .text v.rule), ("kind", .text v.kind.name),
    ("current", .text v.current), ("referenced", v.referenced.encode),
    ("message", .text v.message)] ++ optionalField "help" (v.help.map Value.text)

end Violation

namespace Report

def decode? (v : Value) : Option Report := do
  let fields ← v.fields? ["violations", "types_checked", "rules_evaluated", "truncated"]
  return {
    violations := ← required? fields "violations" (Value.listOf? Violation.decode?)
    typesChecked := ← required? fields "types_checked" AnalysisOptions.count?
    rulesEvaluated := ← required? fields "rules_evaluated" AnalysisOptions.count?
    truncated := ← required? fields "truncated" Value.bool? }

def encode (r : Report) : Value :=
  .record [("violations", .list (r.violations.map Violation.encode)),
    ("types_checked", .int r.typesChecked), ("rules_evaluated", .int r.rulesEvaluated),
    ("truncated", .bool r.truncated)]

end Report

end Architecture
