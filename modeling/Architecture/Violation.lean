import Architecture.Name

/-!
Violations of rules.
-/

namespace Architecture

/-- Kinds of rules, in the order in which they are checked. -/
inductive RuleKind where
  | namespaces
  | modules
  | dependencies
  | shapes
deriving DecidableEq, Repr

namespace RuleKind

def name : RuleKind → String
  | .namespaces => "namespace"
  | .modules => "module"
  | .dependencies => "dependency"
  | .shapes => "shape"

def rank : RuleKind → Nat
  | .namespaces => 0
  | .modules => 1
  | .dependencies => 2
  | .shapes => 3

def all : List RuleKind := [.namespaces, .modules, .dependencies, .shapes]

def ofName? (text : String) : Option RuleKind := all.find? (·.name = text)

end RuleKind

/-- What the offender refers to. -/
inductive Subject where
  | type (name : TypeName)
  | module (name : String)
  | method (name : String)
  | nothing
deriving DecidableEq, Repr

structure Violation where
  code : String
  rule : String
  kind : RuleKind
  /-- The offending type or module. -/
  current : String
  referenced : Subject
  message : String
  help : Option String := none
deriving DecidableEq, Repr

namespace Violation

/-- The code and the message. -/
def headline (v : Violation) : String := "[" ++ v.code ++ "] " ++ v.message

def helpLine (v : Violation) : String :=
  match v.help with
  | some help => "  = help: " ++ help ++ "\n"
  | none => ""

/-- The lines for one violation in a listing. -/
def format (v : Violation) : String :=
  v.code ++ " " ++ v.rule ++ " in " ++ v.current ++ "\n  error: " ++ v.message ++ "\n" ++ v.helpLine

end Violation

/-- What a catalogue says about a rule. -/
structure RuleInfo where
  code : String
  name : String
  kind : RuleKind
  description : String
deriving DecidableEq, Repr

/-- A violation of the rule. -/
def RuleInfo.violation (info : RuleInfo) (current : String) (referenced : Subject)
    (message : String) (help : Option String := none) : Violation :=
  { code := info.code, rule := info.name, kind := info.kind, current, referenced, message, help }

end Architecture
