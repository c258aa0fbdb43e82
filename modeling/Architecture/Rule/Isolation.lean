import Architecture.Context
import Architecture.Violation

/-!
Isolated namespaces.

Inbound rules keep types outside a namespace from referring to types inside it, outbound rules the
other way round. A rule stops looking once it has found as many violations as it may contribute.
-/

namespace Architecture

inductive Direction where
  | inbound
  | outbound
deriving DecidableEq, Repr

structure Isolation where
  space : String
  /-- Namespaces to which the rule does not apply. -/
  except : List String := []
deriving DecidableEq, Repr

namespace Isolation

def contains (rule : Isolation) (space : Option String) : Bool :=
  namespaceContains rule.space space

def isExempt (rule : Isolation) (space : Option String) : Bool :=
  rule.except.any (namespaceContains · space)

/-- Whether the references of a type in this namespace are looked at. -/
def selects (rule : Isolation) : Direction → Option String → Bool
  | .inbound, space => !rule.contains space && !rule.isExempt space
  | .outbound, space => rule.contains space

/-- Whether a reference to a type in this namespace offends; the global namespace is no place to
go out to. -/
def offends (rule : Isolation) : Direction → Option String → Bool
  | .inbound, space => rule.contains space
  | .outbound, space => space.isSome && !rule.contains space && !rule.isExempt space

def info : Direction → RuleInfo
  | .inbound => {
      code := "AG001", name := "namespace-no-inbound", kind := .namespaces
      description := "Types outside an isolated namespace must not reference types inside it" }
  | .outbound => {
      code := "AG002", name := "namespace-no-outbound", kind := .namespaces
      description := "Types inside an isolated namespace must not reference types outside it" }

def message (rule : Isolation) (t : TypeDescriptor) (r : TypeKey) (d : Direction) : String :=
  let space := r.name.space.getD ""
  match d with
  | .inbound =>
    s!"Type '{t.name.full}' outside isolated namespace '{rule.space}' references type " ++
      s!"'{r.name.full}' from isolated namespace '{space}'"
  | .outbound =>
    s!"Type '{t.name.full}' in isolated namespace '{rule.space}' references type " ++
      s!"'{r.name.full}' from outside namespace '{space}'"

def help (rule : Isolation) (r : TypeKey) : Direction → String
  | .inbound => s!"only types inside '{rule.space}' may depend on its types"
  | .outbound => s!"move '{r.name.simple}' into '{rule.space}' or exempt its namespace"

def violation (rule : Isolation) (d : Direction) (t : TypeDescriptor) (r : TypeKey) : Violation :=
  (info d).violation t.name.full (.type r.name) (rule.message t r d) (some (rule.help r d))

/-- The violations of the given types after `found` others. The search ends with the type whose
violations exceed what the rule may contribute. -/
def scan (ctx : Context) (rule : Isolation) (d : Direction) (found : Nat) :
    List TypeDescriptor → Inquiry (List Violation)
  | [] => return []
  | t :: rest => do
    let refs ← ctx.references t
    let offending :=
      (refs.internal.filter fun r => rule.offends d r.name.space).take ctx.options.perTypeCutoff
    let room := ctx.options.perNamespaceCutoff - found
    if room < offending.length then
      return (offending.take room).map (rule.violation d t)
    else
      let others ← scan ctx rule d (found + offending.length) rest
      return offending.map (rule.violation d t) ++ others

def check (ctx : Context) (d : Direction) (rule : Isolation) : Inquiry (List Violation) :=
  rule.scan ctx d 0 (ctx.typesUnderTest.filter fun t => rule.selects d t.name.space)

/-- Another rule, unless it is there already. -/
def push (rules : List Isolation) (rule : Isolation) : List Isolation :=
  if rule ∈ rules then rules else rules ++ [rule]

def checkAll (ctx : Context) (d : Direction) (rules : List Isolation) :
    Inquiry (List Violation) := do
  return (← rules.mapM (check ctx d)).flatten

end Isolation

end Architecture
