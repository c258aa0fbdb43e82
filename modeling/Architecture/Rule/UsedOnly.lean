import Architecture.Context
import Architecture.Violation

/-!
Types that only certain dependants may refer to.

A rule covers its target and, if that is an interface, all that is assignable to it. Several rules
may cover one dependency: then the allowed dependants of all of them are allowed.
-/

namespace Architecture

structure UsedOnly where
  target : TypeName
  allowed : List TypeName := []
  /-- Whether the rule leaves generated dependants alone. -/
  excludeGenerated : Bool := true
deriving DecidableEq, Repr

namespace UsedOnly

def info : RuleInfo := {
  code := "AG020", name := "dependency-used-only", kind := .dependencies
  description := "Restricted types may only be referenced by their allowed dependants" }

def covers (ix : TypeIndex) (dependency : TypeKey) (rule : UsedOnly) : Bool :=
  dependency.name = rule.target ||
    (ix.isInterface rule.target && ix.isKeyAssignable dependency rule.target)

/-- The rules that a dependency of a type has to satisfy. -/
def binding (ctx : Context) (rules : List UsedOnly) (t : TypeDescriptor) (dependency : TypeKey) :
    List UsedOnly :=
  let covering := rules.filter (covers ctx.index dependency)
  if covering.any (·.excludeGenerated) && ctx.isGenerated t then
    covering.filter (!·.excludeGenerated)
  else covering

def violation (t : TypeDescriptor) (dependency : TypeKey) (allowed : List TypeName) : Violation :=
  let list := "[" ++ Text.join ", " (allowed.map fun a => "'" ++ a.full ++ "'") ++ "]"
  info.violation t.name.full (.type dependency.name)
    (s!"Type '{t.name.full}' depends on type '{dependency.name.full}' from module " ++
      s!"'{dependency.owner}', which may only be used by {list}")
    (some s!"remove the reference or route it through one of {list}")

def checkEdge (ctx : Context) (rules : List UsedOnly) (t : TypeDescriptor)
    (dependency : TypeKey) : Option Violation :=
  let binding := binding ctx rules t dependency
  let allowed := sortedDistinct (binding.flatMap (·.allowed))
  if binding.isEmpty || allowed.any (ctx.index.isAssignable t) then none
  else some (violation t dependency allowed)

def checkType (ctx : Context) (rules : List UsedOnly) (t : TypeDescriptor) :
    Inquiry (List Violation) := do
  let refs ← ctx.references t
  return (refs.external ++ refs.internal).filterMap (checkEdge ctx rules t)

def check (ctx : Context) (rules : List UsedOnly) : Inquiry (List Violation) := do
  let types := ctx.typesUnderTest.filter (!·.isInterface)
  return (← types.mapM (checkType ctx rules)).flatten

end UsedOnly

end Architecture
