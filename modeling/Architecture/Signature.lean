import Architecture.Hierarchy

/-!
Open signatures and the members that instantiate them.

A placeholder of an open signature stands for any type. Owners of types play no part, nor do the
kinds of members.
-/

namespace Architecture

namespace TypeRef

mutual

/-- Whether a candidate arises from an open reference by putting types for its placeholders. -/
def accepts : TypeRef → TypeRef → Bool
  | .generic _, _ => true
  | .named _ _ _, .generic _ => false
  | .named n _ xs, .named m _ ys => n = m && acceptsAll xs ys

def acceptsAll : List TypeRef → List TypeRef → Bool
  | [], [] => true
  | x :: xs, y :: ys => accepts x y && acceptsAll xs ys
  | _, _ => false

end

end TypeRef

/-- Whether a member has the name of an open member and parameters that instantiate its. -/
def Member.accepts (m candidate : Member) : Bool :=
  m.name = candidate.name && TypeRef.acceptsAll m.parameters candidate.parameters

namespace TypeDescriptor

/-- The method declared here that implements an interface's method: one that says so comes before
one that names no interface. -/
def implementation? (t : TypeDescriptor) (interface : TypeName) (m : Member) : Option Member :=
  t.methods.find? (fun c => c.implements.any (·.name = interface) && m.accepts c) <|>
    t.methods.find? (fun c => c.implements.isNone && m.accepts c)

end TypeDescriptor

namespace TypeIndex

/-- The method by which a type implements a method of an interface, its own or inherited. -/
def implementingMethod? (ix : TypeIndex) (t : TypeDescriptor) (interface : TypeName)
    (m : Member) : Option Member :=
  if (ix.instantiation? t interface).isSome then
    (ix.baseChain t).findSome? (·.implementation? interface m)
  else none

/-- The nearest method along the base types that instantiates an open one. -/
def inheritedMethod? (ix : TypeIndex) (t : TypeDescriptor) (m : Member) : Option Member :=
  (ix.baseChain t).findSome? fun owner => owner.methods.find? (m.accepts ·)

end TypeIndex

end Architecture
