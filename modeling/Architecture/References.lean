import Architecture.Options

/-!
The types that a type refers to.

References stand in the base type, the interfaces and the members. Those to types of the same
module are internal, the others external. A type does not refer to itself.
-/

namespace Architecture

/-- Keys in order, each once. -/
structure ReferenceSet where
  internal : List TypeKey := []
  external : List TypeKey := []
deriving DecidableEq, Repr

namespace ReferenceSet

def all (s : ReferenceSet) : List TypeKey := s.internal ++ s.external

def size (s : ReferenceSet) : Nat := s.internal.length + s.external.length

def isEmpty (s : ReferenceSet) : Bool := s.internal.isEmpty && s.external.isEmpty

end ReferenceSet

/-- The references of a member that count: fields and properties have a value, constructors have
parameters, methods have both. -/
def Member.mentions (m : Member) : List TypeRef :=
  match m.kind with
  | .field | .property => m.valueType.toList
  | .constructor => m.parameters
  | .method => m.signature

namespace TypeDescriptor

/-- All references of a type; a base that is one of the root types is passed over whole. -/
def mentions (roots : List String) (t : TypeDescriptor) : List TypeRef :=
  (t.base.toList.filter fun b => !b.definition.any fun n => roots.contains n.full) ++
    t.interfaces ++ t.members.flatMap (·.mentions)

def references (roots : List String) (t : TypeDescriptor) : ReferenceSet :=
  let keys := ((t.mentions roots).flatMap TypeRef.keys).filter (· ≠ t.key)
  let (internal, external) := keys.partition (·.owner = t.owner)
  { internal := sortedDistinct internal, external := sortedDistinct external }

end TypeDescriptor

end Architecture
