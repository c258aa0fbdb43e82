import Std.Data.TreeMap
import Architecture.Text.Segments

/-!
Dotted type names and the namespaces they live in.

A full name is cut at its last dot. An empty namespace is the global one, which is written as no
namespace at all. Names are ordered by namespace, the global one first, and then by simple name.
-/

namespace Architecture

structure TypeName where
  space : Option String
  simple : String
deriving DecidableEq, Repr

namespace TypeName

/-- The name of a type in a namespace, where the empty namespace is the global one. -/
def inSpace (space : Option String) (simple : String) : TypeName :=
  ⟨space.filter (· ≠ ""), simple⟩

def parse (text : String) : TypeName :=
  match Text.splitLast '.' text.toList with
  | some (before, after) => inSpace (some (String.ofList before)) (String.ofList after)
  | none => inSpace none text

def full (n : TypeName) : String :=
  match n.space with
  | some s => s ++ "." ++ n.simple
  | none => n.simple

instance : Ord TypeName where
  compare := compareLex (compareOn space) (compareOn simple)

instance : Std.TransOrd TypeName :=
  inferInstanceAs (Std.TransCmp (compareLex (compareOn space) (compareOn simple)))

instance : Std.LawfulEqOrd TypeName where
  eq_of_compare {a b} equal := by
    have both : (compareOn space a b).then (compareOn simple a b) = .eq := equal
    obtain ⟨spaceEqual, simpleEqual⟩ := Ordering.then_eq_eq.mp both
    cases a
    cases b
    simp_all [compareOn, Std.LawfulEqCmp.compare_eq_iff_eq]

end TypeName

/-- Whether a namespace is `outer` or lies below it; the global one lies below none. -/
def namespaceContains (outer : String) : Option String → Bool
  | none => false
  | some inner => inner = outer || (outer.toList ++ ['.']).isPrefixOf inner.toList

def TypeName.isIn (n : TypeName) (outer : String) : Bool :=
  namespaceContains outer n.space

/-- A type name together with the module that owns the type. -/
structure TypeKey where
  name : TypeName
  owner : String
deriving DecidableEq, Repr

namespace TypeKey

instance : Ord TypeKey where
  compare := compareLex (compareOn name) (compareOn owner)

instance : Std.TransOrd TypeKey :=
  inferInstanceAs (Std.TransCmp (compareLex (compareOn name) (compareOn owner)))

instance : Std.LawfulEqOrd TypeKey where
  eq_of_compare {a b} equal := by
    have both : (compareOn name a b).then (compareOn owner a b) = .eq := equal
    obtain ⟨nameEqual, ownerEqual⟩ := Ordering.then_eq_eq.mp both
    cases a
    cases b
    simp_all [compareOn, Std.LawfulEqCmp.compare_eq_iff_eq]

end TypeKey

/-- The elements of a list in order, each once. -/
def sortedDistinct {α : Type} [Ord α] [DecidableEq α] (xs : List α) : List α :=
  (xs.mergeSort fun a b => (compare a b).isLE).eraseDups

end Architecture
