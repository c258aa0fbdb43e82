import Architecture.Access
import Architecture.TypeRef

/-!
What is known about modules, their types and the members of types.

Descriptors are plain values. `ModuleDescriptor.normalized` names the owner of every type that a
module mentions without one: the module itself.
-/

namespace Architecture

/-- Named arguments in the order of their names, each name once. -/
structure Arguments where
  entries : List (String × String) := []
  sorted : entries.Pairwise (fun a b => compare a.1 b.1 = .lt) := by exact .nil

namespace Arguments

instance : DecidableEq Arguments := fun a b =>
  decidable_of_iff (a.entries = b.entries) <| by
    cases a
    cases b
    simp

def put (name value : String) : List (String × String) → List (String × String)
  | [] => [(name, value)]
  | (k, v) :: rest =>
    match compare name k with
    | .lt => (name, value) :: (k, v) :: rest
    | .eq => (name, value) :: rest
    | .gt => (k, v) :: put name value rest

theorem mem_put {name value : String} {entries : List (String × String)} {e : String × String}
    (member : e ∈ put name value entries) : e.1 = name ∨ e ∈ entries := by
  induction entries with
  | nil => simp_all [put]
  | cons first rest inductionHypothesis =>
    obtain ⟨k, v⟩ := first
    simp only [put] at member
    split at member
    · rcases List.mem_cons.mp member with rfl | later
      · exact .inl rfl
      · exact .inr later
    · rcases List.mem_cons.mp member with rfl | later
      · exact .inl rfl
      · exact .inr (List.mem_cons_of_mem _ later)
    · rcases List.mem_cons.mp member with rfl | later
      · exact .inr List.mem_cons_self
      · exact (inductionHypothesis later).imp_right (List.mem_cons_of_mem _)

theorem pairwise_put (name value : String) {entries : List (String × String)}
    (ordered : entries.Pairwise fun a b => compare a.1 b.1 = .lt) :
    (put name value entries).Pairwise fun a b => compare a.1 b.1 = .lt := by
  induction entries with
  | nil => simp [put]
  | cons first rest inductionHypothesis =>
    obtain ⟨k, v⟩ := first
    obtain ⟨behindFirst, restOrdered⟩ := List.pairwise_cons.mp ordered
    simp only [put]
    split
    · next before =>
      refine List.pairwise_cons.mpr ⟨fun e member => ?_, ordered⟩
      rcases List.mem_cons.mp member with rfl | later
      · exact before
      · exact Std.TransCmp.lt_trans before (behindFirst e later)
    · next equal =>
      refine List.pairwise_cons.mpr ⟨fun e later => ?_, restOrdered⟩
      rw [Std.LawfulEqCmp.eq_of_compare equal]
      exact behindFirst e later
    · next behind =>
      refine List.pairwise_cons.mpr ⟨fun e member => ?_, inductionHypothesis restOrdered⟩
      rcases mem_put member with same | later
      · exact same ▸ Std.OrientedCmp.lt_of_gt behind
      · exact behindFirst e later

/-- A later value of a name replaces the earlier one. -/
def insert (args : Arguments) (name value : String) : Arguments :=
  ⟨put name value args.entries, pairwise_put name value args.sorted⟩

def ofList (entries : List (String × String)) : Arguments :=
  entries.foldl (fun args (name, value) => args.insert name value) {}

end Arguments

/-- A marker on a type or member. -/
structure Attribute where
  name : TypeName
  arguments : Arguments := {}
deriving DecidableEq

/-- Whether a query names this marker; a query without a namespace gives the simple name only. -/
def Attribute.answersTo (a : Attribute) (query : TypeName) : Bool :=
  match query.space with
  | none => a.name.simple = query.simple
  | some _ => a.name = query

inductive MemberKind where
  | field
  | property
  | constructor
  | method
deriving DecidableEq, Repr

namespace MemberKind

def name : MemberKind → String
  | .field => "field"
  | .property => "property"
  | .constructor => "constructor"
  | .method => "method"

def all : List MemberKind := [.field, .property, .constructor, .method]

def ofName? (text : String) : Option MemberKind := all.find? (·.name = text)

end MemberKind

structure Member where
  name : String
  kind : MemberKind
  parameters : List TypeRef := []
  valueType : Option TypeRef := none
  attributes : List Attribute := []
  /-- The interface whose member this one explicitly implements. -/
  implements : Option NamedRef := none
deriving DecidableEq

namespace Member

def field (name : String) (type : TypeRef) : Member :=
  { name, kind := .field, valueType := some type }

def property (name : String) (type : TypeRef) : Member :=
  { name, kind := .property, valueType := some type }

def constructor (parameters : List TypeRef) : Member :=
  { name := ".ctor", kind := .constructor, parameters }

def method (name : String) (parameters : List TypeRef) (result : Option TypeRef) : Member :=
  { name, kind := .method, parameters, valueType := result }

def isMethod (m : Member) : Bool := m.kind = .method

/-- The references of a member's declaration: its parameters, then its value type. -/
def signature (m : Member) : List TypeRef := m.parameters ++ m.valueType.toList

def hasAttribute (m : Member) (query : TypeName) : Bool := m.attributes.any (·.answersTo query)

def fillOwner (home : String) (m : Member) : Member :=
  { m with
    parameters := m.parameters.map (·.fillOwner home)
    valueType := m.valueType.map (·.fillOwner home)
    implements := m.implements.map fun n =>
      { n with owner := if n.owner = "" then home else n.owner } }

end Member

inductive TypeKind where
  | plainClass
  | interface
  | record
  | struct
deriving DecidableEq, Repr

namespace TypeKind

def name : TypeKind → String
  | .plainClass => "class"
  | .interface => "interface"
  | .record => "record"
  | .struct => "struct"

def all : List TypeKind := [.plainClass, .interface, .record, .struct]

def ofName? (text : String) : Option TypeKind := all.find? (·.name = text)

end TypeKind

structure TypeDescriptor where
  name : TypeName
  owner : String := ""
  kind : TypeKind
  access : AccessLevel := .public
  base : Option TypeRef := none
  interfaces : List TypeRef := []
  members : List Member := []
  attributes : List Attribute := []
  /-- The type that this one is nested in. -/
  enclosing : Option TypeName := none
  genericParameters : List String := []
deriving DecidableEq

namespace TypeDescriptor

def key (t : TypeDescriptor) : TypeKey := ⟨t.name, t.owner⟩

def isInterface (t : TypeDescriptor) : Bool := t.kind = .interface

/-- Records are declared as such or show it by their equality contract. -/
def isRecord (t : TypeDescriptor) : Bool :=
  t.kind = .record || t.members.any fun m => m.kind = .property ∧ m.name = "EqualityContract"

def isNested (t : TypeDescriptor) : Bool := t.enclosing.isSome

def isGenericDefinition (t : TypeDescriptor) : Bool := !t.genericParameters.isEmpty

/-- A type that is not nested is public or internal, whatever else was declared. -/
def effectiveAccess (t : TypeDescriptor) : AccessLevel :=
  if t.isNested then t.access else if t.access = .public then .public else .internal

def methods (t : TypeDescriptor) : List Member := t.members.filter (·.isMethod)

def hasAttribute (t : TypeDescriptor) (query : TypeName) : Bool :=
  t.attributes.any (·.answersTo query)

/-- The named types among base and interfaces, the base first. -/
def supertypeRefs (t : TypeDescriptor) : List NamedRef :=
  (t.base.toList ++ t.interfaces).filterMap TypeRef.asNamed

def fillOwner (home : String) (t : TypeDescriptor) : TypeDescriptor :=
  { t with
    owner := if t.owner = "" then home else t.owner
    base := t.base.map (·.fillOwner home)
    interfaces := t.interfaces.map (·.fillOwner home)
    members := t.members.map (·.fillOwner home) }

end TypeDescriptor

/-- A dependency that a module declares. -/
structure ModuleReference where
  name : String
  version : Option String := none
deriving DecidableEq

/-- The name with the version, if there is one, behind an at sign. -/
def ModuleReference.full (r : ModuleReference) : String :=
  match r.version with
  | some v => r.name ++ "@" ++ v
  | none => r.name

structure ModuleDescriptor where
  name : String
  version : Option String := none
  references : List ModuleReference := []
  types : List TypeDescriptor := []
deriving DecidableEq

namespace ModuleDescriptor

def addReference (m : ModuleDescriptor) (r : ModuleReference) : ModuleDescriptor :=
  { m with references := m.references ++ [r] }

def addType (m : ModuleDescriptor) (t : TypeDescriptor) : ModuleDescriptor :=
  { m with types := m.types ++ [{ t with owner := if t.owner = "" then m.name else t.owner }] }

def normalized (m : ModuleDescriptor) : ModuleDescriptor :=
  { m with types := m.types.map (·.fillOwner m.name) }

end ModuleDescriptor

end Architecture
