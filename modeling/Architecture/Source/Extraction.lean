import Architecture.Source.Marker
import Architecture.Source.Scope

/-!
The types of a package from its source.

The declarations of all files are collected first, so that a name may refer to any of them. Then
every declaration becomes a descriptor, and implementations are attached to the types they are for.
Nothing is extracted if one of the names is looked up without end.
-/

namespace Architecture.Source

/-- A source file: the module that it holds, and its items. -/
structure SourceFile where
  home : List String
  items : List Item

mutual

/-- The modules that an item of a module declares. -/
def modulesIn (home : List String) : Item → List (List String)
  | .fileModule attributes name => if isTestOnly attributes then [] else [home ++ [name]]
  | .inlineModule attributes name items =>
    if isTestOnly attributes then []
    else (home ++ [name]) :: modulesInAll (home ++ [name]) items
  | _ => []

def modulesInAll (home : List String) : List Item → List (List String)
  | [] => []
  | item :: rest => modulesIn home item ++ modulesInAll home rest

end

mutual

/-- The types that an item of a module declares, by module and name. -/
def typesIn (home : List String) : Item → List (List String × String)
  | .data heading _ => [(home, heading.name)]
  | .interface heading _ _ => [(home, heading.name)]
  | .inlineModule attributes name items =>
    if isTestOnly attributes then [] else typesInAll (home ++ [name]) items
  | _ => []

def typesInAll (home : List String) : List Item → List (List String × String)
  | [] => []
  | item :: rest => typesIn home item ++ typesInAll home rest

end

def Declarations.ofFiles (package : String) (files : List SourceFile) : Declarations where
  package := package
  modules := [] :: files.flatMap fun f => f.home :: modulesInAll f.home f.items
  types := files.flatMap fun f => typesInAll f.home f.items

/-- The type that stands for a parameter whose type refers to nothing. -/
def anonymousParameter : TypeRef := .generic "_"

/-- What one implementation adds to the type that it is for. -/
structure Part where
  target : TypeName
  interface : Option TypeRef := none
  members : List Member := []

/-- Descriptors of declared types, and implementations that are not attached yet. -/
structure Extracted where
  types : List TypeDescriptor := []
  parts : List Part := []

namespace Extracted

def append (a b : Extracted) : Extracted := ⟨a.types ++ b.types, a.parts ++ b.parts⟩

def concat (all : List Extracted) : Extracted := ⟨all.flatMap (·.types), all.flatMap (·.parts)⟩

/-- What is extracted from several things, one after another. -/
def gather {α : Type} (extract : α → Found Extracted) (all : List α) : Found Extracted :=
  (all.mapM extract).map concat

end Extracted

variable [SourceNotation]

/-- A function as a member, with what its types refer to. One without receiver that gives back
the type it belongs to is a constructor. -/
def Function.member (f : Function) (self : Option TypeRef) (parameters : List TypeRef)
    (result : Option TypeRef) : Member :=
  let made :=
    if !f.hasReceiver && result.isSome && result = self then
      { Member.constructor parameters with name := f.name }
    else Member.method f.name parameters result
  { made with attributes := markers f.attributes }

namespace Scope

def member (s : Scope) (b : Binders) (f : Function) : Found Member := do
  let b := { b with parameters := b.parameters ++ f.parameters }
  let parameters ← f.inputs.mapM (s.resolve b)
  let result ← s.resolveIfAny b f.output
  return f.member b.self (parameters.map (·.getD anonymousParameter)) result

/-- The binders of a declared type. -/
def binders (s : Scope) (h : Heading) : Binders where
  parameters := h.parameters
  self := some (.named (s.declarations.typeName s.path h.name) s.declarations.package [])

/-- A declared type without members. -/
def describe (s : Scope) (h : Heading) (kind : TypeKind) : TypeDescriptor where
  name := s.declarations.typeName s.path h.name
  owner := s.declarations.package
  kind := kind
  access := h.visibility.access
  genericParameters := h.parameters
  attributes := markers h.attributes

/-- A field, unless its type refers to nothing. -/
def field? (s : Scope) (b : Binders) (field : String × TypeExpr) : Found (Option Member) := do
  return (← s.resolve b field.2).map (Member.field field.1)

/-- A type with fields, which is a record if it derives equality. -/
def describeData (s : Scope) (h : Heading) (fields : List (String × TypeExpr)) :
    Found TypeDescriptor := do
  let kind := if derives h.attributes "PartialEq" then TypeKind.record else .struct
  let members ← fields.mapM (s.field? (s.binders h))
  return { s.describe h kind with members := members.filterMap id }

def describeInterface (s : Scope) (h : Heading) (supertypes : List TypeExpr)
    (functions : List Function) : Found TypeDescriptor := do
  let interfaces ← s.resolveAll (s.binders h) supertypes
  let members ← functions.mapM (s.member (s.binders h))
  return { s.describe h .interface with interfaces, members }

/-- What an implementation adds, if it is for a type of the package and is no refusal. -/
def part? (s : Scope) (i : Implementation) : Found (Option Part) :=
  if isTestOnly i.attributes then .ok none
  else do
    match ← s.resolve { parameters := i.parameters } i.target with
    | some (.named name owner args) =>
      if owner ≠ s.declarations.package || i.isNegative then return none
      else
        let b := { parameters := i.parameters, self := some (.named name owner args) }
        let interface ← s.resolveIfAny b i.interface
        let members ← i.functions.mapM (s.member b)
        let members := match interface.bind (·.asNamed) with
          | some interface => members.map ({ · with implements := some interface })
          | none => members
        return some { target := name, interface, members }
    | _ => return none

/-- What an item declares that is no module. -/
def yield (s : Scope) : Item → Found Extracted
  | .data heading fields => do return { types := [← s.describeData heading fields] }
  | .interface heading supertypes functions => do
    return { types := [← s.describeInterface heading supertypes functions] }
  | .implementation i => do return { parts := (← s.part? i).toList }
  | _ => .ok {}

/-- The inside of a module that is declared in this one. -/
def enter (s : Scope) (name : String) (items : List Item) : Scope :=
  { s with path := s.path ++ [name], imports := .ofItems items }

end Scope

mutual

/-- What an item of a module declares. -/
def extract (s : Scope) : Item → Found Extracted
  | .inlineModule attributes name items =>
    if isTestOnly attributes then .ok {} else extractAll (s.enter name items) items
  | item => s.yield item

def extractAll (s : Scope) : List Item → Found Extracted
  | [] => .ok {}
  | item :: rest => do return (← extract s item).append (← extractAll s rest)

end

namespace Part

/-- Adds a part to the type that it is for. An interface is listed once. -/
def onto (p : Part) (t : TypeDescriptor) : TypeDescriptor :=
  let interfaces := match p.interface with
    | some interface =>
      if t.interfaces.contains interface then t.interfaces else t.interfaces ++ [interface]
    | none => t.interfaces
  { t with interfaces, members := t.members ++ p.members }

/-- Attaches a part to the last type of its target's name. -/
def attach (p : Part) : List TypeDescriptor → List TypeDescriptor
  | [] => []
  | t :: rest =>
    if t.name = p.target && !rest.any (·.name = p.target) then p.onto t :: rest
    else t :: attach p rest

end Part

namespace Extracted

/-- The types with all parts attached. -/
def finished (e : Extracted) : List TypeDescriptor :=
  e.parts.foldl (fun types p => p.attach types) e.types

end Extracted

/-- The module that a file holds, seen from inside. -/
def SourceFile.scope (d : Declarations) (f : SourceFile) : Scope where
  declarations := d
  path := f.home
  imports := .ofItems f.items

/-- All that files declare, before implementations are attached. -/
def Extracted.ofFiles (d : Declarations) (files : List SourceFile) : Found Extracted :=
  gather (fun f => extractAll (f.scope d) f.items) files

/-- The types of a package from its files. -/
def packageTypes (package : String) (files : List SourceFile) : Found (List TypeDescriptor) := do
  return (← Extracted.ofFiles (.ofFiles package files) files).finished

end Architecture.Source
