import Architecture.Source.Tree
import Architecture.TypeRef

/-!
What a name in source text refers to.

A path leads into the package itself or out of it. It is read from the module in which it stands:
words for a module come first, then imported names, then modules and types declared nearby, and
for a single name the modules of which everything is imported. A single name that none of them
declares belongs to the standard library.

The paths of those modules are looked up in turn, and a single name among them may be sought in
itself. Then the lookup comes to no end.
-/

namespace Architecture.Source

/-- What a package declares: its modules, and its types by module and name. -/
structure Declarations where
  package : String
  modules : List (List String) := [[]]
  types : List (List String × String) := []

namespace Declarations

def declares (d : Declarations) (home : List String) (name : String) : Bool :=
  d.types.contains (home, name)

/-- The dotted name of a module. -/
def space (d : Declarations) (home : List String) : String :=
  Text.join "." (d.package :: home)

/-- The full name of a type that is declared in a module. -/
def typeName (d : Declarations) (home : List String) (name : String) : TypeName :=
  .inSpace (some (d.space home)) name

end Declarations

/-- Imported names with the paths they stand for, the latest first, and modules of which everything
is imported. -/
structure Imports where
  names : List (String × List String) := []
  globs : List (List String) := []
  deriving DecidableEq, Repr

namespace Imports

def bind (i : Imports) (name : String) (target : List String) : Imports :=
  { i with names := (name, target) :: i.names }

/-- What a name was last bound to. -/
def target? (i : Imports) (name : String) : Option (List String) :=
  (i.names.find? (·.1 = name)).map (·.2)

mutual

/-- Adds what a tree behind a path brings into scope. -/
def add (path : List String) : UseTree → Imports → Imports
  | .into name rest, i => add (path ++ [name]) rest i
  | .name name, i =>
    if name = "self" then
      match path.getLast? with
      | some last => i.bind last path
      | none => i
    else i.bind name (path ++ [name])
  | .renamed name newName, i => i.bind newName (path ++ [name])
  | .everything, i => { i with globs := i.globs ++ [path] }
  | .group trees, i => addAll path trees i

def addAll (path : List String) : List UseTree → Imports → Imports
  | [], i => i
  | tree :: rest, i => addAll path rest (add path tree i)

end

/-- What the items of a module import. -/
def ofItems (items : List Item) : Imports :=
  items.foldl (fun i item =>
    match item with
    | .use tree => i.add [] tree
    | _ => i) {}

end Imports

/-- Where a path leads: into the package itself or out of it. -/
inductive Target where
  | inside (path : List String)
  | outside (path : List String)
  deriving DecidableEq, Repr

/-- Why a lookup gives no answer. -/
inductive LookupFailure where
  /-- More calls inside each other than allowed. -/
  | tooDeep
  /-- The first segment was asked for of an imported path that has none. -/
  | emptyImport
  deriving DecidableEq, Repr

/-- What stops a program that looks up such a name. -/
def LookupFailure.message : LookupFailure → String
  | tooDeep => "stack overflow"
  | emptyImport => "index out of bounds: the len is 0 but the index is 0"

/-- What comes of a lookup. -/
abbrev Found := Except LookupFailure

/-- A module, seen from the names in it. -/
structure Scope where
  declarations : Declarations
  path : List String
  imports : Imports

/-- The package that names without a declaration belong to. -/
def standardPackage : String := "std"

namespace Scope

/-- How many imported names are followed one after another. -/
def aliasLimit : Nat := 16

/-- Paths that start at a fixed place: a word for a module, the root, or the package's own name. -/
def anchored? (s : Scope) : List String → Option Target
  | [] => some (.outside [standardPackage])
  | first :: rest =>
    if first = "crate" then some (.inside rest)
    else if first = "self" then some (.inside (s.path ++ rest))
    else if first = "super" then
      let ups := ((first :: rest).takeWhile (· = "super")).length
      some (.inside (s.path.take (s.path.length - ups) ++ (first :: rest).drop ups))
    else if first = "" then some (.outside rest)
    else if first = s.declarations.package then some (.inside rest)
    else none

/-- Whether a name is that of a module right below this one. -/
def isChild (s : Scope) (name : String) : Bool :=
  s.declarations.modules.contains (s.path ++ [name])

/-- Where a path leads by modules and types declared nearby, if they give it. -/
def nearby? (s : Scope) (segments : List String) : Option Target :=
  match segments with
  | [] => none
  | first :: rest =>
    if s.isChild first then some (.inside (s.path ++ segments))
    else if rest.isEmpty && s.declarations.declares s.path first then
      some (.inside (s.path ++ segments))
    else none

/-- The imported path that a lookup goes on with when it has followed so many before. A path of
one segment is no progress if that is the imported name itself. -/
def followed? (s : Scope) (depth : Nat) (first : String) : Found (Option (List String)) :=
  if depth < aliasLimit then
    match s.imports.target? first with
    | none => .ok none
    | some path =>
      if 1 < path.length then .ok (some path)
      else
        match path with
        | [] => .error .emptyImport
        | word :: _ => .ok (if word ≠ first then some path else none)
  else .ok none

/-- What a module of which everything is imported gives for a name. -/
def offered? (s : Scope) (name : String) : Target → Option Target
  | .inside home =>
    if s.declarations.declares home name then some (.inside (home ++ [name])) else none
  | .outside _ => none

/-- Looks a name up in a module of which everything is imported. No imported name is followed in
the path of the module. -/
def through (s : Scope) (call : Nat → List String → Found Target) (name : String)
    (glob : List String) : Found (Option Target) :=
  (call aliasLimit glob).map (s.offered? name)

/-- Seeks a name in the modules of which everything is imported, one after another. -/
def seek (s : Scope) (call : Nat → List String → Found Target) (name : String) : Found Target := do
  let found ← s.imports.globs.findSomeM? (s.through call name)
  return found.getD (.outside [standardPackage, name])

/-- A path that is not followed any further: what is nearby comes first. -/
def lookupDeclared (s : Scope) (call : Nat → List String → Found Target)
    (segments : List String) : Found Target :=
  match s.nearby? segments with
  | some target => .ok target
  | none =>
    match segments with
    | [name] => s.seek call name
    | _ => .ok (.outside segments)

/-- One lookup, with the calls that it makes in turn. -/
def lookupBy (s : Scope) (call : Nat → List String → Found Target) (depth : Nat) :
    List String → Found Target
  | [] => .ok (.outside [standardPackage])
  | first :: rest =>
    match s.anchored? (first :: rest) with
    | some target => .ok target
    | none => do
      match ← s.followed? depth first with
      | some path => call (depth + 1) (path ++ rest)
      | none => s.lookupDeclared call (first :: rest)

/-- Looks a path up with at most so many calls inside each other, of which some have followed an
imported name before. -/
def lookup (s : Scope) : (calls depth : Nat) → List String → Found Target
  | 0, _, _ => .error .tooDeep
  | calls + 1, depth, segments => s.lookupBy (s.lookup calls) depth segments

/-- As many calls inside each other as a lookup makes that comes to an end: its own, one for each
imported name that it follows, and one for each module of which everything is imported. -/
def callLimit (s : Scope) : Nat := aliasLimit + s.imports.globs.length + 1

/-- Where a path leads. -/
def target (s : Scope) (segments : List String) : Found Target := s.lookup s.callLimit 0 segments

/-- The package that a path out of this one leads to. -/
def ownerOf : List String → String
  | [] => standardPackage
  | first :: _ => if first = "core" || first = "alloc" then standardPackage else first

/-- The type that a path to this place names. -/
def keyAt (s : Scope) : Target → TypeKey
  | .inside path =>
    ⟨s.declarations.typeName path.dropLast (path.getLast?.getD ""), s.declarations.package⟩
  | .outside path => ⟨.parse (Text.join "." path), ownerOf path⟩

/-- The type at which a path leads. -/
def locate (s : Scope) (segments : List String) : Found TypeKey :=
  (s.target segments).map s.keyAt

/-- The type at which a path leads, with arguments. -/
def reference (s : Scope) (segments : List String) (args : List TypeRef) : Found TypeRef :=
  (s.locate segments).map fun key => .named key.name key.owner args

end Scope

/-- The names that a declaration itself binds: its generic parameters and the type it is about. -/
structure Binders where
  parameters : List String := []
  self : Option TypeRef := none

namespace Scope

/-- What a path refers to, whose arguments are looked up before it. A path behind a generic
parameter refers to no declaration. -/
def resolvePath (s : Scope) (b : Binders) (path : Path) (args : Found (List TypeRef)) :
    Found (Option TypeRef) :=
  match path.segments with
  | [] => .ok none
  | [name] =>
    if name = "Self" then .ok b.self
    else if b.parameters.contains name then .ok (some (.generic name))
    else do return some (← s.reference [name] (← args))
  | first :: rest =>
    if b.parameters.contains first || first = "Self" then .ok none
    else do return some (← s.reference (first :: rest) (← args))

/-- A type that has no declaration but a place in the standard library. -/
def builtin (name : String) (args : List TypeRef) : TypeRef :=
  .named (.inSpace (some standardPackage) name) standardPackage args

mutual

/-- What a type refers to, if anything. -/
def resolve (s : Scope) (b : Binders) : TypeExpr → Found (Option TypeRef)
  | .path path args => s.resolvePath b path (resolveAll s b args)
  | .reference target => resolve s b target
  | .pointer target => resolve s b target
  | .paren inner => resolve s b inner
  | .slice item => do return some (builtin "slice" (← resolve s b item).toList)
  | .array item => do return some (builtin "array" (← resolve s b item).toList)
  | .tuple items =>
    if items.isEmpty then .ok none
    else do return some (builtin "tuple" (← resolveAll s b items))
  | .bounded bounds => resolveFirst s b bounds
  | .unnamed => .ok none

def resolveAll (s : Scope) (b : Binders) : List TypeExpr → Found (List TypeRef)
  | [] => .ok []
  | expr :: rest => do return (← resolve s b expr).toList ++ (← resolveAll s b rest)

/-- What the first of several types refers to that refers to anything. -/
def resolveFirst (s : Scope) (b : Binders) : List TypeExpr → Found (Option TypeRef)
  | [] => .ok none
  | expr :: rest => do
    match ← resolve s b expr with
    | some found => return some found
    | none => resolveFirst s b rest

end

/-- What a type refers to that need not be written. -/
def resolveIfAny (s : Scope) (b : Binders) : Option TypeExpr → Found (Option TypeRef)
  | none => .ok none
  | some expr => s.resolve b expr

end Scope
end Architecture.Source
