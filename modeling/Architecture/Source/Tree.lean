import Architecture.Access
import Architecture.Source.Token

/-!
What source text declares.

The tree keeps what says something about types: names, type expressions, attributes and how far a
declaration is visible. Bodies of functions and the values of constants leave no trace in it.
-/

namespace Architecture.Source

/-- A written path. A rooted one starts with a separator. -/
structure Path where
  rooted : Bool := false
  names : List String
  deriving Repr, DecidableEq, Inhabited

namespace Path

/-- The segments, of which the first is empty when the path is rooted. -/
def segments (p : Path) : List String :=
  if p.rooted then "" :: p.names else p.names

/-- Whether the path is one word and that word is `w`. -/
def isWord (p : Path) (w : String) : Bool := !p.rooted && p.names = [w]

end Path

/-- A type as it is written. Arguments count on the last segment of a path only. -/
inductive TypeExpr where
  | path (path : Path) (args : List TypeExpr)
  | reference (target : TypeExpr)
  | pointer (target : TypeExpr)
  | paren (inner : TypeExpr)
  | slice (item : TypeExpr)
  | array (item : TypeExpr)
  | tuple (items : List TypeExpr)
  /-- Some type that meets bounds; bounds that name no type are left out. -/
  | bounded (bounds : List TypeExpr)
  /-- A type without a name of its own: a function, a projection, a placeholder, no type at all. -/
  | unnamed
  deriving Repr, Inhabited

/-- What one declaration of imports brings into scope. -/
inductive UseTree where
  | into (name : String) (rest : UseTree)
  | name (name : String)
  | renamed (name newName : String)
  | everything
  | group (trees : List UseTree)
  deriving Repr, Inhabited

/-- What follows the name of an attribute. -/
inductive AttributeInput where
  | nothing
  /-- A value by its text, and what it stands for if it is a text literal. -/
  | value (text : String) (content : Option String)
  | list (inside : List Token)
  deriving Repr, Inhabited

structure Attribute where
  path : Path
  input : AttributeInput := .nothing
  deriving Repr, Inhabited

inductive Visibility where
  | inherited
  | everywhere
  /-- Within a module, which is named with or without the word for it. -/
  | within (home : Path) (spelledOut : Bool)
  deriving Repr, Inhabited

def Visibility.access : Visibility → AccessLevel
  | inherited => .private
  | everywhere => .public
  | within home spelledOut =>
    if spelledOut then .protected
    else if home.isWord "crate" then .internal
    else if home.isWord "self" then .private
    else .protected

structure Function where
  attributes : List Attribute := []
  name : String
  parameters : List String := []
  hasReceiver : Bool := false
  inputs : List TypeExpr := []
  output : Option TypeExpr := none
  deriving Repr, Inhabited

/-- What the declarations of types have in common. -/
structure Heading where
  attributes : List Attribute := []
  visibility : Visibility := .inherited
  name : String
  /-- The generic parameters that stand for types. -/
  parameters : List String := []
  deriving Repr, Inhabited

structure Implementation where
  attributes : List Attribute := []
  parameters : List String := []
  target : TypeExpr
  interface : Option TypeExpr := none
  /-- The interface is declared not to be implemented. -/
  isNegative : Bool := false
  functions : List Function := []
  deriving Repr, Inhabited

inductive Item where
  | data (heading : Heading) (fields : List (String × TypeExpr))
  | interface (heading : Heading) (supertypes : List TypeExpr) (functions : List Function)
  | implementation (implementation : Implementation)
  | use (tree : UseTree)
  /-- A module whose items stand in a file of their own. -/
  | fileModule (attributes : List Attribute) (name : String)
  | inlineModule (attributes : List Attribute) (name : String) (items : List Item)
  /-- Anything that declares no type. -/
  | other
  deriving Repr, Inhabited

end Architecture.Source
