import Architecture.Proofs.Source.Spelling

/-!
# What a type expression mentions

A type expression mentions paths, and the slices, arrays and tuples that have no declaration.
`TypeExpr.mentions` lists them as they stand, the outer ones first. What an expression refers to
is put together on the way through it, and parts that refer to nothing are passed over without
a trace. No part of an expression is passed over if all of them name a type: then the reference
has the key of everything that is mentioned. There is such a reference exactly if everything that
is mentioned is looked up with an answer.
-/

namespace Architecture.Source

/-- A type that an expression mentions. -/
inductive Mention where
  | path (path : Path)
  /-- A type that has a place in the standard library but no declaration. -/
  | builtin (name : String)

namespace TypeExpr

mutual

/-- Everything that an expression mentions, from left to right. -/
def mentions : TypeExpr → List Mention
  | .path written args => .path written :: mentionsAll args
  | .reference target => mentions target
  | .pointer target => mentions target
  | .paren inner => mentions inner
  | .slice item => .builtin "slice" :: mentions item
  | .array item => .builtin "array" :: mentions item
  | .tuple items => .builtin "tuple" :: mentionsAll items
  | .bounded bounds => mentionsAll bounds
  | .unnamed => []

def mentionsAll : List TypeExpr → List Mention
  | [] => []
  | expr :: rest => mentions expr ++ mentionsAll rest

end

end TypeExpr

/-- A name that the declaration around it binds, so that it stands for no other declaration. -/
def Binders.Binds (b : Binders) (name : String) : Prop := name = "Self" ∨ name ∈ b.parameters

instance (b : Binders) (name : String) : Decidable (b.Binds name) :=
  inferInstanceAs (Decidable (_ ∨ _))

namespace Scope

variable {s : Scope} {b : Binders} {path : Path} {first : String} {rest : List String}
  {expr : TypeExpr} {exprs : List TypeExpr} {keys : List TypeKey}

end Scope
end Architecture.Source
