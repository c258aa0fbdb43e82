import Architecture.Source.Reader

/-!
The grammar of source text: what its parts need of each other.

Types, patterns, expressions and items occur in one another. Each is written against a `Grammar`,
which reads the parts one level further down.
-/

namespace Architecture.Source

/-- What matters of an expression to what may follow it. -/
inductive Shape where
  | range
  | comparison
  /-- An expression that ends with its block and is a statement by itself. -/
  | block
  /-- A macro call; one in braces is a statement by itself. -/
  | call (inBraces : Bool)
  | plain
  deriving DecidableEq, Repr

namespace Shape

/-- Whether a comma has to divide such an arm from the next. -/
def needsComma : Shape → Bool
  | block => false
  | _ => true

/-- Whether a semicolon has to divide such a statement from the next. -/
def needsSemicolon : Shape → Bool
  | call inBraces => !inBraces
  | shape => shape.needsComma

end Shape

/-- Readers for the parts that occur in one another. -/
structure Grammar where
  /-- A type; sums of bounds are read where they are allowed. Also, whether the type is a word to
  which something may be bound. -/
  bindableType : (sums : Bool) → Reader (TypeExpr × Bool)
  /-- A bound: the type that it names, if any. -/
  bound : (capturing constants : Bool) → Reader (Option TypeExpr)
  /-- An expression; a path takes braces behind it where they are allowed. -/
  expression : (braces : Bool) → Reader Shape
  /-- An expression without an operator between operands. -/
  operand : (braces : Bool) → Reader Shape
  /-- An expression that ends with its block where it starts as one. -/
  early : Reader Shape
  /-- The operators of at least a precedence that follow an expression. -/
  operators : Shape → (braces : Bool) → (precedence : Nat) → Reader Shape
  /-- A pattern without alternatives. -/
  pattern : Reader Unit
  /-- The statements of a block. -/
  statements : Reader Unit
  /-- An item behind its attributes. -/
  item : List Attribute → Reader Item

namespace Grammar

open Reader

/-- The grammar that reads nothing. -/
def nothing : Grammar where
  bindableType _ := failure
  bound _ _ := failure
  expression _ := failure
  operand _ := failure
  early := failure
  operators _ _ _ := failure
  pattern := failure
  statements := failure
  item _ := failure

/-- What a reader gives, with the text of what it read. -/
def withText {α : Type} (read : Reader α) : Reader (α × String) := do
  let before := (← get).written
  modify fun c => { c with written := [] }
  let a ← read
  let after := (← get).written
  modify fun c => { c with written := after ++ before }
  return (a, Token.textOf after.reverse)

variable (g : Grammar)

/-- A type; sums of bounds are read where they are allowed. -/
def type (sums : Bool) : Reader TypeExpr := do return (← g.bindableType sums).1

/-- The value of an attribute: a literal alone, or an expression that starts with no attribute. -/
def attributeValue : Reader AttributeInput := do
  let whole : Reader Token := do
    let t ← literal
    if ← ended then return t else failure
  match ← attempt whole with
  | some (.literal text) => return .value text (Literal.textValue? text)
  | some t => return .value t.text none
  | none =>
    if ← sees ((Sight.marks "#").and (Sight.opens .bracket).second) then failure
    else
      let (_, text) ← withText (g.expression true)
      return .value text none

/-- What stands in the brackets of an attribute. -/
def attributeBody : Reader Attribute := do
  let path ←
    if ← acceptWord "unsafe" then pure { names := ["unsafe"] }
    else plainPath
  if ← sees (Sight.any [Sight.opens .paren, Sight.opens .bracket, Sight.opens .brace]) then
    let (_, inside) ← anyGroup
    return { path, input := .list inside }
  else if ← acceptMarks "=" then return { path, input := ← attributeValue g }
  else return { path }

def outerAttribute : Reader Attribute := do
  expectMarks "#"
  inGroup .bracket (attributeBody g)

/-- The attributes before something. -/
def outerAttributes : Reader (List Attribute) := collect do
  if ← sees (Sight.marks "#") then return some (← outerAttribute g) else return none

/-- The attributes that open a block or a file and say something about it. -/
def innerAttributes : Reader (List Attribute) := collect do
  if ← sees ((Sight.marks "#").and (Sight.marks "!").second) then
    expectMarks "#"
    expectMarks "!"
    return some (← inGroup .bracket (attributeBody g))
  else return none

/-- The parenthesised part of a visibility. -/
def visibilityScope : Reader Visibility := do
  if ← sees (Sight.words ["crate", "self", "super"]) then
    return .within { names := [← anyWord] } false
  else
    expectWord "in"
    return .within (← plainPath) true

/-- How far a declaration is visible. Parentheses that name no module belong to what follows. -/
def visibility : Reader Visibility := do
  if ← acceptWord "pub" then
    if ← sees (Sight.opens .paren) then
      match (← get).rest with
      | .group _ inside :: _ =>
        if Sight.word "in" inside then inGroup .paren visibilityScope
        else return (← attempt (inGroup .paren visibilityScope)).getD .everywhere
      | _ => return .everywhere
    else return .everywhere
  else return .inherited

/-- The rest of a macro call behind its path; whether it is in braces. -/
def macroCall : Reader Bool := do
  expectMarks "!"
  return (← anyGroup).1 = .brace

/-- A block of statements. -/
def block : Reader Unit := inGroup .brace g.statements

/-- A block that attributes may open. -/
def attributedBlock : Reader (List Attribute) := inGroup .brace do
  let attributes ← innerAttributes g
  g.statements
  return attributes

/-- The name of a calling convention, which may be left out. -/
def acceptCallingConvention : Reader Bool := do
  if ← acceptWord "extern" then
    if ← sees Sight.textLiteral then textLiteral
    return true
  else return false

end Grammar
end Architecture.Source
