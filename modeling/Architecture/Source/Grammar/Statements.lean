import Architecture.Source.Grammar.Expressions

/-!
Statements. Items among them are recognised and not kept.
-/

namespace Architecture.Source.Grammar

open Reader

variable (g : Grammar)

/-- A declaration of local names. Only a value that ends with no brace may have an alternative. -/
def localNames : Reader Unit := do
  expectWord "let"
  g.pattern
  if ← acceptMarks ":" then discard (g.type true)
  if ← acceptMarks "=" then
    discard (g.expression true)
    let endsWithBrace := match (← get).written with
      | .group .brace _ :: _ => true
      | _ => false
    if !endsWithBrace && (← sees (Sight.word "else")) then
      expectWord "else"
      block g
  expectMarks ";"

/-- Sight of an item among statements. -/
def itemAhead : Sight :=
  let asyncBlock := (Sight.word "async").and
    (Sight.words ["unsafe", "extern", "fn"]).second.not
  Sight.any [
    Sight.words ["pub", "extern", "use", "fn", "mod", "type", "struct", "enum", "trait", "impl",
      "macro"],
    (Sight.word "crate").and (Sight.marks "::").second.not,
    (Sight.word "static").and ((Sight.word "mut").or Sight.name).second,
    (Sight.word "const").and (Sight.any [Sight.opens .brace, Sight.word "static", asyncBlock,
      Sight.word "move", Sight.marks "|"]).second.not,
    (Sight.word "unsafe").and (Sight.opens .brace).second.not,
    (Sight.word "async").and (Sight.words ["unsafe", "extern", "fn"]).second,
    (Sight.word "union").and Sight.name.second,
    (Sight.word "auto").and (Sight.word "trait").second,
    (Sight.word "default").and (Sight.words ["unsafe", "impl"]).second]

/-- How a statement that starts with a macro call is read. -/
inductive CallForm where
  | statement
  | item
  | expression

/-- The form of the macro call ahead, if there is one. One in braces is a statement by itself unless
a member of it follows; one that names something is an item. -/
def callForm : Reader CallForm := do
  let ahead : Reader CallForm := do
    discard plainPath
    let bang := Sight.marks "!"
    let member := ((Sight.marks ".").and (Sight.marks "..").not).or (Sight.marks "?")
    if ← sees (bang.and (Sight.name.or (Sight.word "try")).second) then return .item
    else if ← sees (bang.and ((Sight.opens .brace).second.and member.third.not)) then
      return .statement
    else return .expression
  fun c => match ahead.run c with
    | some (form, _) => some (form, c)
    | none => some (.expression, c)

/-- One statement; whether a semicolon has to divide it from the next. -/
def statement : Reader Bool := do
  discard (outerAttributes g)
  match ← callForm with
  | .statement =>
    discard plainPath
    discard macroCall
    discard (acceptMarks ";")
    return false
  | .item =>
    discard (g.item [])
    return false
  | .expression =>
    if ← sees (Sight.word "let") then
      localNames g
      return false
    else if ← sees itemAhead then
      discard (g.item [])
      return false
    else
      let shape ← earlyOnce g
      if ← acceptMarks ";" then return false else return shape.needsSemicolon

/-- Statements to the end of a block; `fuel` is the number of tokens ahead. -/
def statementsFrom : Nat → Reader Unit
  | 0 => failure
  | fuel + 1 => do
    discard <| collect do
      if ← acceptMarks ";" then return some () else return none
    unless ← ended do
      let needsSemicolon ← statement g
      unless ← ended do
        if needsSemicolon then failure else statementsFrom fuel

/-- The statements of a block. -/
def statementsOnce : Reader Unit := do statementsFrom g ((← get).rest.length + 1)

end Architecture.Source.Grammar
