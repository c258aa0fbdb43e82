import Architecture.Source.Grammar.Types

/-!
Patterns. They are only recognised, because they name no type of a declaration.
-/

namespace Architecture.Source.Grammar

open Reader

variable (g : Grammar)

/-- A pattern with alternatives; a bar may stand before the first. -/
def patterns : Reader Unit := do
  discard (acceptMarks "|")
  g.pattern
  let bar := (Sight.marks "|").and ((Sight.marks "||").or (Sight.marks "|=")).not
  discard <| collect do
    if ← sees bar then
      expectMarks "|"
      return some (← g.pattern)
    else return none

/-- The marks between the bounds of a range: whether an upper bound has to follow. -/
def rangeMarks (obsolete : Bool) : Reader Bool := do
  if ← acceptMarks "..=" then return true
  else if ← sees (Sight.marks "...") then
    if obsolete then
      expectMarks "..."
      return true
    else failure
  else
    expectMarks ".."
    return false

/-- A block of constant code. -/
def constBlock : Reader Unit := do
  expectWord "const"
  discard (attributedBlock g)

/-- A bound of a range in a pattern, which may be left out; whether it was there. -/
def rangeBound : Reader Bool := do
  let stop := Sight.any [Sight.ends, Sight.marks "|", Sight.marks "=",
    (Sight.marks ":").and (Sight.marks "::").not, Sight.marks ",", Sight.marks ";", Sight.word "if"]
  if ← sees stop then return false
  else if ← sees Sight.literal then
    discard literal
    return true
  else if ← sees pathAhead then
    discard (qualified g true)
    return true
  else
    constBlock g
    return true

/-- The marks and the upper bound of a range in a pattern. -/
def rangeEnd (obsolete : Bool) : Reader Bool := do
  let closed ← rangeMarks obsolete
  let bounded ← rangeBound g
  if closed && !bounded then failure else return bounded

/-- A name or the number of a position; whether it is a name. -/
def member : Reader Bool := do
  if ← sees Sight.name then
    discard name
    return true
  else
    match ← token with
    | .literal text =>
      if Literal.isNumber text && !Literal.isFloat text &&
          text.toList.all (fun c => c.isDigit || c = '_') then return false
      else failure
    | _ => failure

/-- A field in a pattern. -/
def fieldPattern : Reader Unit := do
  let boxed ← acceptWord "box"
  let byReference ← acceptWord "ref"
  let mutable ← acceptWord "mut"
  if boxed || byReference || mutable then discard name
  else
    let named ← member
    if !named || (← sees (Sight.marks ":")) then
      expectMarks ":"
      patterns g

/-- The fields in the braces of a pattern; two points may stand for the others. -/
def fieldPatterns : Nat → Reader Unit
  | 0 => failure
  | fuel + 1 => do
    if ← ended then return
    else
      discard (outerAttributes g)
      if ← sees (Sight.marks "..") then expectMarks ".."
      else
        fieldPattern g
        unless ← ended do
          expectMarks ","
          fieldPatterns fuel

/-- A pattern that starts with a path. -/
def pathPattern : Reader Unit := do
  let path ← qualified g true
  let isPlain := match path with
    | some p => p.isPlain
    | none => false
  if isPlain && (← sees ((Sight.marks "!").and (Sight.marks "!=").not)) then discard macroCall
  else if ← sees (Sight.opens .brace) then
    inGroup .brace do fieldPatterns g ((← get).rest.length + 1)
  else if ← sees (Sight.opens .paren) then
    discard <| inGroup .paren (commaList (patterns g))
  else if ← sees (Sight.marks "..") then discard (rangeEnd g true)

/-- One pattern in the brackets of another: a range there needs both its bounds. -/
def itemPattern : Reader Unit := do
  let isOpenRange : Reader Unit := do
    if ← sees (Sight.marks "..") then
      unless ← rangeEnd g false do failure
    else
      unless ← rangeBound g do failure
      if ← rangeEnd g true then failure
    unless ← sees (Sight.ends.or (Sight.marks ",")) do failure
  if ← wouldRead isOpenRange then failure else patterns g

/-- A pattern that binds a name. -/
def namePattern : Reader Unit := do
  discard (acceptWord "ref")
  discard (acceptWord "mut")
  if ← sees (Sight.word "self") then discard anyWord else discard name
  if ← acceptMarks "@" then g.pattern

/-- Sight of a path in a pattern. -/
def pathPatternAhead : Sight :=
  Sight.any [
    Sight.name.and (Sight.any [Sight.marks "::", Sight.marks "!", Sight.opens .brace,
      Sight.opens .paren, Sight.marks ".."]).second,
    (Sight.word "self").and (Sight.marks "::").second,
    Sight.marks "::", Sight.marks "<", Sight.words ["Self", "super", "crate"]]

def patternOnce : Reader Unit := do
  if ← sees pathPatternAhead then pathPattern g
  else if ← acceptWord "_" then return
  else if ← acceptWord "box" then g.pattern
  else if ← sees (Sight.any [Sight.marks "-", Sight.literal, Sight.word "const"]) then
    unless ← rangeBound g do failure
    if ← sees (Sight.marks "..") then discard (rangeEnd g true)
  else if ← sees (Sight.any [Sight.words ["ref", "mut", "self"], Sight.name]) then namePattern g
  else if ← acceptMarks "&" then
    discard (acceptWord "mut")
    g.pattern
  else if ← sees (Sight.opens .paren) then discard <| inGroup .paren (commaList (patterns g))
  else if ← sees (Sight.opens .bracket) then discard <| inGroup .bracket (commaList (itemPattern g))
  else if ← sees ((Sight.marks "..").and (Sight.marks "...").not) then discard (rangeEnd g false)
  else failure

end Architecture.Source.Grammar
