import Architecture.Source.Grammar

/-!
Types, paths with arguments, bounds and generic parameters.
-/

namespace Architecture.Source.Grammar

open Reader

/-- A path with its arguments. -/
structure ArguedPath where
  path : Path
  /-- The types among the arguments of the last segment. -/
  args : List TypeExpr := []
  /-- The last segment has no arguments, so that parenthesised ones may follow. -/
  isOpen : Bool := true
  /-- No segment has arguments. -/
  isPlain : Bool := true
  /-- The last segment has parenthesised arguments. -/
  isCall : Bool := false

namespace ArguedPath

def expr (p : ArguedPath) : TypeExpr := .path p.path p.args

/-- A word with or without arguments in angle brackets, to which something may be bound. -/
def isBindable (p : ArguedPath) : Bool :=
  !p.path.rooted && p.path.names.length = 1 && !p.isCall

/-- A path from its segments; what holds of the last segment holds of the path. -/
def ofSegments (rooted : Bool) (segments : List ArguedPath) : ArguedPath :=
  let names := segments.flatMap (·.path.names)
  let isPlain := segments.all (·.isPlain)
  match segments.getLast? with
  | some last => { last with path := { rooted, names }, isPlain }
  | none => { path := { rooted, names } }

end ArguedPath

variable (g : Grammar)

/-- The value of a constant parameter. -/
def constantArgument : Reader Unit := do
  if ← sees Sight.literal then discard literal
  else if ← sees Sight.name then discard name
  else if ← sees (Sight.opens .brace) then discard (attributedBlock g)
  else failure

/-- What a function gives back, behind its arrow. -/
def returnType (sums : Bool) : Reader (Option TypeExpr) := do
  if ← acceptMarks "->" then return some (← g.type sums) else return none

/-- Parenthesised arguments and what they give back. -/
def callArguments : Reader (Option TypeExpr) := do
  discard <| inGroup .paren (commaList (g.type true))
  returnType g false

/-- Sight of parenthesised arguments, which a separator may precede. -/
def callAhead : Sight :=
  (Sight.opens .paren).or ((Sight.marks "::").and (Sight.opens .paren).third)

/-- One argument in angle brackets: the type, if it is one and nothing is bound to it. -/
def genericArgument : Reader (Option TypeExpr) := do
  let constant := Sight.literal.or (Sight.opens .brace)
  if ← sees (Sight.lifetime.and (Sight.marks "+").second.not) then
    lifetime
    return none
  else if ← sees constant then
    constantArgument g
    return none
  else
    let (type, bindable) ← g.bindableType true
    if !bindable then return some type
    else if ← acceptMarks "=" then
      if ← sees constant then constantArgument g else discard (g.type true)
      return none
    else if ← acceptMarks ":" then
      discard <| looseList ((Sight.marks ",").or (Sight.marks ">")) "+" (g.bound false true)
      return none
    else return some type

/-- Arguments in angle brackets, of which only types are kept as such. -/
def angleArguments : Reader (List (Option TypeExpr)) := do
  expectMarks "<"
  let args ← strictList (Sight.marks ">") "," (genericArgument g)
  expectMarks ">"
  return args

/-- One segment of a path. In an expression its arguments need a separator before them. -/
def segment (inExpression : Bool) : Reader ArguedPath := do
  if ← sees (Sight.words ["super", "self", "crate", "try"]) then
    return { path := { names := [← anyWord] } }
  else
    let word ← if ← sees (Sight.word "Self") then anyWord else name
    let direct := (Sight.marks "<").and (Sight.marks "<=").not
    let separated := (Sight.marks "::").and (Sight.marks "<").third
    if (!inExpression && (← sees direct)) || (← sees separated) then
      discard (acceptMarks "::")
      let args ← angleArguments g
      return {
        path := { names := [word] }
        args := args.filterMap id
        isOpen := args.isEmpty
        isPlain := false }
    else return { path := { names := [word] } }

/-- Further segments; a separator before parentheses does not count. -/
def furtherSegments (inExpression : Bool) : Reader (List ArguedPath) := collect do
  if ← sees ((Sight.marks "::").and (Sight.opens .paren).third.not) then
    expectMarks "::"
    return some (← segment g inExpression)
  else return none

/-- A path without parenthesised arguments. -/
def argued (inExpression : Bool) : Reader ArguedPath := do
  let rooted ← acceptMarks "::"
  let first ← segment g inExpression
  return .ofSegments rooted (first :: (← furtherSegments g inExpression))

/-- Adds the parenthesised arguments of a path and what follows them; `fuel` is the number of tokens
ahead. -/
def withCalls : Nat → ArguedPath → Reader ArguedPath
  | 0, _ => failure
  | fuel + 1, p => do
    if p.isOpen && (← sees callAhead) then
      discard (acceptMarks "::")
      let output ← callArguments g
      let called := { p with args := [], isOpen := false, isPlain := false, isCall := true }
      let goesOn := match output with
        | none => true
        | some (.paren _) => true
        | some _ => false
      if goesOn then
        let more ← furtherSegments g false
        withCalls fuel (.ofSegments p.path.rooted (called :: more))
      else return called
    else return p

/-- A path that may start at a type; only one that does not has a name. -/
def qualified (inExpression : Bool) : Reader (Option ArguedPath) := do
  if ← acceptMarks "<" then
    discard (g.type true)
    if ← acceptWord "as" then discard (argued g false)
    expectMarks ">"
    expectMarks "::"
    discard (segment g inExpression)
    discard <| collect do
      if ← acceptMarks "::" then return some (← segment g inExpression) else return none
    return none
  else return some (← argued g inExpression)

/-- The lifetimes that hold inside a type. -/
def boundLifetimes : Reader Unit := do
  expectWord "for"
  expectMarks "<"
  discard <| strictList (Sight.marks ">") "," do
    discard (outerAttributes g)
    lifetime
    if ← acceptMarks ":" then
      discard <| looseList (Sight.any [Sight.ends, Sight.marks ",", Sight.marks ">"]) "+" lifetime
  expectMarks ">"

def acceptBoundLifetimes : Reader Bool := do
  if ← sees (Sight.word "for") then
    boundLifetimes g
    return true
  else return false

/-- A bound that names a type; a conditional one counts as naming none. -/
def typeBound (constants : Bool) : Reader (Option TypeExpr) := do
  let quantified ← acceptBoundLifetimes g
  let conditional ←
    if ← sees (Sight.opens .bracket) then do
      inGroup .bracket (expectWord "const")
      pure true
    else acceptWord "const"
  if conditional && !constants then failure
  if ← acceptMarks "?" then
    unless quantified do discard (acceptBoundLifetimes g)
  let p ← argued g false
  let named ←
    if p.isOpen && (← sees callAhead) then do
      discard (acceptMarks "::")
      discard (callArguments g)
      pure (TypeExpr.path p.path [])
    else pure p.expr
  return if conditional then none else some named

/-- The lifetimes and names that a type captures. -/
def captures : Reader Unit := do
  expectWord "use"
  expectMarks "<"
  discard <| strictList (Sight.marks ">") "," do
    unless ← acceptLifetime do discard anyWord
  expectMarks ">"

/-- One bound: the type that it names, if any. -/
def boundOnce (capturing constants : Bool) : Reader (Option TypeExpr) := do
  if ← acceptLifetime then return none
  else if ← sees (Sight.word "use") then
    captures
    if capturing then return none else failure
  else if ← sees (Sight.opens .paren) then inGroup .paren (typeBound g constants)
  else typeBound g constants

/-- Sight of a token at which one more bound of a sum starts. -/
def boundAhead (constants : Bool) : Sight :=
  Sight.any [Sight.anyWord, Sight.marks "::", Sight.marks "?", Sight.lifetime, Sight.opens .paren,
    fun ts => constants && ((Sight.opens .bracket).or (Sight.word "const")) ts]

/-- Further bounds of a sum, each behind its plus sign; a plus sign may stand last. -/
def furtherBounds (capturing constants : Bool) : Reader (List (Option TypeExpr)) := do
  let more ← collect do
    if ← sees ((Sight.marks "+").and (boundAhead constants).second) then
      expectMarks "+"
      return some (← boundOnce g capturing constants)
    else return none
  discard (acceptMarks "+")
  return more

/-- A sum of bounds, of which at least one is no lifetime. -/
def boundSum (sums capturing constants : Bool) : Reader (List TypeExpr) := do
  let startsWithLifetime ← sees Sight.lifetime
  let first ← boundOnce g capturing constants
  let others ← if sums then furtherBounds g capturing constants else pure []
  let named := (first :: others).filterMap id
  let isOnlyLifetimes := named.isEmpty && (!constants || (startsWithLifetime && others.isEmpty))
  if isOnlyLifetimes then failure else return named

/-- An argument of a function type. A receiver counts as one. -/
def functionTypeArgument (isFirst : Bool) : Reader Unit := do
  discard (outerAttributes g)
  let self := Sight.word "self"
  if isFirst && (← sees ((Sight.word "mut").and self.second)) then
    expectWord "mut"
    expectWord "self"
    if ← acceptMarks ":" then discard (g.type true)
  else
    let nameable := Sight.any [Sight.name, Sight.word "_", fun ts => isFirst && self ts]
    if ← sees (nameable.and ((Sight.marks ":").second.and (Sight.marks "::").second.not)) then
      discard anyWord
      expectMarks ":"
    discard (g.type true)

/-- The arguments of a function type, of which the last may stand for any number. -/
def functionTypeArguments : Nat → Bool → Reader Unit
  | 0, _ => failure
  | fuel + 1, isFirst => do
    if ← ended then return
    else
      discard (outerAttributes g)
      let dots := Sight.marks "..."
      let named := (Sight.name.or (Sight.word "_")).and
        ((Sight.marks ":").second.and dots.third)
      if ← sees (dots.or named) then
        if ← sees named then
          discard anyWord
          expectMarks ":"
        expectMarks "..."
        discard (acceptMarks ",")
      else
        functionTypeArgument g isFirst
        unless ← ended do
          expectMarks ","
          functionTypeArguments fuel false

/-- A function type from its qualifiers on. -/
def functionType : Reader Unit := do
  discard (acceptWord "unsafe")
  discard acceptCallingConvention
  expectWord "fn"
  inGroup .paren do functionTypeArguments g ((← get).rest.length + 1) true
  discard (returnType g false)

/-- What stands in the parentheses of a type, and whether it may start a sum of bounds. -/
def parenthesised : Reader (TypeExpr × Bool) := inGroup .paren do
  if ← ended then return (.tuple [], false)
  else if ← sees Sight.lifetime then
    return (.paren (.bounded (← boundSum g true false false)), false)
  else if ← sees (Sight.marks "?") then
    return (.bounded ((← typeBound g false).toList), true)
  else
    let first ← g.type true
    if ← acceptMarks "," then return (.tuple (first :: (← commaList (g.type true))), false)
    else return (.paren first, true)

/-- A parenthesised type. What is in the parentheses may be the first bound of a sum. -/
def parenthesisedType (sums : Bool) : Reader TypeExpr := do
  let (type, summable) ← parenthesised g
  match type with
  | .bounded first =>
    let others ← furtherBounds g false false
    return .bounded (first ++ others.filterMap id)
  | .paren (.path path args) =>
    if summable && sums && (← sees (Sight.marks "+")) then
      let others ← furtherBounds g false false
      return .bounded (.path path args :: others.filterMap id)
    else return type
  | .paren (.bounded first) =>
    if summable && sums && (← sees (Sight.marks "+")) then
      let others ← furtherBounds g false false
      return .bounded (first ++ others.filterMap id)
    else return type
  | _ => return type

/-- A type that starts with a path: the path itself, a macro call, or a sum of bounds. -/
def pathType (sums quantified : Bool) : Reader (TypeExpr × Bool) := do
  match ← qualified g false with
  | none =>
    return (.unnamed, false)
  | some p =>
    let p ← withCalls g ((← get).rest.length + 1) p
    if p.isPlain && (← sees ((Sight.marks "!").and (Sight.marks "!=").not)) then
      discard macroCall
      return (.unnamed, false)
    else if quantified || (sums && (← sees (Sight.marks "+"))) then
      let others ← if sums then furtherBounds g false false else pure []
      return (.bounded (p.expr :: others.filterMap id), false)
    else return (p.expr, p.isBindable)

/-- Sight of a path in a type. -/
def pathAhead : Sight :=
  Sight.any [Sight.name, Sight.pathWord, Sight.marks "::", Sight.marks "<"]

/-- A type that starts with neither parentheses nor a path. -/
def markedType (sums : Bool) : Reader TypeExpr := do
  if ← acceptWord "dyn" then
    if ← acceptMarks "*" then
      discard (boundSum g sums false false)
      return .unnamed
    else return .bounded (← boundSum g sums false false)
  else if ← sees (Sight.opens .bracket) then
    inGroup .bracket do
      let item ← g.type true
      if ← acceptMarks ";" then
        discard (g.expression true)
        return .array item
      else return .slice item
  else if ← acceptMarks "*" then
    unless ← acceptWord "const" do expectWord "mut"
    return .pointer (← g.type false)
  else if ← acceptMarks "&" then
    discard acceptLifetime
    discard (acceptWord "mut")
    return .reference (← g.type false)
  else if ← sees ((Sight.marks "!").and (Sight.marks "=").not) then
    expectMarks "!"
    return .unnamed
  else if ← acceptWord "impl" then return .bounded (← boundSum g sums true true)
  else if ← acceptWord "_" then return .unnamed
  else if ← sees Sight.lifetime then return .bounded (← boundSum g true false false)
  else failure

/-- A type, and whether something may be bound to it. -/
def typeOnce (sums : Bool) : Reader (TypeExpr × Bool) := do
  let function := Sight.words ["fn", "unsafe", "extern"]
  let quantified ← acceptBoundLifetimes g
  if quantified && !(← sees (Sight.any [Sight.name, function, Sight.pathWord])) then failure
  if ← sees (Sight.opens .paren) then return (← parenthesisedType g sums, false)
  else if ← sees function then
    functionType g
    return (.unnamed, false)
  else if ← sees pathAhead then pathType g sums quantified
  else return (← markedType g sums, false)

/-- Where bounds end in a list of generic parameters. -/
def parameterStop : Sight := Sight.any [Sight.ends, Sight.marks ",", Sight.marks ">"]

/-- One generic parameter: its name, if it stands for a type. -/
def genericParameter : Reader (Option String) := do
  discard (outerAttributes g)
  if ← acceptLifetime then
    if ← acceptMarks ":" then discard <| looseList parameterStop "+" lifetime
    return none
  else if ← sees Sight.name then
    let parameter ← name
    if ← acceptMarks ":" then
      discard <| looseList (parameterStop.or (Sight.marks "=")) "+" (boundOnce g false true)
    if ← acceptMarks "=" then discard (g.type true)
    return some parameter
  else if ← acceptWord "const" then
    discard name
    expectMarks ":"
    discard (g.type true)
    if ← acceptMarks "=" then constantArgument g
    return none
  else if ← acceptWord "_" then return some "_"
  else failure

/-- The generic parameters that stand for types. -/
def genericParameters : Reader (List String) := do
  if ← acceptMarks "<" then
    let parameters ← strictList (Sight.marks ">") "," (genericParameter g)
    expectMarks ">"
    return parameters.filterMap id
  else return []

/-- Where conditions end. -/
def conditionStop : Sight :=
  Sight.any [Sight.ends, Sight.opens .brace, Sight.marks ",", Sight.marks ";",
    (Sight.marks ":").and (Sight.marks "::").not, Sight.marks "="]

/-- One condition on types or lifetimes. -/
def condition : Reader Unit := do
  if ← sees (Sight.lifetime.and (Sight.marks ":").second) then
    lifetime
    expectMarks ":"
    discard <| looseList (conditionStop.or (Sight.marks ":")) "+" lifetime
  else
    discard (acceptBoundLifetimes g)
    discard (g.type true)
    expectMarks ":"
    discard <| looseList conditionStop "+" (boundOnce g false true)

/-- Conditions behind `where`; whether there are any. -/
def acceptConditions : Reader Bool := do
  if ← acceptWord "where" then
    discard <| looseList conditionStop "," (condition g)
    return true
  else return false

end Architecture.Source.Grammar
