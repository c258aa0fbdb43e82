import Architecture.Source.Grammar.Patterns

/-!
Expressions and statements. They are only recognised, because they declare nothing that is seen from
outside.
-/

namespace Architecture.Source.Grammar

open Reader

/-- How tightly operators bind, from loose to tight. -/
inductive Precedence where
  | lowest
  | assign
  | range
  | disjunction
  | conjunction
  | binding
  | compare
  | bitOr
  | bitXor
  | bitAnd
  | shift
  | sum
  | product
  | cast
  deriving DecidableEq

def Precedence.rank (p : Precedence) : Nat := p.ctorIdx

/-- Operators between two operands. Of two that start alike, the longer one comes first. -/
def binaryOperators : List (String × Precedence) :=
  [("+=", .assign), ("-=", .assign), ("*=", .assign), ("/=", .assign), ("%=", .assign),
    ("^=", .assign), ("&=", .assign), ("|=", .assign), ("<<=", .assign), (">>=", .assign),
    ("&&", .conjunction), ("||", .disjunction), ("<<", .shift), (">>", .shift), ("==", .compare),
    ("<=", .compare), ("!=", .compare), (">=", .compare), ("+", .sum), ("-", .sum), ("*", .product),
    ("/", .product), ("%", .product), ("^", .bitXor), ("&", .bitAnd), ("|", .bitOr),
    ("<", .compare), (">", .compare)]

def operatorAhead? : Reader (Option (String × Precedence)) := do
  let ts := (← get).rest
  return binaryOperators.find? fun (text, _) => Sight.marks text ts

def assignmentAhead : Sight := (Sight.marks "=").and (Sight.marks "=>").not

/-- The precedence of what follows an operand. -/
def precedenceAhead : Reader Precedence := do
  match ← operatorAhead? with
  | some (_, precedence) => return precedence
  | none =>
    if ← sees assignmentAhead then return .assign
    else if ← sees (Sight.marks "..") then return .range
    else if ← sees (Sight.word "as") then return .cast
    else return .lowest

variable (g : Grammar)

/-- Binds what follows a right operand more tightly than its operator; `fuel` is the number of
tokens ahead. -/
def tighten (braces : Bool) (precedence : Precedence) : Nat → Shape → Reader Shape
  | 0, _ => failure
  | fuel + 1, shape => do
    let next ← precedenceAhead
    let isTighter := precedence.rank < next.rank || (next = precedence && precedence = .assign)
    if isTighter then
      let before := (← get).rest.length
      let shape ← g.operators shape braces next.rank
      if (← get).rest.length = before then return shape else tighten braces precedence fuel shape
    else return shape

/-- The right operand of an operator. -/
def rightOperand (braces : Bool) (precedence : Precedence) : Reader Shape := do
  let shape ← g.operand braces
  tighten g braces precedence ((← get).rest.length + 1) shape

/-- The end of a range, which may be left out of a range that is open there. -/
def rangeTail (braces : Bool) : Reader Unit := do
  let closed ← rangeMarks false
  let stop := Sight.any [Sight.ends, Sight.marks ",", Sight.marks ";",
    (Sight.marks ".").and (Sight.marks "..").not, Sight.marks "?", Sight.marks "=>",
    fun ts => !braces && Sight.opens .brace ts, Sight.marks "=", Sight.marks "+", Sight.marks "/",
    Sight.marks "%", Sight.marks "^", Sight.marks ">", Sight.marks "<=", Sight.marks "!=",
    Sight.marks "-=", Sight.marks "*=", Sight.marks "&=", Sight.marks "|=", Sight.marks "<<=",
    Sight.word "as"]
  unless !closed && (← sees stop) do discard (rightOperand g braces .range)

/-- One operator behind an expression, with what it needs; none where no operator binds. -/
def operatorStep (shape : Shape) (braces : Bool) (base : Nat) : Reader (Option Shape) := do
  if shape = .range then return none
  else
    match ← operatorAhead? with
    | some (text, precedence) =>
      if precedence.rank < base then return none
      else if precedence = .compare && shape = .comparison then failure
      else
        expectMarks text
        discard (rightOperand g braces precedence)
        return some (if precedence = .compare then .comparison else .plain)
    | none =>
      if base ≤ Precedence.assign.rank && (← sees assignmentAhead) then
        expectMarks "="
        discard (rightOperand g braces .assign)
        return some .plain
      else if base ≤ Precedence.range.rank && (← sees (Sight.marks "..")) then
        rangeTail g braces
        return some .range
      else if base ≤ Precedence.cast.rank && (← sees (Sight.word "as")) then
        expectWord "as"
        discard (g.type false)
        let misplaced := Sight.any [(Sight.marks ".").and (Sight.marks "..").not, Sight.marks "?",
          Sight.opens .bracket, Sight.opens .paren]
        if ← sees misplaced then failure
        return some .plain
      else return none

def operatorsFrom (braces : Bool) (base : Nat) : Nat → Shape → Reader Shape
  | 0, _ => failure
  | fuel + 1, shape => do
    match ← operatorStep g shape braces base with
    | some shape => operatorsFrom braces base fuel shape
    | none => return shape

/-- The operators of at least a precedence that follow an expression. -/
def operatorsOnce (shape : Shape) (braces : Bool) (base : Nat) : Reader Shape := do
  operatorsFrom g braces base ((← get).rest.length + 1) shape

/-- Sight of a token at which an expression may start. -/
def expressionAhead : Sight :=
  Sight.any [Sight.anyWord.and (Sight.word "as").not, Sight.opens .paren, Sight.opens .bracket,
    Sight.opens .brace, Sight.literal, (Sight.marks "!").and (Sight.marks "!=").not,
    (Sight.marks "-").and ((Sight.marks "-=").or (Sight.marks "->")).not,
    (Sight.marks "*").and (Sight.marks "*=").not, (Sight.marks "|").and (Sight.marks "|=").not,
    (Sight.marks "&").and (Sight.marks "&=").not, Sight.marks "..",
    (Sight.marks "<").and ((Sight.marks "<=").or (Sight.marks "<<=")).not, Sight.marks "::",
    Sight.lifetime, Sight.marks "#"]

/-- A condition with the blocks that depend on it; `fuel` is the number of tokens ahead. -/
def conditional : Nat → Reader Unit
  | 0 => failure
  | fuel + 1 => do
    expectWord "if"
    discard (g.expression false)
    block g
    if ← acceptWord "else" then
      if ← sees (Sight.word "if") then conditional fuel else block g

def whileLoop : Reader Unit := do
  expectWord "while"
  discard (g.expression false)
  discard (attributedBlock g)

def forLoop : Reader Unit := do
  expectWord "for"
  patterns g
  expectWord "in"
  discard (g.expression false)
  discard (attributedBlock g)

def loop : Reader Unit := do
  expectWord "loop"
  discard (attributedBlock g)

/-- Sight of `for` that binds lifetimes and starts no loop. -/
def quantifierAhead : Sight :=
  (Sight.word "for").and
    ((Sight.marks "<").second.and (Sight.lifetime.or (Sight.marks ">")).third)

/-- An expression that starts as one and ends with its block. -/
def blockLikeAhead : Sight :=
  Sight.any [Sight.words ["if", "while", "loop", "match", "unsafe"],
    (Sight.word "for").and quantifierAhead.not,
    (Sight.words ["try", "const"]).and (Sight.opens .brace).second, Sight.opens .brace]

/-- One arm of a match. -/
def arm : Reader Unit := do
  discard (outerAttributes g)
  patterns g
  if ← acceptWord "if" then discard (g.expression true)
  expectMarks "=>"
  let shape ← g.early
  if shape.needsComma && !(← ended) then expectMarks "," else discard (acceptMarks ",")

def matchBlock : Reader Unit := do
  expectWord "match"
  discard (g.expression false)
  discard <| inGroup .brace do
    discard (innerAttributes g)
    toEnd (arm g)

/-- What a label may stand before. -/
def labeled : Reader Unit := do
  lifetime
  expectMarks ":"
  if ← sees (Sight.word "while") then whileLoop g
  else if ← sees (Sight.word "for") then forLoop g
  else if ← sees (Sight.word "loop") then loop g
  else discard (attributedBlock g)

/-- One argument of a closure. -/
def closureArgument : Reader Unit := do
  discard (outerAttributes g)
  g.pattern
  if ← acceptMarks ":" then discard (g.type true)

def closure (braces : Bool) : Reader Unit := do
  discard (acceptBoundLifetimes g)
  for w in ["const", "static", "async", "move"] do
    discard (acceptWord w)
  expectMarks "|"
  discard <| strictList (Sight.marks "|") "," (closureArgument g)
  expectMarks "|"
  if ← acceptMarks "->" then
    discard (g.type true)
    block g
  else discard (g.expression braces)

/-- A field with its value, or a name that stands for both. -/
def fieldValue : Reader Unit := do
  discard (outerAttributes g)
  let named ← member
  if !named || (← sees (Sight.marks ":")) then
    expectMarks ":"
    discard (g.expression true)

/-- The fields of a value; two points may stand before what gives the others. -/
def fieldValues : Nat → Reader Unit
  | 0 => failure
  | fuel + 1 => do
    if ← ended then return
    else if ← acceptMarks ".." then
      unless ← ended do discard (g.expression true)
    else
      fieldValue g
      unless ← ended do
        expectMarks ","
        fieldValues fuel

/-- A path, a macro call or a value with fields. -/
def pathExpression (braces : Bool) : Reader Shape := do
  let path ← qualified g true
  let isPlain := match path with
    | some p => p.isPlain
    | none => false
  if isPlain && (← sees ((Sight.marks "!").and (Sight.marks "!=").not)) then
    return .call (← macroCall)
  else if braces && (← sees (Sight.opens .brace)) then
    inGroup .brace do fieldValues g ((← get).rest.length + 1)
    return .plain
  else return .plain

/-- Items in brackets: a list, or one item and how often it is repeated. -/
def listExpression : Reader Unit := inGroup .bracket do
  unless ← ended do
    discard (g.expression true)
    if ← acceptMarks ";" then discard (g.expression true)
    else unless ← ended do
      expectMarks ","
      discard (commaList (g.expression true))

/-- A way out of a loop, with a label and a value. -/
def breakExpression (braces : Bool) : Reader Unit := do
  expectWord "break"
  if ← sees (Sight.lifetime.and (Sight.marks ":").second) then failure
  discard acceptLifetime
  let hasValue := expressionAhead.and fun ts => braces || !Sight.opens .brace ts
  if ← sees hasValue then discard (g.expression braces)

/-- A word with a value that may be left out. -/
def leaving (w : String) (braces : Bool) : Reader Unit := do
  expectWord w
  if ← sees expressionAhead then discard (g.expression braces)

/-- A pattern that a value has to match. -/
def binding (braces : Bool) : Reader Unit := do
  expectWord "let"
  patterns g
  expectMarks "="
  let shape ← g.operand braces
  discard (g.operators shape braces Precedence.compare.rank)

/-- Sight of a closure. -/
def closureAhead : Sight :=
  Sight.any [Sight.marks "|", Sight.word "move", quantifierAhead,
    (Sight.word "const").and (Sight.opens .brace).second.not, Sight.word "static",
    (Sight.word "async").and ((Sight.marks "|").or (Sight.word "move")).second]

/-- The number of a position and those that follow it, as one number with points in it. -/
def positions (text : String) : Option (List String × Bool) :=
  let pieces := (Text.segments '.' text.toList).map String.ofList
  let trailing := pieces.getLast? = some ""
  let numbers := if trailing then pieces.dropLast else pieces
  let areNumbers := numbers.all fun piece =>
    !piece.isEmpty && piece.toList.all fun c => c.isDigit || c = '_'
  if areNumbers then some (numbers, trailing) else none

/-- What may follow an expression: arguments, a member, an index, a question mark. -/
def trailerStep (shape : Shape) : Reader (Option Shape) := do
  let arguments := inGroup .paren (commaList (g.expression true))
  if ← sees (Sight.opens .paren) then
    discard arguments
    return some .plain
  else if shape ≠ .range && (← sees ((Sight.marks ".").and (Sight.marks "..").not)) then
    expectMarks "."
    let numbers? := match (← get).rest with
      | .literal text :: rest =>
        if Literal.isFloat text then some (positions text, rest) else none
      | _ => none
    match numbers? with
    | some (none, _) => failure
    | some (some (numbers, trailing), rest) =>
      let tokens := numbers.map Token.literal
      let point := Token.mark '.' false
      let last := if trailing then [point] else []
      keep (tokens.intersperse point ++ last) rest
      unless trailing do return some .plain
    | none => pure ()
    if ← acceptWord "await" then return some .plain
    else
      let named ← member
      let turbofish ← sees (fun ts => named && Sight.marks "::" ts)
      if turbofish then
        expectMarks "::"
        discard (angleArguments g)
      if named && (turbofish || (← sees (Sight.opens .paren))) then discard arguments
      return some .plain
  else if ← sees (Sight.opens .bracket) then
    discard <| inGroup .bracket (g.expression true)
    return some .plain
  else if shape ≠ .range && (← sees (Sight.marks "?")) then
    expectMarks "?"
    return some .plain
  else return none

def trailersFrom : Nat → Shape → Reader Shape
  | 0, _ => failure
  | fuel + 1, shape => do
    match ← trailerStep g shape with
    | some shape => trailersFrom fuel shape
    | none => return shape

def trailers (shape : Shape) : Reader Shape := do
  trailersFrom g ((← get).rest.length + 1) shape

/-- An expression that starts as one and ends with its block. -/
def blockLike : Reader Unit := do
  if ← sees (Sight.word "if") then conditional g ((← get).rest.length + 1)
  else if ← sees (Sight.word "while") then whileLoop g
  else if ← sees (Sight.word "for") then forLoop g
  else if ← sees (Sight.word "loop") then loop g
  else if ← sees (Sight.word "match") then matchBlock g
  else if ← acceptWord "try" then block g
  else if ← acceptWord "unsafe" then discard (attributedBlock g)
  else if ← sees (Sight.word "const") then constBlock g
  else discard (attributedBlock g)

/-- Expressions by their first token, without what follows them. -/
def atom (braces : Bool) : Reader Shape := do
  let brace := Sight.opens .brace
  if ← sees Sight.literal then
    discard literal
    return .plain
  else if ← sees ((Sight.word "async").and
      (brace.second.or ((Sight.word "move").second.and brace.third))) then
    expectWord "async"
    discard (acceptWord "move")
    block g
    return .plain
  else if ← sees ((Sight.word "try").and brace.second) then
    blockLike g
    return .block
  else if ← sees closureAhead then
    closure g braces
    return .plain
  else if ← sees (pathAhead.or
      ((Sight.word "try").and ((Sight.marks "!").or (Sight.marks "::")).second)) then
    pathExpression g braces
  else if ← sees (Sight.opens .paren) then
    discard <| inGroup .paren (commaList (g.expression true))
    return .plain
  else if ← sees (Sight.word "break") then
    breakExpression g braces
    return .plain
  else if ← acceptWord "continue" then
    discard acceptLifetime
    return .plain
  else if ← sees (Sight.word "return") then
    leaving g "return" braces
    return .plain
  else if ← acceptWord "become" then
    discard (g.expression true)
    return .plain
  else if ← sees (Sight.opens .bracket) then
    listExpression g
    return .plain
  else if ← sees (Sight.word "let") then
    binding g braces
    return .plain
  else if ← sees (Sight.word "yield") then
    leaving g "yield" true
    return .plain
  else if ← sees blockLikeAhead then
    blockLike g
    return .block
  else if ← sees (Sight.marks "..") then
    rangeTail g braces
    return .range
  else if ← acceptWord "_" then return .plain
  else if ← sees Sight.lifetime then
    labeled g
    return .block
  else failure

/-- An expression without an operator between operands. -/
def operandOnce (braces : Bool) : Reader Shape := do
  discard (outerAttributes g)
  if ← acceptMarks "&" then
    let raw := (Sight.word "raw").and (Sight.words ["mut", "const"]).second
    if ← sees raw then
      expectWord "raw"
      discard anyWord
    else discard (acceptWord "mut")
    discard (g.operand braces)
    return .plain
  else if ← acceptMarks "*" then
    discard (g.operand braces)
    return .plain
  else if ← acceptMarks "!" then
    discard (g.operand braces)
    return .plain
  else if ← acceptMarks "-" then
    discard (g.operand braces)
    return .plain
  else trailers g (← atom g braces)

def expressionOnce (braces : Bool) : Reader Shape := do
  let shape ← operandOnce g braces
  operatorsOnce g shape braces Precedence.lowest.rank

/-- An expression that ends with its block where it starts as one, a member of the block apart. -/
def earlyOnce : Reader Shape := do
  discard (outerAttributes g)
  if ← sees (blockLikeAhead.or Sight.lifetime) then
    if ← sees Sight.lifetime then labeled g else blockLike g
    if ← sees (((Sight.marks ".").and (Sight.marks "..").not).or (Sight.marks "?")) then
      operatorsOnce g (← trailers g .block) true Precedence.lowest.rank
    else return .block
  else expressionOnce g true

end Architecture.Source.Grammar
