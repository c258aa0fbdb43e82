import Architecture.Source.Literal
import Architecture.Source.Tree

/-!
Reading tokens from left to right.

A reader fails or moves on. Sights look at the tokens ahead without moving. What was read is kept
too, with every operator as one, because the text of a value is that of its tokens and not of its
spacing.
-/

namespace Architecture.Source

/-- The tokens ahead, and those read so far in reverse. -/
structure Cursor where
  rest : List Token
  written : List Token := []

abbrev Reader := StateT Cursor Option

/-- A look at the tokens ahead. -/
abbrev Sight := List Token → Bool

namespace Sight

def ends : Sight := List.isEmpty

def marksFrom : List Char → Sight
  | [c], .mark d _ :: _ => c = d
  | c :: next, .mark d joint :: rest => c = d && joint && marksFrom next rest
  | _, _ => false

/-- An operator. Its last mark may be joint with what follows. -/
def marks (text : String) : Sight := marksFrom text.toList

def word (w : String) : Sight
  | .word name :: _ => name = w
  | _ => false

/-- A word of any kind. -/
def anyWord : Sight
  | .word _ :: _ => true
  | _ => false

def reserved : List String :=
  ["_", "abstract", "as", "async", "await", "become", "box", "break", "const", "continue", "crate",
    "do", "dyn", "else", "enum", "extern", "false", "final", "fn", "for", "if", "impl", "in", "let",
    "loop", "macro", "match", "mod", "move", "mut", "override", "priv", "pub", "ref", "return",
    "Self", "self", "static", "struct", "super", "trait", "true", "try", "type", "typeof", "unsafe",
    "unsized", "use", "virtual", "where", "while", "yield"]

/-- A word that may name something. -/
def name : Sight
  | .word name :: _ => !reserved.contains name
  | _ => false

def lifetime : Sight
  | .mark '\'' true :: .word _ :: _ => true
  | _ => false

def opens (d : Delimiter) : Sight
  | .group e _ :: _ => d = e
  | _ => false

/-- A literal, where a truth value counts and so does a number with a minus sign. -/
def literal : Sight
  | .literal _ :: _ => true
  | .word name :: _ => name = "true" || name = "false"
  | .mark '-' _ :: .literal text :: _ => Literal.isNumber text
  | _ => false

def textLiteral : Sight
  | .literal text :: _ => Literal.isText text
  | _ => false

/-- The tokens behind the next one. A lifetime counts as one token. -/
def skip : List Token → List Token
  | .mark '\'' true :: .word _ :: rest => rest
  | _ :: rest => rest
  | [] => []

/-- The same look, one token further. -/
def second (p : Sight) : Sight := fun ts => p (skip ts)

/-- The same look, two tokens further. -/
def third (p : Sight) : Sight := fun ts => p (skip (skip ts))

def and (p q : Sight) : Sight := fun ts => p ts && q ts

def or (p q : Sight) : Sight := fun ts => p ts || q ts

def not (p : Sight) : Sight := fun ts => !p ts

/-- One of several looks. -/
def any (ps : List Sight) : Sight := fun ts => ps.any fun p => p ts

/-- One of several words. -/
def words (ws : List String) : Sight := any (ws.map word)

/-- A word at which a path may start, apart from a plain name. -/
def pathWord : Sight := words ["super", "self", "Self", "crate"]

end Sight

namespace Reader

variable {α : Type}

def sees (p : Sight) : Reader Bool := return p (← get).rest

def ended : Reader Bool := sees Sight.ends

/-- Moves past tokens and keeps them as they are given. -/
def keep (read : List Token) (rest : List Token) : Reader Unit :=
  modify fun c => { rest, written := read.reverse ++ c.written }

def expectMarks (text : String) : Reader Unit := do
  let c ← get
  if Sight.marks text c.rest then
    keep (Token.operator text.toList) (c.rest.drop text.length)
  else failure

def acceptMarks (text : String) : Reader Bool := do
  if ← sees (Sight.marks text) then
    expectMarks text
    return true
  else return false

/-- The next token, whatever it is. -/
def token : Reader Token := do
  match (← get).rest with
  | t :: rest =>
    keep [t] rest
    return t
  | [] => failure

def anyWord : Reader String := do
  match ← token with
  | .word name => return name
  | _ => failure

def expectWord (w : String) : Reader Unit := do
  if (← anyWord) = w then return else failure

def acceptWord (w : String) : Reader Bool := do
  if ← sees (Sight.word w) then
    expectWord w
    return true
  else return false

/-- A word that may name something. -/
def name : Reader String := do
  if ← sees Sight.name then anyWord else failure

/-- A name, or the word that stands for no name. -/
def nameOrBlank : Reader String := do
  if ← sees (Sight.word "_") then anyWord else name

def lifetime : Reader Unit := do
  match (← get).rest with
  | .mark '\'' true :: .word name :: rest => keep [.mark '\'' true, .word name] rest
  | _ => failure

def acceptLifetime : Reader Bool := do
  if ← sees Sight.lifetime then
    lifetime
    return true
  else return false

/-- A literal as one token: a minus sign becomes part of its number. -/
def literal : Reader Token := do
  match (← get).rest with
  | .literal text :: rest =>
    keep [.literal text] rest
    return .literal text
  | .word name :: rest =>
    if name = "true" || name = "false" then
      keep [.word name] rest
      return .word name
    else failure
  | .mark '-' _ :: .literal text :: rest =>
    if Literal.isNumber text then
      let negative := Token.literal ("-" ++ text)
      keep [negative] rest
      return negative
    else failure
  | _ => failure

def textLiteral : Reader Unit := do
  if ← sees Sight.textLiteral then discard token else failure

/-- Reads what stands between brackets to its end. -/
def inGroup (d : Delimiter) (inside : Reader α) : Reader α := do
  let c ← get
  match c.rest with
  | .group e tokens :: rest =>
    if d = e then
      match inside.run { rest := tokens } with
      | some (a, ⟨[], written⟩) =>
        keep [.group d written.reverse] rest
        return a
      | _ => failure
    else failure
  | _ => failure

/-- What `read` gives; where it fails, nothing was read. -/
def attempt (read : Reader α) : Reader (Option α) := fun c =>
  match read.run c with
  | some (a, c) => some (some a, c)
  | none => some (none, c)

/-- What `read` would find here. -/
def wouldRead (read : Reader α) : Reader Bool := fun c =>
  some ((read.run c).isSome, c)

/-- Repeats a step until it gives nothing; `fuel` is the number of tokens ahead. -/
def collectFrom (step : Reader (Option α)) : Nat → Reader (List α)
  | 0 => failure
  | fuel + 1 => do
    match ← step with
    | some a => return a :: (← collectFrom step fuel)
    | none => return []

def collect (step : Reader (Option α)) : Reader (List α) := do
  collectFrom step ((← get).rest.length + 1)

/-- Items to the end of the tokens. -/
def toEnd (item : Reader α) : Reader (List α) := collect do
  if ← ended then return none else return some (← item)

/-- Items to the end of the tokens with commas between them; one more comma may stand last. -/
def commaList (item : Reader α) : Reader (List α) := collect do
  if ← ended then return none
  else
    let a ← item
    unless ← ended do expectMarks ","
    return some a

/-- Items that end where `stop` is seen or where no separator follows. -/
def looseFrom (stop : Sight) (separator : String) (item : Reader α) : Nat → Reader (List α)
  | 0 => failure
  | fuel + 1 => do
    if ← sees stop then return []
    else
      let a ← item
      if ← acceptMarks separator then return a :: (← looseFrom stop separator item fuel)
      else return [a]

def looseList (stop : Sight) (separator : String) (item : Reader α) : Reader (List α) := do
  looseFrom stop separator item ((← get).rest.length + 1)

/-- Items that end only where `stop` is seen, with separators between them. -/
def strictList (stop : Sight) (separator : String) (item : Reader α) : Reader (List α) :=
  collect do
    if ← sees stop then return none
    else
      let a ← item
      unless ← sees stop do expectMarks separator
      return some a

/-- The rest of the tokens as they stand. -/
def everything : Reader (List Token) := do
  let ts := (← get).rest
  keep ts []
  return ts

/-- A group of any kind, taken as it stands. -/
def anyGroup : Reader (Delimiter × List Token) := do
  match ← token with
  | .group d inside => return (d, inside)
  | _ => failure

/-- A path of plain words. -/
def plainPath : Reader Path := do
  let rooted ← acceptMarks "::"
  let segment : Reader String := do
    if ← sees (Sight.name.or Sight.pathWord) then anyWord else failure
  let first ← segment
  let others ← collect do
    if ← acceptMarks "::" then return some (← segment) else return none
  return { rooted, names := first :: others }

/-- Runs a reader over a whole list of tokens. -/
def runWhole (read : Reader α) (tokens : List Token) : Option α :=
  match read.run { rest := tokens } with
  | some (a, ⟨[], _⟩) => some a
  | _ => none

end Reader
end Architecture.Source
