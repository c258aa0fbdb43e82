/-!
Globs: patterns for whole paths.

A star stands for any characters, separators included. Two stars are a component of their own and
stand for whole components. A bracket stands for one of its characters, or with an exclamation mark
for any other one.
-/

namespace Architecture.Files

namespace Glob

/-- One character of a bracket, or all from one character to another. -/
inductive Choice where
  | one (c : Char)
  | range (low high : Char)
  deriving DecidableEq, Repr

inductive Piece where
  | char (c : Char)
  | anyChar
  | anySequence
  | anyComponents
  | within (choices : List Choice)
  | except (choices : List Choice)
  deriving DecidableEq, Repr

/-- Why a text is no glob, and near which character. -/
inductive Problem where
  | tooManyStars (position : Nat)
  | partOfComponent (position : Nat)
  | openBracket (position : Nat)
  deriving DecidableEq, Repr

def Problem.message : Problem → String
  | tooManyStars position => text position "wildcards are either regular `*` or recursive `**`"
  | partOfComponent position =>
    text position "recursive wildcards must form a single path component"
  | openBracket position => text position "invalid range pattern"
where
  text (position : Nat) (reason : String) : String :=
    "Pattern syntax error near position " ++ toString position ++ ": " ++ reason

def choices : List Char → List Choice
  | low :: '-' :: high :: rest => .range low high :: choices rest
  | c :: rest => .one c :: choices rest
  | [] => []

/-- What stands before the first closing bracket, and what stands behind it. -/
def untilBracket : List Char → Option (List Char × List Char)
  | [] => none
  | ']' :: rest => some ([], rest)
  | c :: rest => (untilBracket rest).map fun (before, after) => (c :: before, after)

/-- A bracket behind its opening; its first character may be a closing bracket. -/
def bracket? : List Char → Option (Piece × List Char)
  | '!' :: first :: rest => do
    let (others, after) ← untilBracket rest
    return (.except (choices (first :: others)), after)
  | ['!'] => none
  | first :: rest => do
    let (others, after) ← untilBracket rest
    return (.within (choices (first :: others)), after)
  | [] => none

/-- Adds two stars; of several in a row that are not the first piece, one is enough. -/
def addComponents (seen : List Piece) : List Piece :=
  match seen with
  | .anyComponents :: _ :: _ => seen
  | _ => .anyComponents :: seen

/-- Reads on behind `seen`, the pieces so far in reverse, at a position; `previous` is the character
before it. -/
def parseFrom : Nat → Nat → Option Char → List Piece → List Char → Except Problem (List Piece)
  | 0, _, _, seen, _ => .ok seen.reverse
  | _, _, _, seen, [] => .ok seen.reverse
  | fuel + 1, position, previous, seen, c :: rest =>
    if c = '?' then parseFrom fuel (position + 1) (some c) (.anyChar :: seen) rest
    else if c = '*' then
      let more := rest.takeWhile (· = '*')
      let after := rest.drop more.length
      match more.length with
      | 0 => parseFrom fuel (position + 1) (some c) (.anySequence :: seen) after
      | 1 =>
        if previous = none || previous = some '/' then
          match after with
          | [] => parseFrom fuel (position + 2) (some c) (addComponents seen) []
          | '/' :: after => parseFrom fuel (position + 3) (some '/') (addComponents seen) after
          | _ => .error (.partOfComponent (position + 2))
        else .error (.partOfComponent (position - 1))
      | _ => .error (.tooManyStars (position + 2))
    else if c = '[' then
      match bracket? rest with
      | some (piece, after) =>
        let length := rest.length - after.length
        parseFrom fuel (position + 1 + length) (some ']') (piece :: seen) after
      | none => .error (.openBracket position)
    else parseFrom fuel (position + 1) (some c) (.char c :: seen) rest

end Glob

/-- A pattern for whole paths. -/
structure Glob where
  pieces : List Glob.Piece
  deriving DecidableEq, Repr

namespace Glob

def parse (text : String) : Except Problem Glob := do
  return ⟨← parseFrom text.length 0 none [] text.toList⟩

def Choice.holds (c : Char) : Choice → Bool
  | one d => c = d
  | range low high => low ≤ c && c ≤ high

/-- The texts that are left when characters are taken from the front. -/
def suffixes : List Char → List (List Char)
  | [] => [[]]
  | c :: rest => (c :: rest) :: suffixes rest

/-- The texts that are left when whole components are taken from the front. -/
def afterSeparators : List Char → List (List Char)
  | [] => []
  | c :: rest => if c = '/' then rest :: afterSeparators rest else afterSeparators rest

def matchFrom : List Piece → List Char → Bool
  | [], cs => cs.isEmpty
  | .anySequence :: pieces, cs => (suffixes cs).any (matchFrom pieces)
  | .anyComponents :: pieces, cs => (cs :: afterSeparators cs ++ [[]]).any (matchFrom pieces)
  | .char d :: pieces, c :: cs => c = d && matchFrom pieces cs
  | .anyChar :: pieces, _ :: cs => matchFrom pieces cs
  | .within choices :: pieces, c :: cs => choices.any (·.holds c) && matchFrom pieces cs
  | .except choices :: pieces, c :: cs => !choices.any (·.holds c) && matchFrom pieces cs
  | _ :: _, [] => false

/-- Whether a whole path is one that the pattern stands for. -/
def holds (g : Glob) (path : String) : Bool := matchFrom g.pieces path.toList

end Glob
end Architecture.Files
