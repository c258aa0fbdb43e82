import Architecture.Pattern.CharClass

/-!
Patterns as trees, and the search for one in a text.

A set of positions in a text is a number whose bits are the positions. A tree maps the positions
where it may begin to those where it may end, so a text has a match exactly if some position is
reached from all of them.
-/

namespace Architecture.Pattern

/-- Conditions on a position, which take up no text. -/
inductive Look where
  | textStart
  | textEnd
  | lineStart
  | lineEnd
  | lineStartCrlf
  | lineEndCrlf
  | wordBoundary (unicode negated : Bool)
  | wordStart (unicode : Bool)
  | wordEnd (unicode : Bool)
  | wordStartHalf (unicode : Bool)
  | wordEndHalf (unicode : Bool)
deriving DecidableEq, Repr

namespace Look

def isWord (unicode : Bool) (c : Option Char) : Bool :=
  c.any fun c => if unicode then Unicode.isWord c else c.isAlphanum || c = '_'

/-- Whether the condition holds between two neighbouring characters; a missing one is the end of
the text. -/
def holds (before after : Option Char) : Look → Bool
  | .textStart => before.isNone
  | .textEnd => after.isNone
  | .lineStart => before.isNone || before = some '\n'
  | .lineEnd => after.isNone || after = some '\n'
  | .lineStartCrlf =>
    before.isNone || before = some '\n' || (before = some '\r' && after ≠ some '\n')
  | .lineEndCrlf =>
    after.isNone || after = some '\r' || (after = some '\n' && before ≠ some '\r')
  | .wordBoundary u negated => (isWord u before != isWord u after) != negated
  | .wordStart u => !isWord u before && isWord u after
  | .wordEnd u => isWord u before && !isWord u after
  | .wordStartHalf u => !isWord u before
  | .wordEndHalf u => !isWord u after

end Look

inductive Node where
  | empty
  | one (cls : CharClass)
  | look (l : Look)
  | cat (a b : Node)
  | alt (a b : Node)
  | rep (a : Node) (min : Nat) (max : Option Nat)
deriving Repr

/-- The positions of a text at which a condition on both neighbours holds. -/
def positions (holds : Option Char → Option Char → Bool) (text : List Char) : Nat :=
  go none text 0 0
where
  go (before : Option Char) : List Char → Nat → Nat → Nat
    | [], i, acc => if holds before none then acc ||| (1 <<< i) else acc
    | c :: rest, i, acc =>
      go (some c) rest (i + 1) (if holds before (some c) then acc ||| (1 <<< i) else acc)

/-- `n` steps from a set of positions, ended early once a step changes nothing. -/
def iterate (step : Nat → Nat) : Nat → Nat → Nat
  | 0, s => s
  | n + 1, s =>
    let next := step s
    if next = s then s else iterate step n next

namespace Node

def run (text : List Char) : Node → Nat → Nat
  | .empty, s => s
  | .one cls, s => (s &&& positions (fun _ after => after.any cls.contains) text) <<< 1
  | .look l, s => s &&& positions l.holds text
  | .cat a b, s => b.run text (a.run text s)
  | .alt a b, s => a.run text s ||| b.run text s
  | .rep a min max, s =>
    let first := iterate (a.run text) min s
    let extra := match max with
      | some max => max - min
      | none => text.length + 1
    iterate (fun s => s ||| a.run text s) extra first

/-- Whether some part of the text matches. -/
def isMatch (n : Node) (text : List Char) : Bool :=
  n.run text (positions (fun _ _ => true) text) ≠ 0

/-- A rough number of bytes that an automaton for the tree would take: what is repeated counts as
often as it has to be there, and each time that it may be left out has a branch of its own. -/
def weight : Node → Nat
  | .empty => 0
  | .one cls => cls.weight
  | .look _ => 32
  | .cat a b => a.weight + b.weight
  | .alt a b => a.weight + b.weight + 32
  | .rep a min max =>
    match max with
    | some max => a.weight * min + (a.weight + 32) * (max - min) + 32
    | none => a.weight * Nat.max min 1 + 64

end Node

end Architecture.Pattern
