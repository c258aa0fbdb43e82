import Architecture.Source.Grammar.Items
import Architecture.Source.Grammar.Statements
import Architecture.Source.Token.Lexer

/-!
From text to what it declares.

The grammar is tied together level by level: each level reads its parts with the level below. Every
second level passes a token, so as many levels as there are tokens, twice, are enough for a text.
-/

namespace Architecture.Source

/-- The grammar whose parts are read by `g`. -/
def Grammar.next (g : Grammar) : Grammar where
  bindableType := g.typeOnce
  bound := g.boundOnce
  expression := g.expressionOnce
  operand := g.operandOnce
  early := g.earlyOnce
  operators := g.operatorsOnce
  pattern := g.patternOnce
  statements := g.statementsOnce
  item := g.itemOnce

/-- So many levels above `g`. -/
def Grammar.raised : Nat → Grammar → Grammar
  | 0, g => g
  | n + 1, g => raised n g.next

/-- A grammar that is high enough for a list of tokens. -/
def Grammar.reaching (tokens : List Token) : Grammar :=
  Grammar.raised (2 * Token.sizeOfList tokens + 2) .nothing

/-- Reads a whole list of tokens. -/
def parseTokens? {α : Type} (read : Grammar → Reader α) (tokens : List Token) : Option α :=
  (read (.reaching tokens)).runWhole tokens

/-- Reads a whole text. -/
def parse? {α : Type} (read : Grammar → Reader α) (text : String) : Option α := do
  parseTokens? read (← Token.scan? text)

/-- The items of a file. -/
def parseFile? (text : String) : Option (List Item) :=
  parse? (fun g => do
    discard g.innerAttributes
    Reader.toEnd do g.item (← g.outerAttributes)) (Token.fileText text)

def parsePath? (text : String) : Option Path :=
  parse? (fun g => do return (← g.argued false).path) text

def parseVisibility? (text : String) : Option Visibility :=
  parse? (fun _ => Grammar.visibility) text

def parseAttributes? (text : String) : Option (List Attribute) :=
  parse? Grammar.outerAttributes text

/-- Paths with commas between them, each by its last name. -/
def parseNames? (tokens : List Token) : Option (List String) :=
  parseTokens? (fun g => Reader.commaList do
    return (← g.argued false).path.names.getLast?.getD "") tokens

end Architecture.Source
