import Architecture.Text.Blank
import Architecture.Unicode.Age
import Architecture.Unicode.Boundary
import Architecture.Unicode.Case
import Architecture.Unicode.Flag
import Architecture.Unicode.Script

/-!
Sets of characters, as patterns write them.

The properties that a set may be written by are those of version 15.0 of the Unicode standard. A
character without a part in the division of a text into characters, words or sentences is in no set
of that kind.
-/

namespace Architecture.Pattern

/-- Sets of characters with a name of their own. -/
inductive Property where
  | any
  | ascii
  | assigned
  | digit
  | space
  | word
  | flag (name : String)
  | category (code : String)
  | script (code : String)
  | usedInScript (code : String)
  | assignedIn (version : Char)
  | characterPart (code : String)
  | wordPart (code : String)
  | sentencePart (code : String)
deriving DecidableEq, Repr

namespace Property

def contains : Property → Char → Bool
  | .any, _ => true
  | .ascii, c => c.toNat < 0x80
  | .assigned, c => Unicode.category c ≠ "Cn"
  | .digit, c => Unicode.isDigit c
  | .space, c => Text.isBlank c
  | .word, c => Unicode.isWord c
  | .flag name, c => Unicode.hasFlag name c
  | .category code, c =>
    if code = "LC" then ["Lu", "Ll", "Lt"].contains (Unicode.category c)
    else code.toList.isPrefixOf (Unicode.category c).toList
  | .script code, c => Unicode.script c = code
  | .usedInScript code, c => (Unicode.scripts c).contains code
  | .assignedIn version, c => Unicode.isAssignedIn version c
  | .characterPart code, c => Unicode.characterPart c = code
  | .wordPart code, c => Unicode.wordPart c = code
  | .sentencePart code, c => Unicode.sentencePart c = code

/-- A name as it is compared: small letters without separators and without a leading `is`. -/
def looseName (text : String) : String :=
  let kept := (text.toList.filter fun c => c.toNat < 0x80 && !(c = ' ' || c = '_' || c = '-')).map
    Char.toLower
  match kept with
  | 'i' :: 's' :: 'c' :: [] => "isc"
  | 'i' :: 's' :: rest => String.ofList rest
  | _ => String.ofList kept

/-- General categories with their long names. -/
def categoryNames : List (String × List String) :=
  [("C", ["other"]), ("Cc", ["control", "cntrl"]), ("Cf", ["format"]), ("Cn", ["unassigned"]),
    ("Co", ["privateuse"]), ("Cs", ["surrogate"]), ("L", ["letter"]), ("LC", ["casedletter"]),
    ("Ll", ["lowercaseletter"]), ("Lm", ["modifierletter"]), ("Lo", ["otherletter"]),
    ("Lt", ["titlecaseletter"]), ("Lu", ["uppercaseletter"]), ("M", ["mark", "combiningmark"]),
    ("Mc", ["spacingmark"]), ("Me", ["enclosingmark"]), ("Mn", ["nonspacingmark"]),
    ("N", ["number"]), ("Nd", ["decimalnumber", "digit"]), ("Nl", ["letternumber"]),
    ("No", ["othernumber"]), ("P", ["punctuation", "punct"]), ("Pc", ["connectorpunctuation"]),
    ("Pd", ["dashpunctuation"]), ("Pe", ["closepunctuation"]), ("Pf", ["finalpunctuation"]),
    ("Pi", ["initialpunctuation"]), ("Po", ["otherpunctuation"]), ("Ps", ["openpunctuation"]),
    ("S", ["symbol"]), ("Sc", ["currencysymbol"]), ("Sk", ["modifiersymbol"]),
    ("Sm", ["mathsymbol"]), ("So", ["othersymbol"]), ("Z", ["separator"]),
    ("Zl", ["lineseparator"]), ("Zp", ["paragraphseparator"]), ("Zs", ["spaceseparator"])]

def ofCategory? (name : String) : Option Property :=
  match name with
  | "any" => some .any
  | "ascii" => some .ascii
  | "assigned" => some .assigned
  | _ =>
    (categoryNames.find? fun (code, names) => looseName code = name || names.contains name).map
      fun (code, _) => .category code

/-- The short name in a list of short and long names that a name stands for. -/
def code? (names : List (String × String)) (name : String) : Option String :=
  (names.find? fun (short, long) => looseName short = name || looseName long = name).map (·.1)

def ofScript? (name : String) : Option Property :=
  (code? Unicode.scriptNames name).map .script

def ofFlag? (name : String) : Option Property :=
  if Unicode.flags.any (·.names.contains name) then some (.flag name) else none

/-- A version by its number, or by a `v` and the digits of its number. -/
def ofVersion? (name : String) : Option Property :=
  (Unicode.versions.find? fun (number, _) =>
    name = number || name.toList = 'v' :: number.toList.filter (· ≠ '.')).map
      fun (_, version) => .assignedIn version

/-- The property that one name stands for, or a name and a value. -/
def parse? (name : String) (value : Option String) : Option Property :=
  let name := looseName name
  match value with
  | none => ofFlag? name <|> ofCategory? name <|> ofScript? name
  | some value =>
    let value := looseName value
    if ["generalcategory", "gc"].contains name then ofCategory? value
    else if ["script", "sc"].contains name then ofScript? value
    else if ["scriptextensions", "scx"].contains name then
      (code? Unicode.scriptNames value).map .usedInScript
    else if name = "age" then ofVersion? value
    else if ["graphemeclusterbreak", "gcb"].contains name then
      (code? Unicode.characterPartNames value).map .characterPart
    else if ["wordbreak", "wb"].contains name then
      (code? Unicode.wordPartNames value).map .wordPart
    else if ["sentencebreak", "sb"].contains name then
      (code? Unicode.sentencePartNames value).map .sentencePart
    else none

end Property

inductive CharClass where
  | none
  | range (low high : Nat)
  | property (p : Property)
  | union (a b : CharClass)
  | inter (a b : CharClass)
  | diff (a b : CharClass)
  | symmDiff (a b : CharClass)
  | negate (a : CharClass)
  | anyCase (a : CharClass)
deriving Repr

namespace CharClass

def contains : CharClass → Char → Bool
  | .none, _ => false
  | .range low high, c => low ≤ c.toNat && c.toNat ≤ high
  | .property p, c => p.contains c
  | .union a b, c => a.contains c || b.contains c
  | .inter a b, c => a.contains c && b.contains c
  | .diff a b, c => a.contains c && !b.contains c
  | .symmDiff a b, c => a.contains c != b.contains c
  | .negate a, c => !a.contains c
  | .anyCase a, c => (Unicode.caseVariants c).any a.contains

def char (c : Char) : CharClass := .range c.toNat c.toNat

def ofRanges (ranges : List (Char × Char)) : CharClass :=
  ranges.foldl (fun cls (low, high) => .union cls (.range low.toNat high.toNat)) .none

def negateIf (negated : Bool) (cls : CharClass) : CharClass :=
  if negated then .negate cls else cls

/-- Whether the set stays within the first 128 characters, among those of one byte. -/
def isAsciiByte (cls : CharClass) : Bool :=
  (List.range 128).all fun n => !cls.contains (Char.ofNat (n + 128))

def asciiDigit : CharClass := ofRanges [('0', '9')]

def asciiSpace : CharClass := ofRanges [('\t', '\r'), (' ', ' ')]

def asciiWord : CharClass := ofRanges [('0', '9'), ('A', 'Z'), ('_', '_'), ('a', 'z')]

/-- The sets that are written as a name between colons. -/
def named? : String → Option CharClass
  | "alnum" => some (ofRanges [('0', '9'), ('A', 'Z'), ('a', 'z')])
  | "alpha" => some (ofRanges [('A', 'Z'), ('a', 'z')])
  | "ascii" => some (.range 0 0x7F)
  | "blank" => some (ofRanges [('\t', '\t'), (' ', ' ')])
  | "cntrl" => some (.union (.range 0 0x1F) (.range 0x7F 0x7F))
  | "digit" => some asciiDigit
  | "graph" => some (ofRanges [('!', '~')])
  | "lower" => some (ofRanges [('a', 'z')])
  | "print" => some (ofRanges [(' ', '~')])
  | "punct" => some (ofRanges [('!', '/'), (':', '@'), ('[', '`'), ('\x7b', '~')])
  | "space" => some asciiSpace
  | "upper" => some (ofRanges [('A', 'Z')])
  | "word" => some asciiWord
  | "xdigit" => some (ofRanges [('0', '9'), ('A', 'F'), ('a', 'f')])
  | _ => Option.none

/-- A rough number of bytes that an automaton spends on one character of the set. Properties are
rounded up to a few sizes. -/
def weight : CharClass → Nat
  | .none => 32
  | .range _ high => if high < 0x80 then 32 else 128
  | .property .word => 50000
  | .property .digit => 5000
  | .property .space => 500
  | .property .any => 500
  | .property .ascii => 40
  | .property _ => 20000
  | .union a b => a.weight + b.weight
  | .inter a b => a.weight + b.weight
  | .diff a b => a.weight + b.weight
  | .symmDiff a b => a.weight + b.weight
  | .negate a => a.weight + 300
  | .anyCase a => a.weight + 16

end CharClass

end Architecture.Pattern
