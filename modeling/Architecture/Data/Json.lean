import Architecture.Data.Decimal
import Architecture.Data.Value
import Architecture.Text.Segments

/-!
JSON text: reading and writing.

Reading accepts nesting up to a given depth, refuses unpaired surrogates, and refuses numbers
beyond the range of double precision.
-/

namespace Architecture.Data.Json

def isBlank (c : Char) : Bool := c = ' ' || c = '\n' || c = '\t' || c = '\r'

def skipBlank (cs : List Char) : List Char := cs.dropWhile isBlank

def hexValue? (c : Char) : Option Nat :=
  if c.isDigit then some (c.toNat - '0'.toNat)
  else if 'a' ≤ c.toLower && c.toLower ≤ 'f' then some (c.toLower.toNat - 'a'.toNat + 10)
  else none

/-- Four hexadecimal digits. -/
def codeUnit? : List Char → Option (Nat × List Char)
  | a :: b :: c :: d :: rest => do
    let value := (((← hexValue? a) * 16 + (← hexValue? b)) * 16 + (← hexValue? c)) * 16 +
      (← hexValue? d)
    return (value, rest)
  | _ => none

/-- A character written as one code unit, or as two that form a surrogate pair. -/
def escapedCode? (cs : List Char) : Option (Char × List Char) := do
  let (high, rest) ← codeUnit? cs
  if high < 0xD800 || 0xDFFF < high then return (Char.ofNat high, rest)
  guard (high < 0xDC00)
  match rest with
  | '\\' :: 'u' :: rest =>
    let (low, rest) ← codeUnit? rest
    guard (0xDC00 ≤ low && low ≤ 0xDFFF)
    return (Char.ofNat (0x10000 + (high - 0xD800) * 0x400 + (low - 0xDC00)), rest)
  | _ => none

def simpleEscape? : Char → Option Char
  | '"' => some '"'
  | '\\' => some '\\'
  | '/' => some '/'
  | 'b' => some '\x08'
  | 'f' => some '\x0c'
  | 'n' => some '\n'
  | 'r' => some '\r'
  | 't' => some '\t'
  | _ => none

/-- The rest of a string after its opening quote; `fuel` bounds the number of characters. -/
def stringBody? : Nat → List Char → List Char → Option (String × List Char)
  | 0, _, _ => none
  | _, _, [] => none
  | fuel + 1, seen, c :: rest =>
    if c = '"' then some (String.ofList seen.reverse, rest)
    else if c.toNat < 0x20 then none
    else if c = '\\' then
      match rest with
      | 'u' :: rest => do
        let (d, rest) ← escapedCode? rest
        stringBody? fuel (d :: seen) rest
      | e :: rest => do
        let d ← simpleEscape? e
        stringBody? fuel (d :: seen) rest
      | [] => none
    else stringBody? fuel (c :: seen) rest

structure NumberText where
  negative : Bool
  whole : List Char
  fraction : Option (List Char) := none
  exponent : Option (Bool × List Char) := none

/-- A number after its sign, which has no superfluous leading zero. -/
def numberText? (negative : Bool) (cs : List Char) : Option (NumberText × List Char) := do
  let whole := cs.takeWhile (·.isDigit)
  let rest := cs.dropWhile (·.isDigit)
  guard (!whole.isEmpty && (whole.length = 1 || whole.head? ≠ some '0'))
  let (fraction, rest) ← match rest with
    | '.' :: rest =>
      let digits := rest.takeWhile (·.isDigit)
      if digits.isEmpty then none else some (some digits, rest.dropWhile (·.isDigit))
    | _ => some (none, rest)
  let (exponent, rest) ← match rest with
    | c :: rest' =>
      if c = 'e' || c = 'E' then
        let (minus, rest') := match rest' with
          | '-' :: r => (true, r)
          | '+' :: r => (false, r)
          | r => (false, r)
        let digits := rest'.takeWhile (·.isDigit)
        if digits.isEmpty then none
        else some (some (minus, digits), rest'.dropWhile (·.isDigit))
      else some (none, rest)
    | [] => some (none, rest)
  return ({ negative, whole, fraction, exponent }, rest)

namespace NumberText

def toString (n : NumberText) : String :=
  let exponent := match n.exponent with
    | some (minus, digits) => 'e' :: (if minus then '-' :: digits else digits)
    | none => []
  String.ofList <| (if n.negative then ['-'] else []) ++ n.whole ++
    (match n.fraction with | some f => '.' :: f | none => []) ++ exponent

/-- Integers of 64 bits are kept as such; other numbers are real and have to be in range. -/
def value? (n : NumberText) : Option Value :=
  let whole := digitsValue n.whole
  let isInteger := n.fraction.isNone && n.exponent.isNone
  if isInteger && !n.negative && whole < Nat.pow 2 64 then some (.int whole)
  else if isInteger && n.negative && 0 < whole && whole ≤ Nat.pow 2 63 then some (.int (-whole))
  else
    let fraction := n.fraction.getD []
    let exponent : Int := match n.exponent with
      | some (minus, digits) =>
        if minus then -(exponentValue digits : Int) else exponentValue digits
      | none => 0
    if exceedsDouble (digitsValue (n.whole ++ fraction)) (exponent - fraction.length) then none
    else some (.real n.toString)

end NumberText

mutual

/-- A value and what follows it. `fuel` bounds the steps and `depth` the nesting. -/
def value? : Nat → Nat → List Char → Option (Value × List Char)
  | 0, _, _ => none
  | fuel + 1, depth, cs =>
    match skipBlank cs with
    | 'n' :: 'u' :: 'l' :: 'l' :: rest => some (.null, rest)
    | 't' :: 'r' :: 'u' :: 'e' :: rest => some (.bool true, rest)
    | 'f' :: 'a' :: 'l' :: 's' :: 'e' :: rest => some (.bool false, rest)
    | '"' :: rest => (stringBody? (rest.length + 1) [] rest).map fun (s, rest) => (.text s, rest)
    | '[' :: rest =>
      match depth with
      | 0 => none
      | depth + 1 =>
        match skipBlank rest with
        | ']' :: rest => some (.list [], rest)
        | rest => (items? fuel depth rest).map fun (xs, rest) => (.list xs, rest)
    | '\x7b' :: rest =>
      match depth with
      | 0 => none
      | depth + 1 =>
        match skipBlank rest with
        | '\x7d' :: rest => some (.record [], rest)
        | rest => (fields? fuel depth rest).map fun (fs, rest) => (.record fs, rest)
    | '-' :: rest => do
      let (n, rest) ← numberText? true rest
      return (← n.value?, rest)
    | rest => do
      let (n, rest) ← numberText? false rest
      return (← n.value?, rest)

def items? : Nat → Nat → List Char → Option (List Value × List Char)
  | 0, _, _ => none
  | fuel + 1, depth, cs => do
    let (v, rest) ← value? fuel depth cs
    match skipBlank rest with
    | ',' :: rest =>
      let (vs, rest) ← items? fuel depth rest
      return (v :: vs, rest)
    | ']' :: rest => return ([v], rest)
    | _ => none

def fields? : Nat → Nat → List Char → Option (List (String × Value) × List Char)
  | 0, _, _ => none
  | fuel + 1, depth, cs =>
    match skipBlank cs with
    | '"' :: rest => do
      let (name, rest) ← stringBody? (rest.length + 1) [] rest
      match skipBlank rest with
      | ':' :: rest =>
        let (v, rest) ← value? fuel depth rest
        match skipBlank rest with
        | ',' :: rest =>
          let (fs, rest) ← fields? fuel depth rest
          return ((name, v) :: fs, rest)
        | '\x7d' :: rest => return ([(name, v)], rest)
        | _ => none
      | _ => none
    | _ => none

end

def depthLimit : Nat := 127

/-- The value that a whole text writes. -/
def parse? (text : String) (depth : Nat := depthLimit) : Option Value := do
  let cs := text.toList
  let (v, rest) ← value? (2 * cs.length + 2) depth cs
  guard (skipBlank rest).isEmpty
  return v

def hexDigit (n : Nat) : Char := (Nat.toDigits 16 n).headD '0'

def escapeChar (c : Char) : List Char :=
  match c with
  | '"' => ['\\', '"']
  | '\\' => ['\\', '\\']
  | '\x08' => ['\\', 'b']
  | '\x0c' => ['\\', 'f']
  | '\n' => ['\\', 'n']
  | '\r' => ['\\', 'r']
  | '\t' => ['\\', 't']
  | c =>
    if c.toNat < 0x20 then
      ['\\', 'u', '0', '0', hexDigit (c.toNat / 16), hexDigit (c.toNat % 16)]
    else [c]

def quote (s : String) : String :=
  "\"" ++ String.ofList (s.toList.flatMap escapeChar) ++ "\""

mutual

/-- A value on one line. -/
def render : Value → String
  | .null => "null"
  | .bool b => if b then "true" else "false"
  | .int n => toString n
  | .real digits => digits
  | .text s => quote s
  | .list items => "[" ++ Text.join "," (renderItems items) ++ "]"
  | .record fields => "\x7b" ++ Text.join "," (renderFields fields) ++ "\x7d"

def renderItems : List Value → List String
  | [] => []
  | v :: rest => render v :: renderItems rest

def renderFields : List (String × Value) → List String
  | [] => []
  | (name, v) :: rest => (quote name ++ ":" ++ render v) :: renderFields rest

end

def spaces (n : Nat) : String := String.ofList (List.replicate n ' ')

/-- Lines between two brackets, one step further in than the brackets. -/
def block (opening closing : String) (indent : Nat) (lines : List String) : String :=
  if lines.isEmpty then opening ++ closing
  else opening ++ "\n" ++
    Text.join ",\n" (lines.map (spaces (indent + 2) ++ ·)) ++ "\n" ++ spaces indent ++ closing

mutual

/-- A value with one item or field a line. -/
def renderPretty (indent : Nat) : Value → String
  | .list items => block "[" "]" indent (prettyItems (indent + 2) items)
  | .record fields => block "\x7b" "\x7d" indent (prettyFields (indent + 2) fields)
  | v => render v

def prettyItems (indent : Nat) : List Value → List String
  | [] => []
  | v :: rest => renderPretty indent v :: prettyItems indent rest

def prettyFields (indent : Nat) : List (String × Value) → List String
  | [] => []
  | (name, v) :: rest =>
    (quote name ++ ": " ++ renderPretty indent v) :: prettyFields indent rest

end

end Architecture.Data.Json
