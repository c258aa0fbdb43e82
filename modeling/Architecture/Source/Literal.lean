import Architecture.Unicode.Category
import Architecture.Text.Blank

/-!
Literals of source text.

A recogniser gives the rest of the text behind the literal that it starts with. `textValue?` gives
what a text literal stands for.
-/

namespace Architecture.Source

/-- The rest of a text behind what a recogniser accepts. -/
abbrev Recogniser := List Char → Option (List Char)

def isWordStart (c : Char) : Bool := c = '_' || Unicode.isIdentifierStart c

def isWordPart (c : Char) : Bool := Unicode.isIdentifierPart c

def isHexDigit (c : Char) : Bool :=
  c.isDigit || ('a' ≤ c && c ≤ 'f') || ('A' ≤ c && c ≤ 'F')

def hexValue (c : Char) : Nat :=
  if c.isDigit then c.toNat - '0'.toNat
  else if 'a' ≤ c && c ≤ 'f' then c.toNat - 'a'.toNat + 10
  else c.toNat - 'A'.toNat + 10

def isScalar (n : Nat) : Bool := n < 0xD800 || (0xDFFF < n && n < 0x110000)

namespace Literal

/-- A plain word, which is also what a suffix looks like. -/
def word? : Recogniser
  | [] => none
  | c :: rest => if isWordStart c then some (rest.dropWhile isWordPart) else none

def afterSuffix (cs : List Char) : List Char := (word? cs).getD cs

/-- The digits of `\u{…}` behind the opening brace: one to six, with underscores behind the
first. -/
def unicodeDigits? : Nat → Nat → List Char → Option (Nat × List Char)
  | _, _, [] => none
  | count, value, c :: rest =>
    if isHexDigit c then
      if count = 6 then none else unicodeDigits? (count + 1) (value * 16 + hexValue c) rest
    else if count = 0 then none
    else if c = '_' then unicodeDigits? count value rest
    else if c = '\x7d' && isScalar value then some (value, rest)
    else none

/-- What may be written between quotes. -/
inductive Contents where
  | text
  | bytes
  | terminated
  deriving DecidableEq

/-- What a backslash and the characters behind it stand for, a line break apart. -/
def escape? (contents : Contents) : List Char → Option (Nat × List Char)
  | 'n' :: rest => some (10, rest)
  | 'r' :: rest => some (13, rest)
  | 't' :: rest => some (9, rest)
  | '\\' :: rest => some (92, rest)
  | '\'' :: rest => some (39, rest)
  | '"' :: rest => some (34, rest)
  | '0' :: rest => if contents = .terminated then none else some (0, rest)
  | 'x' :: high :: low :: rest =>
    let value := hexValue high * 16 + hexValue low
    let allowed := match contents with
      | .text => value < 128
      | .bytes => true
      | .terminated => value ≠ 0
    if isHexDigit high && isHexDigit low && allowed then some (value, rest) else none
  | 'u' :: '\x7b' :: rest =>
    if contents = .bytes then none
    else do
      let (value, rest) ← unicodeDigits? 0 0 rest
      if contents = .terminated && value = 0 then none else some (value, rest)
  | _ => none

/-- The blanks behind a backslash at the end of a line. A carriage return needs its line feed. -/
def afterLineBreak : Bool → Recogniser
  | true, '\n' :: rest => afterLineBreak false rest
  | true, _ => none
  | false, [] => none
  | false, c :: rest =>
    if c = '\r' then afterLineBreak true rest
    else if c = ' ' || c = '\t' || c = '\n' then afterLineBreak false rest
    else some (c :: rest)

/-- The rest behind the closing quote; `fuel` is the length of the text. -/
def quoted? (contents : Contents) : Nat → Recogniser
  | 0, _ => none
  | _, [] => none
  | fuel + 1, c :: rest =>
    if c = '"' then some (afterSuffix rest)
    else if c = '\r' then
      match rest with
      | '\n' :: rest => quoted? contents fuel rest
      | _ => none
    else if c = '\\' then
      match rest with
      | '\n' :: rest => do quoted? contents fuel (← afterLineBreak false rest)
      | '\r' :: rest => do quoted? contents fuel (← afterLineBreak true rest)
      | _ => do quoted? contents fuel (← escape? contents rest).2
    else if contents = .bytes && 128 ≤ c.toNat then none
    else if contents = .terminated && c.toNat = 0 then none
    else quoted? contents fuel rest

/-- The rest behind a quote and `hashes` hash signs. -/
def rawBody? (contents : Contents) (hashes : List Char) : Recogniser
  | [] => none
  | '"' :: rest =>
    if hashes.isPrefixOf rest then some (afterSuffix (rest.drop hashes.length))
    else rawBody? contents hashes rest
  | '\r' :: '\n' :: rest => rawBody? contents hashes rest
  | c :: rest =>
    if c = '\r' then none
    else if contents = .bytes && 128 ≤ c.toNat then none
    else if contents = .terminated && c.toNat = 0 then none
    else rawBody? contents hashes rest

/-- A raw text from its hash signs on, of which there are at most 255. -/
def raw? (contents : Contents) : Recogniser := fun cs =>
  let hashes := cs.takeWhile (· = '#')
  match cs.drop hashes.length with
  | '"' :: rest => if hashes.length ≤ 255 then rawBody? contents hashes rest else none
  | _ => none

def string? : Recogniser
  | '"' :: rest => quoted? .text (rest.length + 1) rest
  | 'r' :: rest => raw? .text rest
  | 'b' :: '"' :: rest => quoted? .bytes (rest.length + 1) rest
  | 'b' :: 'r' :: rest => raw? .bytes rest
  | 'c' :: '"' :: rest => quoted? .terminated (rest.length + 1) rest
  | 'c' :: 'r' :: rest => raw? .terminated rest
  | _ => none

/-- One character or escape and the quote that closes it. -/
def charBody? (contents : Contents) : Recogniser
  | [] => none
  | '\\' :: rest => do
    match (← escape? contents rest).2 with
    | '\'' :: rest => some (afterSuffix rest)
    | _ => none
  | c :: rest =>
    if contents = .bytes && 128 ≤ c.toNat then none
    else match rest with
      | '\'' :: rest => some (afterSuffix rest)
      | _ => none

def char? : Recogniser
  | 'b' :: '\'' :: rest => charBody? .bytes rest
  | '\'' :: rest => charBody? .text rest
  | _ => none

/-- A number takes in the word right behind it and has to end there. -/
def numberEnd? (cs : List Char) : Option (List Char) :=
  let rest := afterSuffix cs
  match rest with
  | [] => some []
  | c :: _ => if isWordPart c then none else some rest

/-- Digits, underscores and at most one point, which no point and no word follows. -/
def decimalPart? : Bool → List Char → Option (Bool × List Char)
  | dotted, [] => some (dotted, [])
  | dotted, c :: rest =>
    if c.isDigit || c = '_' then decimalPart? dotted rest
    else if c = '.' && !dotted then
      match rest with
      | next :: _ => if next = '.' || isWordStart next then none else decimalPart? true rest
      | [] => some (true, [])
    else some (dotted, c :: rest)

/-- Whether an exponent is one: at most one sign, and a digit. -/
def exponent? : Bool → Bool → Recogniser
  | _, valued, [] => if valued then some [] else none
  | signed, valued, c :: rest =>
    if c = '+' || c = '-' then
      if valued then some (c :: rest)
      else if signed then none
      else exponent? true false rest
    else if c.isDigit then exponent? signed true rest
    else if c = '_' then exponent? signed valued rest
    else if valued then some (c :: rest)
    else none

def float? : Recogniser
  | [] => none
  | c :: rest =>
    if !c.isDigit then none
    else do
      let (dotted, rest) ← decimalPart? false rest
      let marked := match rest with
        | 'e' :: _ => true
        | 'E' :: _ => true
        | _ => false
      if marked then
        match exponent? false false rest.tail with
        | some after => numberEnd? after
        | none => if dotted then numberEnd? rest else none
      else if dotted then numberEnd? rest
      else none

/-- The digits of a base; a decimal digit too large for it spoils the number. -/
def digits? (base : Nat) : Bool → Recogniser
  | isEmpty, [] => if isEmpty then none else some []
  | isEmpty, c :: rest =>
    if c.isDigit then
      if base ≤ hexValue c then none else digits? base false rest
    else if isHexDigit c && hexValue c < base then digits? base false rest
    else if c = '_' then
      if isEmpty && base = 10 then none else digits? base isEmpty rest
    else if isEmpty then none
    else some (c :: rest)

def integer? : Recogniser
  | '0' :: 'x' :: rest => do numberEnd? (← digits? 16 true rest)
  | '0' :: 'o' :: rest => do numberEnd? (← digits? 8 true rest)
  | '0' :: 'b' :: rest => do numberEnd? (← digits? 2 true rest)
  | cs => do numberEnd? (← digits? 10 true cs)

/-- Any literal. A text that starts like a float and fails as one may still be an integer. -/
def end? (cs : List Char) : Option (List Char) :=
  string? cs <|> char? cs <|> float? cs <|> integer? cs

/-- Whether the text of a literal is that of a number. -/
def isNumber (text : String) : Bool :=
  match text.toList with
  | c :: _ => c.isDigit
  | [] => false

/-- Whether the text of a literal is that of a number with a fraction or an exponent. -/
def isFloat (text : String) : Bool :=
  match text.toList with
  | '0' :: 'x' :: _ => false
  | '0' :: 'o' :: _ => false
  | '0' :: 'b' :: _ => false
  | cs => isNumber text && (float? cs).isSome

/-- Whether the text of a literal is that of a text. -/
def isText (text : String) : Bool :=
  match text.toList with
  | '"' :: _ => true
  | 'r' :: _ => true
  | _ => false

/-- What stands between quotes; `fuel` is the length of the text. -/
def quotedValue : Nat → List Char → List Char
  | 0, _ => []
  | _, [] => []
  | fuel + 1, c :: rest =>
    if c = '"' then []
    else if c = '\r' then '\n' :: quotedValue fuel rest.tail
    else if c = '\\' then
      match rest with
      | '\n' :: rest => quotedValue fuel (rest.dropWhile Text.isBlank)
      | '\r' :: rest => quotedValue fuel (rest.dropWhile Text.isBlank)
      | _ =>
        match escape? .text rest with
        | some (value, rest) => Char.ofNat value :: quotedValue fuel rest
        | none => []
    else c :: quotedValue fuel rest

def rawValue (hashes : List Char) : List Char → List Char
  | [] => []
  | c :: rest =>
    if c = '"' && hashes.isPrefixOf rest then [] else c :: rawValue hashes rest

/-- What a text literal stands for. -/
def textValue? (text : String) : Option String :=
  match text.toList with
  | '"' :: rest => some (String.ofList (quotedValue (rest.length + 1) rest))
  | 'r' :: rest =>
    let hashes := rest.takeWhile (· = '#')
    some (String.ofList (rawValue hashes (rest.drop (hashes.length + 1))))
  | _ => none

/-- How one character is written between quotes. -/
def escaped (c : Char) : String :=
  if c = '"' then "\\\""
  else if c = '\\' then "\\\\"
  else if c = '\n' then "\\n"
  else if c = '\r' then "\\r"
  else if c = '\t' then "\\t"
  else if c.toNat = 0 then "\\0"
  else if c.toNat < 32 || c.toNat = 127 then
    "\\u\x7b" ++ String.ofList (Nat.toDigits 16 c.toNat) ++ "\x7d"
  else String.singleton c

/-- A text literal that stands for the given characters. -/
def ofText (cs : List Char) : String :=
  "\"" ++ String.join (cs.map escaped) ++ "\""

end Literal
end Architecture.Source
