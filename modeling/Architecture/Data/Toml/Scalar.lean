import Architecture.Data.Decimal
import Architecture.Data.Notation

/-!
Texts, numbers, dates and times in TOML.
-/

namespace Architecture.Data.Toml

abbrev Reader := StateT (List Char) Option

def peek? : Reader (Option Char) := do return (← get).head?

def bump : Reader Unit := modify List.tail

def next : Reader Char := do
  match ← get with
  | c :: rest =>
    set rest
    return c
  | [] => failure

/-- Passes over a text that has to stand here. -/
def expect (text : String) : Reader Unit := do
  let cs := text.toList
  if cs.isPrefixOf (← get) then modify (·.drop cs.length) else failure

/-- Passes over a text if it stands here. -/
def accept (text : String) : Reader Bool := do
  let cs := text.toList
  if cs.isPrefixOf (← get) then
    modify (·.drop cs.length)
    return true
  else return false

/-- Tries a reader, and stands where it stood before if it fails. -/
def attempt {α : Type} (r : Reader α) : Reader (Option α) := fun s =>
  match r s with
  | some (a, rest) => some (some a, rest)
  | none => some (none, s)

def takeWhile (p : Char → Bool) : Reader (List Char) := do
  let cs ← get
  set (cs.dropWhile p)
  return cs.takeWhile p

def skipBlank : Reader Unit := do
  let _ ← takeWhile fun c => c = ' ' || c = '\t'

def newline : Reader Bool := do
  if ← accept "\n" then return true else accept "\r\n"

/-- Characters of a line that may stand in a comment. -/
def isCommentChar (c : Char) : Bool :=
  c = '\t' || (0x20 ≤ c.toNat && c.toNat ≠ 0x7F)

def comment : Reader Unit := do
  if ← accept "#" then
    let _ ← takeWhile isCommentChar

def isTextChar (c : Char) : Bool := isCommentChar c

def hexValue? (c : Char) : Option Nat :=
  if c.isDigit then some (c.toNat - '0'.toNat)
  else if 'a' ≤ c.toLower && c.toLower ≤ 'f' then some (c.toLower.toNat - 'a'.toNat + 10)
  else none

def hexCode : Nat → Nat → Reader Nat
  | 0, value => return value
  | n + 1, value => do
    match hexValue? (← next) with
    | some d => hexCode n (value * 16 + d)
    | none => failure

def scalar (code : Nat) : Reader Char :=
  if code < 0xD800 || (0xDFFF < code && code < 0x110000) then return Char.ofNat code else failure

def escaped : Reader Char := do
  match ← next with
  | 'b' => return '\x08'
  | 'f' => return '\x0c'
  | 'n' => return '\n'
  | 'r' => return '\r'
  | 't' => return '\t'
  | '"' => return '"'
  | '\\' => return '\\'
  | 'u' => scalar (← hexCode 4 0)
  | 'U' => scalar (← hexCode 8 0)
  | _ => failure

def basicBody : Nat → List Char → Reader String
  | 0, _ => failure
  | fuel + 1, seen => do
    let c ← next
    if c = '"' then return String.ofList seen.reverse
    else if c = '\\' then
      let d ← escaped
      basicBody fuel (d :: seen)
    else if isTextChar c then basicBody fuel (c :: seen)
    else failure

def literalBody : Reader String := do
  let body ← takeWhile fun c => isTextChar c && c ≠ '\''
  expect "'"
  return String.ofList body

/-- Passes over blanks and line ends; `fuel` is the length of the text. -/
def dropBlankLines : Nat → List Char → List Char
  | 0, cs => cs
  | fuel + 1, cs =>
    match cs with
    | ' ' :: rest => dropBlankLines fuel rest
    | '\t' :: rest => dropBlankLines fuel rest
    | '\n' :: rest => dropBlankLines fuel rest
    | '\r' :: '\n' :: rest => dropBlankLines fuel rest
    | cs => cs

/-- The blank rest of a line behind a backslash, with all blank lines after it. -/
def lineContinuation : Reader Bool := do
  let start ← get
  skipBlank
  if ← newline then
    modify fun cs => dropBlankLines cs.length cs
    return true
  else
    set start
    return false

/-- Quotes that end a text of several lines: up to two more may belong to the text. -/
def closingQuotes (quote : Char) : Reader (Option (List Char)) := do
  let quotes := (← get).takeWhile (· = quote)
  if quotes.length < 3 then return none
  else if 5 < quotes.length then failure
  else
    modify (·.drop quotes.length)
    return some (List.replicate (quotes.length - 3) quote)

def multilineBody (quote : Char) (escapes : Bool) : Nat → List Char → Reader String
  | 0, _ => failure
  | fuel + 1, seen => do
    match ← closingQuotes quote with
    | some extra => return String.ofList (seen.reverse ++ extra)
    | none =>
      if ← newline then multilineBody quote escapes fuel ('\n' :: seen)
      else
        let c ← next
        if escapes && c = '\\' then
          if ← lineContinuation then multilineBody quote escapes fuel seen
          else
            let d ← escaped
            multilineBody quote escapes fuel (d :: seen)
        else if isTextChar c then multilineBody quote escapes fuel (c :: seen)
        else failure

/-- A text on one line. -/
def lineText : Reader String := do
  match ← next with
  | '"' => basicBody ((← get).length + 1) []
  | '\'' => literalBody
  | _ => failure

def text : Reader String := do
  if ← accept "\"\"\"" then
    let _ ← newline
    multilineBody '"' true ((← get).length + 1) []
  else if ← accept "'''" then
    let _ ← newline
    multilineBody '\'' false ((← get).length + 1) []
  else lineText

/-! ### Numbers -/

/-- Digits with single underscores between them. -/
def digitGroup (isDigit : Char → Bool) : Nat → List Char → Reader (List Char)
  | 0, _ => failure
  | fuel + 1, seen => do
    match ← get with
    | '_' :: c :: rest =>
      if isDigit c && !seen.isEmpty then
        set rest
        digitGroup isDigit fuel (c :: seen)
      else failure
    | c :: rest =>
      if isDigit c then
        set rest
        digitGroup isDigit fuel (c :: seen)
      else if c = '_' || seen.isEmpty then failure
      else return seen.reverse
    | [] => if seen.isEmpty then failure else return seen.reverse

def digits (isDigit : Char → Bool := Char.isDigit) : Reader (List Char) := do
  digitGroup isDigit ((← get).length + 1) []

def sign : Reader Bool := do
  if ← accept "-" then return true
  else
    let _ ← accept "+"
    return false

/-- Digits without a superfluous leading zero. -/
def wholeDigits : Reader (List Char) := do
  if (← peek?) = some '0' then
    bump
    return ['0']
  else digits

def radixValue (radix : Nat) (cs : List Char) : Nat :=
  cs.foldl (fun n c => n * radix + (hexValue? c).getD 0) 0

def integerLimit : Nat := Nat.pow 2 63

def radixInteger (radix : Nat) (isDigit : Char → Bool) : Reader Value := do
  let n := radixValue radix (← digits isDigit)
  if n < integerLimit then return .int n else failure

def isHexDigit (c : Char) : Bool := (hexValue? c).isSome

def integer : Reader Value := do
  if ← accept "0x" then radixInteger 16 isHexDigit
  else if ← accept "0o" then radixInteger 8 fun c => '0' ≤ c && c ≤ '7'
  else if ← accept "0b" then radixInteger 2 fun c => c = '0' || c = '1'
  else
    let negative ← sign
    let n := radixValue 10 (← wholeDigits)
    if negative then if n ≤ integerLimit then return .int (-n) else failure
    else if n < integerLimit then return .int n else failure

def exponent : Reader (Option (Bool × List Char)) := do
  if ← ["e", "E"].anyM accept then
    let negative ← sign
    return some (negative, ← digits)
  else return none

def specialFloat : Reader Value := do
  let negative ← sign
  if ← accept "inf" then return .real (if negative then "-inf" else "inf")
  else
    expect "nan"
    return .real "nan"

def decimalFloat : Reader Value := do
  let negative ← sign
  let whole ← wholeDigits
  let fraction ← if ← accept "." then digits else pure []
  let power ← exponent
  if fraction.isEmpty && power.isNone then failure
  let e : Int := match power with
    | some (minus, ds) =>
      if minus then -(exponentValue ds : Int) else exponentValue ds
    | none => 0
  if !negative && exceedsDouble (radixValue 10 (whole ++ fraction)) (e - fraction.length) then
    failure
  let mark := match power with
    | some (minus, ds) => 'e' :: (if minus then '-' :: ds else ds)
    | none => []
  return .real (String.ofList ((if negative then ['-'] else []) ++ whole ++
    (if fraction.isEmpty then [] else '.' :: fraction) ++ mark))

/-! ### Dates and times -/

/-- A number of exactly this many digits. -/
def fixedDigits : Nat → Nat → Reader Nat
  | 0, value => return value
  | n + 1, value => do
    let c ← next
    if c.isDigit then fixedDigits n (value * 10 + (c.toNat - '0'.toNat)) else failure

def bounded (low high : Nat) (value : Nat) : Reader Nat :=
  if low ≤ value && value ≤ high then return value else failure

def isLeapYear (y : Nat) : Bool := (y % 4 = 0 && y % 100 ≠ 0) || y % 400 = 0

def daysIn (year month : Nat) : Nat :=
  if month = 2 then (if isLeapYear year then 29 else 28)
  else if [4, 6, 9, 11].contains month then 30
  else 31

def padded (width n : Nat) : String :=
  let ds := Nat.toDigits 10 n
  String.ofList (List.replicate (width - ds.length) '0' ++ ds)

def date : Reader String := do
  let year ← fixedDigits 4 0
  expect "-"
  let month ← bounded 1 12 (← fixedDigits 2 0)
  expect "-"
  let day ← bounded 1 (daysIn year month) (← fixedDigits 2 0)
  return padded 4 year ++ "-" ++ padded 2 month ++ "-" ++ padded 2 day

/-- Nine places of a fraction of a second, less the zeros at their end. -/
def fraction : Reader String := do
  let ds ← takeWhile Char.isDigit
  if ds.isEmpty then failure
  let kept := ((ds.take 9).reverse.dropWhile (· = '0')).reverse
  return if kept.isEmpty then "" else "." ++ String.ofList kept

def time : Reader String := do
  let hour ← bounded 0 23 (← fixedDigits 2 0)
  expect ":"
  let minute ← bounded 0 59 (← fixedDigits 2 0)
  expect ":"
  let second ← bounded 0 60 (← fixedDigits 2 0)
  let part ← if ← accept "." then fraction else pure ""
  return padded 2 hour ++ ":" ++ padded 2 minute ++ ":" ++ padded 2 second ++ part

def offset : Reader String := do
  if ← ["Z", "z"].anyM accept then return "Z"
  let mark ← if ← accept "-" then pure "-" else if ← accept "+" then pure "+" else failure
  let hour ← bounded 0 23 (← fixedDigits 2 0)
  expect ":"
  let minute ← bounded 0 59 (← fixedDigits 2 0)
  return mark ++ padded 2 hour ++ ":" ++ padded 2 minute

def timeAfterDate : Reader String := do
  let c ← next
  if c = 'T' || c = 't' || c = ' ' then
    let t ← time
    return "T" ++ t ++ ((← attempt offset).getD "")
  else failure

def moment : Reader Value := do
  let cs ← get
  if (cs.drop 2).head? = some ':' then return .record [(momentField, .text (← time))]
  let d ← date
  let t := (← attempt timeAfterDate).getD ""
  return .record [(momentField, .text (d ++ t))]

/-- Whether a date or a time starts here. -/
def startsMoment (cs : List Char) : Bool :=
  match cs with
  | a :: b :: ':' :: _ => a.isDigit && b.isDigit
  | a :: b :: c :: d :: '-' :: _ => a.isDigit && b.isDigit && c.isDigit && d.isDigit
  | _ => false

def number : Reader Value := do
  if startsMoment (← get) then moment
  else match ← attempt specialFloat with
    | some v => return v
    | none =>
      match ← attempt decimalFloat with
      | some v => return v
      | none => integer

end Architecture.Data.Toml
