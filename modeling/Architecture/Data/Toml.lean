import Architecture.Data.Toml.Document
import Architecture.Data.Toml.Scalar

/-!
TOML text.
-/

namespace Architecture.Data.Toml

/-- How deep values may be nested, and how many parts a key may have. -/
def depthLimit : Nat := 80

def isBareKeyChar (c : Char) : Bool := c.isAlphanum || c = '-' || c = '_'

def simpleKey : Reader String := do
  match ← peek? with
  | some '"' => lineText
  | some '\'' => lineText
  | _ =>
    let cs ← takeWhile isBareKeyChar
    if cs.isEmpty then failure else return String.ofList cs

def keyParts : Nat → List String → Reader (List String)
  | 0, _ => failure
  | fuel + 1, seen => do
    skipBlank
    let part ← simpleKey
    skipBlank
    if ← accept "." then keyParts fuel (part :: seen)
    else
      let parts := (part :: seen).reverse
      if parts.length < depthLimit then return parts else failure

/-- A key, which dots cut into parts. -/
def key : Reader (List String) := do keyParts ((← get).length + 1) []

/-- Passes over blanks, comments and line ends; `fuel` is the length of the text. -/
def skipLines : Nat → Reader Unit
  | 0 => return
  | fuel + 1 => do
    skipBlank
    if (← peek?) = some '#' then
      comment
      if ← newline then skipLines fuel else failure
    else if ← newline then skipLines fuel

def skipAllLines : Reader Unit := do skipLines ((← get).length + 1)

mutual

def value : Nat → Nat → Reader Value
  | 0, _ => failure
  | fuel + 1, depth => do
    match ← peek? with
    | none => failure
    | some c =>
      if c = '"' || c = '\'' then return .text (← text)
      else if c = '[' then
        match depth with
        | 0 => failure
        | depth + 1 =>
          bump
          return .list (← items fuel depth [])
      else if c = '\x7b' then
        match depth with
        | 0 => failure
        | depth + 1 =>
          bump
          skipBlank
          if ← accept "\x7d" then return .record []
          else return .record (fieldValues (← pairs fuel depth []))
      else if c = 't' then
        expect "true"
        return .bool true
      else if c = 'f' then
        expect "false"
        return .bool false
      else number

/-- The items of an array up to its closing bracket. -/
def items : Nat → Nat → List Value → Reader (List Value)
  | 0, _, _ => failure
  | fuel + 1, depth, seen => do
    skipAllLines
    if ← accept "]" then return seen.reverse
    else
      let v ← value fuel depth
      skipAllLines
      if ← accept "," then items fuel depth (v :: seen)
      else
        expect "]"
        return (v :: seen).reverse

/-- The assignments of an inline table up to its closing brace. -/
def pairs : Nat → Nat → Fields → Reader Fields
  | 0, _, _ => failure
  | fuel + 1, depth, fields => do
    let path ← key
    expect "="
    skipBlank
    let v ← value fuel depth
    match Fields.assign v path fields with
    | none => failure
    | some fields =>
      skipBlank
      if ← accept "," then pairs fuel depth fields
      else
        expect "\x7d"
        return fields

end

def header (d : Document) : Reader Document := do
  let isArray ← accept "[["
  if !isArray then expect "["
  let path ← key
  expect (if isArray then "]]" else "]")
  match if isArray then d.appendTable path else d.openTable path with
  | some d => return d
  | none => failure

def assignment (d : Document) : Reader Document := do
  let path ← key
  expect "="
  skipBlank
  let v ← value (2 * (← get).length + 2) (depthLimit - 1)
  match d.assign path v with
  | some d => return d
  | none => failure

/-- One line: nothing, a header or an assignment, and perhaps a comment. -/
def line (d : Document) : Reader Document := do
  skipBlank
  let d ← match ← peek? with
    | some '[' => header d
    | some '#' => pure d
    | some '\n' => pure d
    | some '\r' => pure d
    | none => pure d
    | some _ => assignment d
  skipBlank
  comment
  return d

def document : Nat → Document → Reader Document
  | 0, _ => failure
  | fuel + 1, d => do
    let d ← line d
    if ← newline then document fuel d
    else if (← get).isEmpty then return d
    else failure

/-- The record that a text describes; a byte order mark at its start does not count. -/
def parse? (source : String) : Option Value := do
  let cs := match source.toList with
    | '\uFEFF' :: rest => rest
    | cs => cs
  let (d, _) ← (document (cs.length + 2) {}).run cs
  return d.toValue

end Architecture.Data.Toml
