import Architecture.Source.Literal
import Architecture.Source.Token

/-!
From text to tokens.

Blanks and comments only separate. A documentation comment stands for the attribute `doc` with the
comment's text. A text has no tokens when a bracket is not matched or a character starts nothing.
-/

namespace Architecture.Source.Token

def isBlank (c : Char) : Bool :=
  Text.isBlank c || c.toNat = 0x200E || c.toNat = 0x200F

/-- A line and the rest behind it; a carriage return before the line feed belongs to neither. -/
def line : List Char → List Char × List Char
  | [] => ([], [])
  | '\n' :: rest => ([], '\n' :: rest)
  | '\r' :: '\n' :: rest => ([], '\n' :: rest)
  | c :: rest =>
    let (before, after) := line rest
    (c :: before, after)

/-- What stands in a block comment that `depth` openings are still to close, and the rest. -/
def block? : Nat → List Char → Option (List Char × List Char)
  | 0, _ => none
  | _, [] => none
  | _, [_] => none
  | depth + 1, '/' :: '*' :: rest => do
    let (inside, rest) ← block? (depth + 2) rest
    return ('/' :: '*' :: inside, rest)
  | depth + 1, '*' :: '/' :: rest =>
    if depth = 0 then some ([], rest)
    else do
      let (inside, rest) ← block? depth rest
      return ('*' :: '/' :: inside, rest)
  | depth + 1, c :: rest => do
    let (inside, rest) ← block? (depth + 1) rest
    return (c :: inside, rest)

/-- The rest behind a comment that does not document. -/
def comment? : List Char → Option (List Char)
  | '/' :: '/' :: '/' :: '/' :: rest => some (line rest).2
  | '/' :: '/' :: '/' :: _ => none
  | '/' :: '/' :: '!' :: _ => none
  | '/' :: '/' :: rest => some (line rest).2
  | '/' :: '*' :: '*' :: '/' :: rest => some rest
  | '/' :: '*' :: '*' :: '*' :: rest => (block? 1 ('*' :: '*' :: rest)).map (·.2)
  | '/' :: '*' :: '*' :: _ => none
  | '/' :: '*' :: '!' :: _ => none
  | '/' :: '*' :: rest => (block? 1 rest).map (·.2)
  | _ => none

/-- The rest behind blanks and comments; `fuel` is the length of the text. -/
def skipGaps : Nat → List Char → List Char
  | 0, cs => cs
  | _, [] => []
  | fuel + 1, c :: rest =>
    match comment? (c :: rest) with
    | some rest => skipGaps fuel rest
    | none => if isBlank c then skipGaps fuel rest else c :: rest

/-- Whether every carriage return has its line feed. -/
def hasWholeLines : List Char → Bool
  | [] => true
  | '\r' :: '\n' :: rest => hasWholeLines rest
  | '\r' :: _ => false
  | _ :: rest => hasWholeLines rest

/-- A comment that documents: its text, whether it documents what surrounds it, and the rest. -/
def documentation? : List Char → Option (List Char × Bool × List Char)
  | '/' :: '/' :: '!' :: rest =>
    let (text, rest) := line rest
    some (text, true, rest)
  | '/' :: '*' :: '!' :: rest => do
    let (text, rest) ← block? 1 ('!' :: rest)
    return (text.tail, true, rest)
  | '/' :: '/' :: '/' :: rest =>
    if rest.head? = some '/' then none
    else
      let (text, rest) := line rest
      some (text, false, rest)
  | '/' :: '*' :: '*' :: rest => do
    if rest.head? = some '*' then none
    else
      let (text, rest) ← block? 1 ('*' :: rest)
      return (text.tail, false, rest)
  | _ => none

/-- The attribute that a documentation comment stands for. -/
def documentation (text : List Char) (inner : Bool) : List Token :=
  mark '#' false :: (if inner then [mark '!' false] else []) ++
    [group .bracket [word "doc", mark '=' false, literal (Literal.ofText text)]]

def isMark (c : Char) : Bool := "~!@#$%^&*-=+|;:,<.>/?'".toList.contains c

/-- The mark that a text starts with. A comment starts with none. -/
def mark? : List Char → Option (Char × List Char)
  | '/' :: '/' :: _ => none
  | '/' :: '*' :: _ => none
  | c :: rest => if isMark c then some (c, rest) else none
  | [] => none

/-- The plain word that a text starts with, and the rest. -/
def plainWord? : List Char → Option (String × List Char)
  | [] => none
  | c :: rest =>
    if isWordStart c then
      some (String.ofList (c :: rest.takeWhile isWordPart), rest.dropWhile isWordPart)
    else none

/-- The word that a text starts with, raw or not, and the rest. -/
def word? : List Char → Option (String × List Char)
  | 'r' :: '#' :: rest => do
    let (name, after) ← plainWord? rest
    if ["_", "super", "self", "Self", "crate"].contains name then none
    else return ("r#" ++ name, after)
  | cs => plainWord? cs

/-- Openings of literals, which no word may look like. -/
def literalOpenings : List String :=
  ["r\"", "r#\"", "r##", "b\"", "b'", "br\"", "br#", "c\"", "cr\"", "cr#"]

/-- A token that is no group, and the rest. A quote that starts a name is joint with it. -/
def leaf? (cs : List Char) : Option (Token × List Char) :=
  match Literal.end? cs with
  | some rest => some (literal (String.ofList (cs.take (cs.length - rest.length))), rest)
  | none =>
    match mark? cs with
    | some ('\'', rest) => do
      let (_, after) ← word? rest
      if after.head? = some '\'' then none
      else if after.head? = some '#' && !"r#".toList.isPrefixOf rest then none
      else return (mark '\'' true, rest)
    | some (c, rest) => some (mark c (mark? rest).isSome, rest)
    | none =>
      if literalOpenings.any (·.toList.isPrefixOf cs) then none
      else do
        let (name, rest) ← word? cs
        return (word name, rest)

/-- The groups that are open, innermost first, each with the tokens before it in reverse. -/
abbrev Open := List (Delimiter × List Token)

/-- Reads token after token; `fuel` is the length of the text. -/
def scanFrom : Nat → Open → List Token → List Char → Option (List Token)
  | 0, _, _, _ => none
  | fuel + 1, unclosed, seen, cs =>
    let cs := skipGaps fuel cs
    match documentation? cs with
    | some (text, inner, rest) =>
      if hasWholeLines text then
        scanFrom fuel unclosed ((documentation text inner).reverse ++ seen) rest
      else none
    | none =>
      match cs with
      | [] => if unclosed.isEmpty then some seen.reverse else none
      | c :: rest =>
        match Delimiter.ofOpening? c, Delimiter.ofClosing? c with
        | some d, _ => scanFrom fuel ((d, seen) :: unclosed) [] rest
        | none, some d =>
          match unclosed with
          | (opened, before) :: outer =>
            if opened = d then scanFrom fuel outer (group d seen.reverse :: before) rest else none
          | [] => none
        | none, none => do
          let (token, rest) ← leaf? cs
          scanFrom fuel unclosed (token :: seen) rest

def byteOrderMark : Char := Char.ofNat 0xFEFF

def withoutByteOrderMark : List Char → List Char
  | [] => []
  | c :: rest => if c = byteOrderMark then rest else c :: rest

/-- The tokens of a text. -/
def scan? (text : String) : Option (List Token) :=
  let cs := withoutByteOrderMark text.toList
  scanFrom (cs.length + 1) [] [] cs

/-- The text of a file without its byte order mark and the line that names its interpreter. -/
def fileText (text : String) : String :=
  let cs := withoutByteOrderMark text.toList
  match cs with
  | '#' :: '!' :: rest =>
    if (skipGaps rest.length rest).head? = some '[' then String.ofList cs
    else String.ofList (cs.dropWhile (· ≠ '\n'))
  | _ => String.ofList cs

end Architecture.Source.Token
