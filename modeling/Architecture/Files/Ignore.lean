import Architecture.Files.Glob
import Architecture.Text.Blank
import Architecture.Text.Segments

/-!
Rules of files that say what to ignore.

A rule is a line. It holds for a path seen from the directory of its file. The last rule that holds
decides; one with an exclamation mark before it keeps the path. A rule with a separator in it is for
whole paths, any other for names at every depth.
-/

namespace Architecture.Files.Ignore

open Glob (Choice)

/-- Parts of a rule. Only the three kinds of two stars stand for separators. -/
inductive Piece where
  | char (c : Char)
  | anyChar
  | anyName
  /-- Two stars at the start: nothing, or whole components. -/
  | leading
  /-- Two stars between separators. -/
  | between
  /-- Two stars at the end, with the separator before them. -/
  | trailing
  | choice (negated : Bool) (choices : List Choice)
  deriving DecidableEq, Repr

/-- A choice that reaches up to another character, if that comes no earlier. -/
def upTo? (high : Char) : Choice → Option Choice
  | .one low => if low ≤ high then some (.range low high) else none
  | .range low _ => if low ≤ high then some (.range low high) else none

/-- The choices of a bracket behind its opening and its negation. A bracket that closes first and a
minus sign at either end stand for themselves. -/
def bracketFrom : (isFirst : Bool) → List Choice → List Char → Option (List Choice × List Char)
  | _, _, [] => none
  | false, seen, ']' :: rest => some (seen.reverse, rest)
  | false, seen, '-' :: ']' :: rest => some ((.one '-' :: seen).reverse, rest)
  | false, last :: seen, '-' :: high :: rest =>
    match upTo? high last with
    | some range => bracketFrom false (range :: seen) rest
    | none => none
  | _, seen, c :: rest => bracketFrom false (.one c :: seen) rest

def bracket? : List Char → Option (Piece × List Char)
  | '!' :: rest => do
    let (choices, rest) ← bracketFrom true [] rest
    return (.choice true choices, rest)
  | '^' :: rest => do
    let (choices, rest) ← bracketFrom true [] rest
    return (.choice true choices, rest)
  | rest => do
    let (choices, rest) ← bracketFrom true [] rest
    return (.choice false choices, rest)

/-- Two stars behind `seen`, the pieces so far in reverse. Where they are no whole component, each
is a star by itself. -/
def twoStars (seen : List Piece) (rest : List Char) : List Piece × List Char :=
  match seen, rest with
  | [], [] => ([.leading], [])
  | [], '/' :: rest => ([.leading], rest)
  | .leading :: others, [] => (.leading :: others, [])
  | .leading :: others, '/' :: rest => (.leading :: others, rest)
  | .between :: others, [] => (.trailing :: others, [])
  | .between :: others, '/' :: rest => (.between :: others, rest)
  | .char '/' :: others, [] => (.trailing :: others, [])
  | .char '/' :: others, '/' :: rest => (.between :: others, rest)
  | _, _ => (.anyName :: .anyName :: seen, rest)

/-- The pieces of a rule without braces; `fuel` is the length of the text. -/
def piecesFrom : Nat → List Piece → List Char → Option (List Piece)
  | _, seen, [] => some seen.reverse
  | 0, _, _ => none
  | fuel + 1, seen, c :: rest =>
    if c = '?' then piecesFrom fuel (.anyChar :: seen) rest
    else if c = '*' then
      match rest with
      | '*' :: rest =>
        let (seen, rest) := twoStars seen rest
        piecesFrom fuel seen rest
      | _ => piecesFrom fuel (.anyName :: seen) rest
    else if c = '[' then do
      let (piece, rest) ← bracket? rest
      piecesFrom fuel (piece :: seen) rest
    else if c = '\\' then
      match rest with
      | escaped :: rest => piecesFrom fuel (.char escaped :: seen) rest
      | [] => none
    else piecesFrom fuel (.char c :: seen) rest

/-- The alternatives of a brace behind its opening, and what stands behind it. -/
def alternatives : Nat → Nat → List Char → List (List Char) → List Char →
    Option (List (List Char) × List Char)
  | 0, _, _, _, _ => none
  | _, _, _, _, [] => none
  | fuel + 1, depth, current, done, c :: rest =>
    if c = '\\' then
      match rest with
      | escaped :: rest => alternatives fuel depth (escaped :: c :: current) done rest
      | [] => none
    else if c = '\x7b' then alternatives fuel (depth + 1) (c :: current) done rest
    else if c = '\x7d' then
      if depth = 0 then some ((current.reverse :: done).reverse, rest)
      else alternatives fuel (depth - 1) (c :: current) done rest
    else if c = ',' && depth = 0 then alternatives fuel depth [] (current.reverse :: done) rest
    else alternatives fuel depth (c :: current) done rest

/-- The texts that a text with braces stands for; `fuel` is its length. -/
def expand : Nat → List Char → Option (List (List Char))
  | _, [] => some [[]]
  | 0, _ => none
  | fuel + 1, c :: rest =>
    if c = '\\' then
      match rest with
      | escaped :: rest => do return (← expand fuel rest).map fun tail => c :: escaped :: tail
      | [] => none
    else if c = '\x7d' then none
    else if c = '\x7b' then do
      let (choices, rest) ← alternatives fuel 0 [] [] rest
      let heads ← choices.mapM (expand fuel)
      let tails ← expand fuel rest
      return heads.flatten.flatMap fun head => tails.map (head ++ ·)
    else do return (← expand fuel rest).map (c :: ·)

structure Rule where
  /-- The rule holds if one of these does. -/
  forms : List (List Piece)
  keeps : Bool := false
  onlyDirectories : Bool := false

/-- A rule without its marks: whether it keeps, whether it is for whole paths, and its text. -/
def unmarked (line : List Char) : Bool × Bool × List Char :=
  match line with
  | '\\' :: '!' :: rest => (false, false, '!' :: rest)
  | '\\' :: '#' :: rest => (false, false, '#' :: rest)
  | '!' :: '/' :: rest => (true, true, rest)
  | '!' :: rest => (true, false, rest)
  | '/' :: rest => (false, true, rest)
  | _ => (false, false, line)

/-- The text of a rule for directories without the separator that says so. -/
def withoutSlash (text : List Char) : Bool × List Char :=
  match text.reverse with
  | '/' :: '\\' :: rest => (true, rest.reverse)
  | '/' :: rest => (true, rest.reverse)
  | _ => (false, text)

/-- The rule of a line. Comments, blank lines and lines that cannot be read have none. -/
def rule? (line : String) : Option Rule :=
  let cs := line.toList
  let cs := if [' ', '\\'].isPrefixOf cs.reverse then cs
    else (cs.reverse.dropWhile Text.isBlank).reverse
  if cs.isEmpty || cs.head? = some '#' then none
  else do
    let (keeps, isWhole, text) := unmarked cs
    let (onlyDirectories, text) := withoutSlash text
    let isNested := text = "**".toList || "**/".toList.isPrefixOf text
    let text := if isWhole || text.contains '/' || isNested then text else "**/".toList ++ text
    let text := if "/**".toList.reverse.isPrefixOf text.reverse then text ++ "/*".toList else text
    let forms ← (← expand text.length text).mapM fun form => piecesFrom form.length [] form
    return { forms, keeps, onlyDirectories }

/-- The rules of a file. -/
def rules (text : String) : List Rule :=
  let text := match text.toList with
    | c :: rest => if c.toNat = 0xFEFF then rest else c :: rest
    | [] => []
  (Text.lines (String.ofList text)).filterMap rule?

def matchFrom : List Piece → List Char → Bool
  | [], cs => cs.isEmpty
  | .leading :: pieces, cs => (cs :: Glob.afterSeparators cs).any (matchFrom pieces)
  | .between :: pieces, cs =>
    match cs with
    | '/' :: rest => (rest :: Glob.afterSeparators rest).any (matchFrom pieces)
    | _ => false
  | .trailing :: pieces, cs =>
    match cs with
    | '/' :: rest => (Glob.suffixes rest).any (matchFrom pieces)
    | _ => false
  | .anyName :: pieces, cs => (withinName cs).any (matchFrom pieces)
  | .char d :: pieces, c :: cs => c = d && matchFrom pieces cs
  | .anyChar :: pieces, c :: cs => c ≠ '/' && matchFrom pieces cs
  | .choice negated choices :: pieces, c :: cs =>
    (choices.any (·.holds c) ≠ negated) && matchFrom pieces cs
  | _ :: _, [] => false
where
  /-- The texts that are left when characters of one name are taken from the front. -/
  withinName : List Char → List (List Char)
    | [] => [[]]
    | c :: rest => if c = '/' then [c :: rest] else (c :: rest) :: withinName rest

/-- Whether a form of a rule holds. Two stars alone hold for every path. -/
def formHolds (form : List Piece) (path : List Char) : Bool :=
  form = [.leading] || matchFrom form path

def Rule.holds (r : Rule) (path : String) (isDirectory : Bool) : Bool :=
  (!r.onlyDirectories || isDirectory) && r.forms.any (formHolds · path.toList)

/-- What rules say about a path: whether to ignore it, if they say anything. -/
def verdict? (rules : List Rule) (path : String) (isDirectory : Bool) : Option Bool :=
  (rules.reverse.find? (·.holds path isDirectory)).map (!·.keeps)

end Architecture.Files.Ignore
