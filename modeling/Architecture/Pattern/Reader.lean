import Architecture.Pattern.Search
import Architecture.Text.Segments

/-!
The written form of patterns.

Flags hold from where they are set to the end of the group around them. A text that is no pattern
has no reading. Nesting is limited, as is the size of what a pattern stands for. The size is an
estimate, so that close to the limit a pattern may be taken that is too large, or refused that is
not.
-/

namespace Architecture.Pattern

structure Flags where
  anyCase : Bool := false
  multiLine : Bool := false
  dotMatchesNewline : Bool := false
  swapGreed : Bool := false
  unicode : Bool := true
  crlf : Bool := false
  ignoreBlank : Bool := false

/-- Where a reader stands: the rest of the pattern, the flags that hold, the group names so far. -/
structure Place where
  rest : List Char
  flags : Flags := {}
  names : List String := []

abbrev Reader := StateT Place Option

namespace Reader

def peek? : Reader (Option Char) := do return (← get).rest.head?

def peek : Reader Char := do
  match ← peek? with
  | some c => return c
  | none => failure

def bump : Reader Unit := modify fun p => { p with rest := p.rest.tail }

def dropComment : List Char → List Char
  | [] => []
  | '\n' :: rest => rest
  | _ :: rest => dropComment rest

/-- The rest after blanks and comments; `fuel` is the length of the text. -/
def dropIgnored : Nat → List Char → List Char
  | 0, cs => cs
  | _, [] => []
  | fuel + 1, c :: rest =>
    if Text.isBlank c then dropIgnored fuel rest
    else if c = '#' then dropIgnored fuel (dropComment rest)
    else c :: rest

/-- Passes over blanks and comments where the flags say that they do not count. -/
def skipIgnored : Reader Unit := modify fun p =>
  if p.flags.ignoreBlank then { p with rest := dropIgnored p.rest.length p.rest } else p

/-- Goes on to the next character that counts, which has to exist. -/
def advance : Reader Unit := do
  bump
  skipIgnored
  let _ ← peek

/-- Goes on to the next character that counts, or to the end. -/
def advanceMaybe : Reader Unit := do
  bump
  skipIgnored

/-- Passes over a text if it stands here. -/
def accept (text : String) : Reader Bool := do
  match Text.dropHead? text.toList (← get).rest with
  | some rest =>
    modify ({ · with rest })
    return true
  | none => return false

def flags : Reader Flags := do return (← get).flags

end Reader

open Reader

/-- A part of a pattern with the depth of its nesting. -/
structure Item where
  node : Node
  depth : Nat := 0
  repeatable : Bool := true

namespace Item

def concat : List Item → Item
  | [] => { node := .empty }
  | [item] => item
  | items =>
    { node := items.foldr (fun item rest => .cat item.node rest) .empty
      depth := 1 + items.foldl (fun d item => max d item.depth) 0 }

def alternatives : List Item → Item
  | [] => { node := .empty }
  | [item] => item
  | first :: others =>
    { node := others.foldl (fun node item => .alt node item.node) first.node
      depth := 1 + others.foldl (fun d item => max d item.depth) first.depth }

end Item

def nestLimit : Nat := 250

def weightLimit : Nat := 10 * 1024 * 1024

def isMeta (c : Char) : Bool :=
  "\\.+*?()|[]^$#&-~".toList.contains c || c = '\x7b' || c = '\x7d'

/-- Characters that stand for themselves behind a backslash. -/
def isEscapable (c : Char) : Bool :=
  isMeta c || (c.toNat < 0x80 && !c.isAlphanum && c ≠ '<' && c ≠ '>')

def hexValue? (c : Char) : Option Nat :=
  if c.isDigit then some (c.toNat - '0'.toNat)
  else if 'a' ≤ c.toLower && c.toLower ≤ 'f' then some (c.toLower.toNat - 'a'.toNat + 10)
  else none

def charOfCode? (n : Nat) : Option Char :=
  if n < 0xD800 || (0xDFFF < n && n < 0x110000) then some (Char.ofNat n) else none

/-- What a single character or escape stands for. `byte` marks a code given in hexadecimal. -/
inductive Primitive where
  | literal (c : Char) (byte : Bool)
  | dot
  | look (l : Look)
  | cls (c : CharClass)

def hexDigits : Nat → Nat → Reader Nat
  | 0, value => return value
  | n + 1, value => do
    match hexValue? (← peek) with
    | none => failure
    | some d =>
      if n = 0 then advanceMaybe else advance
      hexDigits n (value * 16 + d)

def hexBraced : Nat → Nat → Bool → Reader Nat
  | 0, _, _ => failure
  | fuel + 1, value, seen => do
    let c ← peek
    if c = '\x7d' then
      bump
      if seen then return value else failure
    else match hexValue? c with
      | none => failure
      | some d =>
        advance
        hexBraced fuel (min (value * 16 + d) 0x110000) true

/-- A character given by its code, with this many digits if there are no braces. -/
def hexEscape (digits : Nat) : Reader Primitive := do
  advance
  let value ← if (← peek) = '\x7b' then do
      advance
      hexBraced ((← get).rest.length + 1) 0 false
    else hexDigits digits 0
  match charOfCode? value with
  | some c => return .literal c (value ≤ 0xFF)
  | none => failure

def untilBrace : Nat → List Char → Reader (List Char)
  | 0, _ => failure
  | fuel + 1, seen => do
    let c ← peek
    if c = '\x7d' then
      bump
      return seen.reverse
    else
      advance
      untilBrace fuel (c :: seen)

/-- Cuts at the first occurrence of a sign. -/
def cutAt (sign : List Char) : List Char → Option (List Char × List Char)
  | [] => none
  | c :: rest =>
    match Text.dropHead? sign (c :: rest) with
    | some after => some ([], after)
    | none => (cutAt sign rest).map fun (before, after) => (c :: before, after)

def propertyOf (text : List Char) : Option CharClass :=
  let parse name value := Property.parse? (String.ofList name) (value.map String.ofList)
  match cutAt ['!', '='] text with
  | some (name, value) => (parse name (some value)).map fun p => .negate (.property p)
  | none =>
    match cutAt [':'] text <|> cutAt ['='] text with
    | some (name, value) => (parse name (some value)).map .property
    | none => (parse text none).map .property

def foldIf (anyCase : Bool) (cls : CharClass) : CharClass :=
  if anyCase then .anyCase cls else cls

def propertyEscape (negated : Bool) : Reader Primitive := do
  advance
  let c ← peek
  let name ← if c = '\x7b' then do
      advance
      untilBrace ((← get).rest.length + 1) []
    else if c = '\\' then failure
    else do
      advanceMaybe
      pure [c]
  let flags ← flags
  match propertyOf name with
  | some cls =>
    if flags.unicode then return .cls (.negateIf negated (foldIf flags.anyCase cls)) else failure
  | none => failure

def perlClass (c : Char) (unicode : Bool) : CharClass :=
  match c.toLower with
  | 'd' => if unicode then .property .digit else .asciiDigit
  | 's' => if unicode then .property .space else .asciiSpace
  | _ => if unicode then .property .word else .asciiWord

/-- The special word boundaries, whose name stands between braces. -/
def boundaryName : Reader (Option (Bool → Look)) := do
  if (← get).rest.head? ≠ some '\x7b' then return none
  let start ← get
  bump
  skipIgnored
  let body := (← get).rest
  let name := body.takeWhile fun c => c.isAlpha || c = '-'
  let after := body.dropWhile fun c => c.isAlpha || c = '-'
  if body.isEmpty then failure
  else if name.isEmpty then
    set start
    return none
  else match after with
    | '\x7d' :: rest =>
      modify ({ · with rest })
      match String.ofList name with
      | "start" => return some .wordStart
      | "end" => return some .wordEnd
      | "start-half" => return some .wordStartHalf
      | "end-half" => return some .wordEndHalf
      | _ => failure
    | _ => failure

def escape : Reader Primitive := do
  bump
  let c ← peek
  let flags ← flags
  match c with
  | 'x' => hexEscape 2
  | 'u' => hexEscape 4
  | 'U' => hexEscape 8
  | 'p' => propertyEscape false
  | 'P' => propertyEscape true
  | _ =>
    if c.isDigit then failure
    bump
    if "dswDSW".toList.contains c then
      return .cls (.negateIf c.isUpper (perlClass c flags.unicode))
    if isEscapable c then return .literal c false
    match c with
    | 'a' => return .literal '\x07' false
    | 'f' => return .literal '\x0c' false
    | 't' => return .literal '\t' false
    | 'n' => return .literal '\n' false
    | 'r' => return .literal '\r' false
    | 'v' => return .literal '\x0b' false
    | 'A' => return .look .textStart
    | 'z' => return .look .textEnd
    | 'b' =>
      match ← boundaryName with
      | some look => return .look (look flags.unicode)
      | none => return .look (.wordBoundary flags.unicode false)
    | 'B' => return .look (.wordBoundary flags.unicode true)
    | '<' => return .look (.wordStart flags.unicode)
    | '>' => return .look (.wordEnd flags.unicode)
    | _ => failure

def primitive : Reader Primitive := do
  let c ← peek
  let flags ← flags
  match c with
  | '\\' => escape
  | '.' => do bump; return .dot
  | '^' => do
    bump
    return .look (if !flags.multiLine then .textStart
      else if flags.crlf then .lineStartCrlf else .lineStart)
  | '$' => do
    bump
    return .look (if !flags.multiLine then .textEnd
      else if flags.crlf then .lineEndCrlf else .lineEnd)
  | _ => do bump; return .literal c false

/-- A set of characters as a part of a pattern. Where characters are bytes it holds no byte beyond
the first 128. -/
def classItem (flags : Flags) (cls : CharClass) (depth : Nat) : Reader Item :=
  if flags.unicode || cls.isAsciiByte then return { node := .one cls, depth } else failure

def literalClass (flags : Flags) (c : Char) (byte : Bool) : Reader CharClass :=
  if flags.unicode then return foldIf flags.anyCase (.char c)
  else if byte && 0x7F < c.toNat then failure
  else if flags.anyCase then
    if c.toNat < 0x80 then
      return .union (.char c.toLower) (.char c.toUpper)
    else failure
  else return .char c

def dotClass (flags : Flags) : CharClass :=
  if flags.dotMatchesNewline then .property .any
  else if flags.crlf then .negate (.union (.char '\n') (.char '\r'))
  else .negate (.char '\n')

def primitiveItem (p : Primitive) : Reader Item := do
  let flags ← flags
  match p with
  | .literal c byte => return { node := .one (← literalClass flags c byte) }
  | .dot => classItem flags (dotClass flags) 0
  | .look l => return { node := .look l }
  | .cls c => classItem flags c 0

/-! ### Bracketed sets -/

/-- A set together with the depth of its nesting. -/
structure SetItem where
  cls : CharClass
  depth : Nat := 0

namespace SetItem

def unite : List SetItem → SetItem
  | [] => ⟨.none, 0⟩
  | [item] => item
  | items =>
    { cls := items.foldr (fun item rest => .union item.cls rest) .none
      depth := 1 + items.foldl (fun d item => max d item.depth) 0 }

end SetItem

/-- An operator between sets that waits for its right side. -/
structure Pending where
  apply : CharClass → CharClass → CharClass
  left : SetItem

def Pending.finish (flags : Flags) (pending : Option Pending) (right : SetItem) : SetItem :=
  match pending with
  | none => right
  | some p =>
    { cls := p.apply (foldIf flags.anyCase p.left.cls) (foldIf flags.anyCase right.cls)
      depth := 1 + max p.left.depth right.depth }

/-- A set named between colons, or nothing if none stands here. -/
def namedSet : Reader (Option CharClass) := do
  match (← get).rest with
  | '[' :: ':' :: rest =>
    let (negated, rest) := match rest with
      | '^' :: rest => (true, rest)
      | rest => (false, rest)
    let name := rest.takeWhile (· ≠ ':')
    match rest.dropWhile (· ≠ ':') with
    | ':' :: ']' :: after =>
      match CharClass.named? (String.ofList name) with
      | some cls =>
        let flags ← flags
        modify ({ · with rest := after })
        return some (.negateIf negated (foldIf flags.anyCase cls))
      | none => return none
    | _ => return none
  | _ => return none

def setPrimitive : Reader Primitive := do
  let c ← peek
  if c = '\\' then escape
  else
    bump
    return .literal c false

def setLiteral (flags : Flags) : Primitive → Reader Char
  | .literal c byte =>
    if flags.unicode || c.toNat < 0x80 then return c
    else if byte then return c
    else failure
  | _ => failure

/-- What follows the next character, passing over what does not count. -/
def peekSecond? : Reader (Option Char) := do
  let place ← get
  bump
  skipIgnored
  let next ← peek?
  set place
  return next

def setRange : Reader SetItem := do
  let flags ← flags
  let first ← setPrimitive
  skipIgnored
  let c ← peek
  let second ← peekSecond?
  if c ≠ '-' || second = some ']' || second = some '-' then
    match first with
    | .cls cls => return ⟨cls, 0⟩
    | p => return ⟨.char (← setLiteral flags p), 0⟩
  else
    advance
    let last ← setPrimitive
    let low ← setLiteral flags first
    let high ← setLiteral flags last
    if low.toNat ≤ high.toNat then return ⟨.range low.toNat high.toNat, 0⟩ else failure

def leadingDashes : Nat → List SetItem → Reader (List SetItem)
  | 0, items => return items
  | fuel + 1, items => do
    if (← peek) = '-' then
      advance
      leadingDashes fuel (⟨.char '-', 0⟩ :: items)
    else return items

/-- The opening of a set: whether it is negated, and the signs that stand for themselves there. -/
def setOpening : Reader (Bool × List SetItem) := do
  advance
  let negated := (← peek) = '^'
  if negated then advance
  let items ← leadingDashes (← get).rest.length []
  if items.isEmpty && (← peek) = ']' then
    advance
    return (negated, [⟨.char ']', 0⟩])
  return (negated, items)

/-- The members of a set up to its closing bracket, the latest first. -/
def setBody (outermost : Bool) : Nat → Option Pending → List SetItem → Reader SetItem
  | 0, _, _ => failure
  | fuel + 1, pending, items => do
    skipIgnored
    let flags ← flags
    let united := SetItem.unite items.reverse
    match ← peek with
    | '[' =>
      match ← namedSet with
      | some cls => setBody outermost fuel pending (⟨cls, 0⟩ :: items)
      | none =>
        let (negated, start) ← setOpening
        let inner ← setBody false fuel none start
        let cls := CharClass.negateIf negated (foldIf flags.anyCase inner.cls)
        setBody outermost fuel pending (⟨cls, inner.depth + 1⟩ :: items)
    | ']' =>
      bump
      return Pending.finish flags pending united
    | _ =>
      let rightOf apply := some (Pending.mk apply (Pending.finish flags pending united))
      if ← accept "&&" then setBody outermost fuel (rightOf .inter) []
      else if ← accept "--" then setBody outermost fuel (rightOf .diff) []
      else if ← accept "~~" then setBody outermost fuel (rightOf .symmDiff) []
      else
        let item ← setRange
        setBody outermost fuel pending (item :: items)

def bracketed : Reader Item := do
  let flags ← flags
  let (negated, start) ← setOpening
  let inner ← setBody true ((← get).rest.length + 1) none start
  classItem flags (.negateIf negated (foldIf flags.anyCase inner.cls)) (inner.depth + 1)

/-! ### Repetition -/

def dropBlank : Reader Unit := modify fun p => { p with rest := p.rest.dropWhile Text.isBlank }

/-- No count reaches this. -/
def countLimit : Nat := Nat.pow 2 32

def decimalDigits : Nat → Nat → Bool → Reader (Option Nat)
  | 0, _, _ => failure
  | fuel + 1, value, seen => do
    match ← peek? with
    | some c =>
      if c.isDigit then
        advanceMaybe
        decimalDigits fuel (min (value * 10 + (c.toNat - '0'.toNat)) countLimit) true
      else return if seen then some value else none
    | none => return if seen then some value else none

/-- A count: nothing if no digit stands here, a failure beyond 32 bits. -/
def decimal : Reader (Option Nat) := do
  dropBlank
  let value ← decimalDigits ((← get).rest.length + 1) 0 false
  dropBlank
  if value.any (countLimit ≤ ·) then failure else return value

def counts : Reader (Nat × Option Nat) := do
  advance
  let first ← decimal
  let c ← peek
  match first with
  | none => failure
  | some min =>
    if c = ',' then
      advance
      if (← peek) = '\x7d' then return (min, none)
      match ← decimal with
      | none => failure
      | some max => if min ≤ max then return (min, some max) else failure
    else return (min, some min)

/-- A repetition sign with the question mark that may follow it. -/
def repetition : Reader (Nat × Option Nat) := do
  match ← peek with
  | '?' => finish (0, some 1)
  | '*' => finish (0, none)
  | '+' => finish (1, none)
  | _ =>
    let range ← counts
    if (← peek) ≠ '\x7d' then failure
    advanceMaybe
    let _ ← accept "?"
    return range
where
  finish (range : Nat × Option Nat) : Reader (Nat × Option Nat) := do
    bump
    let _ ← accept "?"
    return range

/-! ### Groups -/

def setFlag (flags : Flags) (on : Bool) : Char → Option Flags
  | 'i' => some { flags with anyCase := on }
  | 'm' => some { flags with multiLine := on }
  | 's' => some { flags with dotMatchesNewline := on }
  | 'U' => some { flags with swapGreed := on }
  | 'u' => some { flags with unicode := on }
  | 'R' => some { flags with crlf := on }
  | 'x' => some { flags with ignoreBlank := on }
  | _ => none

/-- Flag letters up to a colon or a closing parenthesis, no letter twice. -/
def flagLetters : Nat → List Char → Flags → Reader (Flags × List Char)
  | 0, _, _ => failure
  | fuel + 1, seen, flags => do
    let c ← peek
    if c = ':' || c = ')' then
      if seen.head? = some '-' then failure else return (flags, seen)
    else if seen.contains c then failure
    else if c = '-' then
      bump
      flagLetters fuel (c :: seen) flags
    else match setFlag flags (!seen.contains '-') c with
      | some flags =>
        bump
        flagLetters fuel (c :: seen) flags
      | none => failure

def isNameChar (first : Bool) (c : Char) : Bool :=
  c = '_' || Unicode.hasFlag "alphabetic" c ||
    (!first && (c = '.' || c = '[' || c = ']' || Unicode.isNumeric c))

/-- The name of a group, which no other group has. -/
def groupName : Reader Unit := do
  let place ← get
  let name := place.rest.takeWhile (· ≠ '>')
  match place.rest.drop name.length, name with
  | '>' :: rest, first :: others =>
    let text := String.ofList name
    if isNameChar true first && others.all (isNameChar false) && !place.names.contains text then
      set { place with rest, names := text :: place.names }
    else failure
  | _, _ => failure

inductive Opening where
  | flags
  | group

/-- The opening of a group after its parenthesis, or a whole group that only sets flags. -/
def opening : Reader Opening := do
  skipIgnored
  if ← accept "?=" then failure
  if ← accept "?!" then failure
  if ← accept "?<=" then failure
  if ← accept "?<!" then failure
  if ← ["?P<", "?<"].anyM accept then
    groupName
    return .group
  if ← accept "?" then
    let (flags, seen) ← flagLetters ((← get).rest.length + 1) [] (← flags)
    let c ← peek
    bump
    modify ({ · with flags })
    if c = ':' then return .group
    if seen.isEmpty then failure else return .flags
  return .group

mutual

/-- Alternatives up to the end of the group, the latest first. -/
def alternation : Nat → List Item → Reader Item
  | 0, _ => failure
  | fuel + 1, branches => do
    let branch ← sequence fuel []
    if ← accept "|" then alternation fuel (branch :: branches)
    else return Item.alternatives (branch :: branches).reverse

/-- Parts that follow one another, the latest first. -/
def sequence : Nat → List Item → Reader Item
  | 0, _ => failure
  | fuel + 1, items => do
    skipIgnored
    match ← peek? with
    | none => return Item.concat items.reverse
    | some c =>
      if c = ')' || c = '|' then return Item.concat items.reverse
      else if c = '(' then
        let outer ← flags
        bump
        match ← opening with
        | .flags => sequence fuel ({ node := .empty, repeatable := false } :: items)
        | .group =>
          let inner ← alternation fuel []
          if ← accept ")" then
            modify ({ · with flags := outer })
            sequence fuel ({ node := inner.node, depth := inner.depth + 1 } :: items)
          else failure
      else if c = '[' then
        let item ← bracketed
        sequence fuel (item :: items)
      else if c = '?' || c = '*' || c = '+' || c = '\x7b' then
        match items with
        | [] => failure
        | last :: before =>
          if last.repeatable then
            let (min, max) ← repetition
            let item := { node := .rep last.node min max, depth := last.depth + 1 }
            sequence fuel (item :: before)
          else failure
      else
        let item ← primitiveItem (← primitive)
        sequence fuel (item :: items)

end

/-- The tree that a text stands for. -/
def read? (text : String) : Option Node := do
  let cs := text.toList
  let (item, place) ← (alternation (2 * cs.length + 2) []).run { rest := cs }
  guard place.rest.isEmpty
  guard (item.depth ≤ nestLimit)
  guard (item.node.weight ≤ weightLimit)
  return item.node

end Architecture.Pattern
