import Architecture.Source.Grammar.Types

/-!
Items: the declarations of types, what implements what, imports and modules. Everything else that
may stand among them is recognised and leaves no trace.
-/

namespace Architecture.Source.Grammar

open Reader

/-- One declaration of imports. A tree in which a rooted path stands in a group is recognised and
binds nothing; `fuel` is the number of tokens ahead. -/
def useTree : Nat → (rootedGroups : Bool) → Reader (Option UseTree)
  | 0, _ => failure
  | fuel + 1, rootedGroups => do
    if ← sees (Sight.name.or (Sight.words ["self", "super", "crate", "try"])) then
      let word ← anyWord
      if ← acceptMarks "::" then return (← useTree fuel false).map (.into word)
      else if ← acceptWord "as" then return some (.renamed word (← nameOrBlank))
      else return some (.name word)
    else if ← acceptMarks "*" then return some .everything
    else
      inGroup .brace do
        let trees ← commaList do
          let rooted ← if rootedGroups then acceptMarks "::" else pure false
          let tree ← useTree fuel (rootedGroups && !rooted)
          return if rooted then none else tree
        return if trees.all (·.isSome) then some (.group (trees.filterMap id)) else none

variable (g : Grammar)

def useItem : Reader Item := do
  expectWord "use"
  let rooted ← acceptMarks "::"
  let fuel := Token.sizeOfList (← get).rest + 1
  let tree ← useTree fuel !rooted
  expectMarks ";"
  return match tree with
    | some tree => .use tree
    | none => .other

/-- Sight of a function behind its qualifiers. -/
def functionAhead (safeWord : Bool) : Reader Bool := wouldRead do
  discard (acceptWord "const")
  discard (acceptWord "async")
  if safeWord && (← sees (Sight.word "safe")) then expectWord "safe"
  else discard (acceptWord "unsafe")
  discard acceptCallingConvention
  expectWord "fn"

/-- One parameter of a function. -/
inductive Parameter where
  | receiver
  | typed (type : TypeExpr)
  /-- Stands for any number of arguments and has to be the last. -/
  | rest

def receiver : Reader Unit := do
  let referenced ← acceptMarks "&"
  if referenced then discard acceptLifetime
  discard (acceptWord "mut")
  expectWord "self"
  unless referenced do
    if ← acceptMarks ":" then discard (g.type true)

def parameter : Reader Parameter := do
  discard (outerAttributes g)
  if ← acceptMarks "..." then return .rest
  else
    match ← attempt (receiver g) with
    | some _ => return .receiver
    | none =>
      if ← sees (Sight.name.and (Sight.marks "<").second) then return .typed (← g.type true)
      else
        g.pattern
        expectMarks ":"
        if ← acceptMarks "..." then return .rest else return .typed (← g.type true)

/-- The parameters of a function: whether a receiver comes first, and the types of the others. -/
def parameters : Reader (Bool × List TypeExpr) := inGroup .paren do
  let read ← commaList (parameter g)
  let isReceiver : Parameter → Bool
    | .receiver => true
    | _ => false
  let isRest : Parameter → Bool
    | .rest => true
    | _ => false
  let type? : Parameter → Option TypeExpr
    | .typed type => some type
    | _ => none
  if read.tail.any isReceiver || read.dropLast.any isRest then failure
  else return ((read.head?.map isReceiver).getD false, read.filterMap type?)

/-- A function up to its body. -/
def signature (safeWord : Bool) : Reader Function := do
  discard (acceptWord "const")
  discard (acceptWord "async")
  if safeWord && (← sees (Sight.word "safe")) then expectWord "safe"
  else discard (acceptWord "unsafe")
  discard acceptCallingConvention
  expectWord "fn"
  let name ← name
  let generics ← genericParameters g
  let (hasReceiver, inputs) ← parameters g
  let output ← returnType g true
  discard (acceptConditions g)
  return { name, parameters := generics, hasReceiver, inputs, output }

/-- The rest of a function: its attributes with those that open its body, or none without body. -/
def functionBody (attributes : List Attribute) : Reader (Option (List Attribute)) := do
  if ← acceptMarks ";" then return none
  else return some (attributes ++ (← attributedBlock g))

/-- A constant from its keyword on. -/
def constant : Reader Unit := do
  expectWord "const"
  discard nameOrBlank
  discard (genericParameters g)
  expectMarks ":"
  discard (g.type true)
  if ← acceptMarks "=" then discard (g.expression true)
  discard (acceptConditions g)
  expectMarks ";"

/-- Where the conditions of a type alias may stand. -/
inductive ConditionPlace where
  | beforeValue
  | afterValue
  | anywhere
  deriving DecidableEq

/-- A type alias from its keyword on. -/
def typeAlias (place : ConditionPlace) : Reader Unit := do
  expectWord "type"
  discard name
  discard (genericParameters g)
  if ← acceptMarks ":" then
    let stop := Sight.any [Sight.word "where", Sight.marks "=", Sight.marks ";"]
    discard <| strictList stop "+" (boundOnce g false true)
  let before ← if place = .afterValue then pure false else acceptConditions g
  if ← acceptMarks "=" then discard (g.type true)
  unless place = .beforeValue || before do discard (acceptConditions g)
  expectMarks ";"

/-- Sight of a macro call among items. -/
def macroAhead : Sight :=
  Sight.any [Sight.name, Sight.words ["self", "super", "crate"], Sight.marks "::"]

/-- A macro call among members, with a semicolon unless it is in braces. -/
def memberMacro : Reader Unit := do
  discard plainPath
  unless ← macroCall do expectMarks ";"

/-- A macro call among items, which may name something. -/
def itemMacro : Reader Item := do
  discard plainPath
  expectMarks "!"
  if ← sees (Sight.word "try") then discard anyWord
  else if ← sees Sight.name then discard name
  let (d, _) ← anyGroup
  unless d = .brace do expectMarks ";"
  return .other

/-- A field with a name. -/
def namedField (fields : Reader (List (String × TypeExpr))) : Reader (String × TypeExpr) := do
  discard (outerAttributes g)
  discard visibility
  let isBlank ← sees (Sight.word "_")
  let name ← nameOrBlank
  expectMarks ":"
  let nested := (Sight.word "struct").or ((Sight.word "union").and (Sight.opens .brace).second)
  if isBlank && (← sees nested) then
    discard anyWord
    discard fields
    return (name, .unnamed)
  else return (name, ← g.type true)

/-- Fields in braces; `fuel` bounds how deep they nest. -/
def namedFieldsAt : Nat → Reader (List (String × TypeExpr))
  | 0 => failure
  | fuel + 1 => inGroup .brace (commaList (namedField g (namedFieldsAt fuel)))

def namedFields : Reader (List (String × TypeExpr)) := do
  namedFieldsAt g (Token.sizeOfList (← get).rest + 1)

/-- Fields in parentheses, which are named by their positions. -/
def positionalFields : Reader (List (String × TypeExpr)) := do
  let types ← inGroup .paren <| commaList do
    discard (outerAttributes g)
    discard visibility
    g.type true
  return types.mapIdx fun i type => (toString i, type)

/-- The rest of a structure behind its generic parameters. -/
def structureFields : Reader (List (String × TypeExpr)) := do
  let conditioned ← acceptConditions g
  if !conditioned && (← sees (Sight.opens .paren)) then
    let fields ← positionalFields g
    discard (acceptConditions g)
    expectMarks ";"
    return fields
  else if ← sees (Sight.opens .brace) then namedFields g
  else
    expectMarks ";"
    return []

/-- A variant: its fields, named after it. -/
def variant : Reader (List (String × TypeExpr)) := do
  discard (outerAttributes g)
  discard visibility
  let variant ← name
  let fields ←
    if ← sees (Sight.opens .brace) then namedFields g
    else if ← sees (Sight.opens .paren) then positionalFields g
    else pure []
  if ← acceptMarks "=" then discard (g.expression true)
  return fields.map fun (field, type) => (variant ++ "." ++ field, type)

/-- A heading from a keyword on. -/
def heading (keyword : String) (attributes : List Attribute) (visibility : Visibility) :
    Reader Heading := do
  expectWord keyword
  let name ← name
  return { attributes, visibility, name, parameters := ← genericParameters g }

def structureItem (attributes : List Attribute) (visibility : Visibility) : Reader Item := do
  return .data (← heading g "struct" attributes visibility) (← structureFields g)

def enumItem (attributes : List Attribute) (visibility : Visibility) : Reader Item := do
  let heading ← heading g "enum" attributes visibility
  discard (acceptConditions g)
  let variants ← inGroup .brace (commaList (variant g))
  return .data heading variants.flatten

def unionItem (attributes : List Attribute) (visibility : Visibility) : Reader Item := do
  let heading ← heading g "union" attributes visibility
  discard (acceptConditions g)
  return .data heading (← namedFields g)

/-- A member of an interface: the function, if it is one without a visibility of its own. -/
def interfaceMember : Reader (Option Function) := do
  let attributes ← outerAttributes g
  let visibility ← visibility
  let isDefault ← acceptWord "default"
  let isPlain := !isDefault && match visibility with
    | .inherited => true
    | _ => false
  if ← functionAhead false then
    let function ← signature g false
    let attributes := (← functionBody g attributes).getD attributes
    return if isPlain then some { function with attributes } else none
  else if ← sees (Sight.word "const") then
    constant g
    return none
  else if ← sees (Sight.word "type") then
    typeAlias g .afterValue
    return none
  else if isPlain && (← sees macroAhead) then
    memberMacro
    return none
  else failure

/-- The rest of an interface behind its heading. -/
def interfaceRest (heading : Heading) : Reader Item := do
  let stop := (Sight.word "where").or (Sight.opens .brace)
  let supertypes ←
    if ← acceptMarks ":" then strictList stop "+" (boundOnce g false true) else pure []
  discard (acceptConditions g)
  let (inner, members) ← inGroup .brace do
    return (← innerAttributes g, ← toEnd (interfaceMember g))
  let heading := { heading with attributes := heading.attributes ++ inner }
  return .interface heading (supertypes.filterMap id) (members.filterMap id)

/-- An interface, or a name for a sum of bounds. -/
def interfaceItem (attributes : List Attribute) (visibility : Visibility) : Reader Item := do
  let heading ← heading g "trait" attributes visibility
  if ← acceptMarks "=" then
    let stop := (Sight.word "where").or (Sight.marks ";")
    discard <| strictList stop "+" (boundOnce g false true)
    discard (acceptConditions g)
    expectMarks ";"
    return .other
  else interfaceRest g heading

/-- An interface with the words that may stand before it. -/
def qualifiedInterface (attributes : List Attribute) (visibility : Visibility) : Reader Item := do
  discard (acceptWord "unsafe")
  discard (acceptWord "auto")
  interfaceRest g (← heading g "trait" attributes visibility)

/-- A member of an implementation: the function, if it is one with a body. -/
def implementationMember : Reader (Option Function) := do
  let attributes ← outerAttributes g
  let visibility ← visibility
  let isDefault ← sees ((Sight.word "default").and (Sight.marks "!").second.not)
  if isDefault then expectWord "default"
  let isPlain := !isDefault && match visibility with
    | .inherited => true
    | _ => false
  if ← functionAhead false then
    let function ← signature g false
    return (← functionBody g attributes).map fun attributes => { function with attributes }
  else if ← sees (Sight.word "const") then
    constant g
    return none
  else if ← sees (Sight.word "type") then
    typeAlias g .afterValue
    return none
  else if isPlain && (← sees macroAhead) then
    memberMacro
    return none
  else failure

/-- Sight of generic parameters where a path in angle brackets might stand too. -/
def parametersAhead : Sight :=
  (Sight.marks "<").and <| Sight.any [
    (Sight.marks ">").second, (Sight.marks "#").second, (Sight.word "const").second,
    (Sight.lifetime.or Sight.name).second.and <| Sight.any [
      (Sight.marks ">").third, (Sight.marks ",").third, (Sight.marks "=").third,
      (Sight.marks ":").third.and (Sight.marks "::").third.not]]

/-- An implementation. One that is visible, constant or of no named interface leaves no trace. -/
def implementationItem (attributes : List Attribute) (visibility : Visibility) : Reader Item := do
  discard (acceptWord "default")
  discard (acceptWord "unsafe")
  expectWord "impl"
  let parameters ← if ← sees parametersAhead then genericParameters g else pure []
  let isConst ← sees ((Sight.word "const").or ((Sight.marks "?").and (Sight.word "const").second))
  if isConst then
    discard (acceptMarks "?")
    expectWord "const"
  let isNegative ← sees ((Sight.marks "!").and (Sight.opens .brace).second.not)
  if isNegative then expectMarks "!"
  let first ← g.type true
  let second ← if ← acceptWord "for" then pure (some (← g.type true)) else pure none
  discard (acceptConditions g)
  let (inner, members) ← inGroup .brace do
    return (← innerAttributes g, ← toEnd (implementationMember g))
  let isVisible := match visibility with
    | .inherited => false
    | _ => true
  let functions := members.filterMap id
  let attributes := attributes ++ inner
  if isVisible || isConst then return .other
  else match second, first with
    | some target, .path .. =>
      return .implementation {
        attributes, parameters, target, interface := some first, isNegative, functions }
    | some _, _ => return .other
    | none, target =>
      let target := if isNegative then .unnamed else target
      return .implementation { attributes, parameters, target, functions }

/-- A module whose items stand in it or in a file of their own. -/
def moduleItem (attributes : List Attribute) : Reader Item := do
  discard (acceptWord "unsafe")
  expectWord "mod"
  let name ← if ← sees (Sight.word "try") then anyWord else name
  if ← acceptMarks ";" then return .fileModule attributes name
  else
    let (inner, items) ← inGroup .brace do
      let inner ← innerAttributes g
      let items ← toEnd do g.item (← outerAttributes g)
      return (inner, items)
    return .inlineModule (attributes ++ inner) name items

/-- A declaration of something that is defined elsewhere. -/
def foreignItem : Reader Unit := do
  discard (outerAttributes g)
  let visibility ← visibility
  let isVisible := match visibility with
    | .inherited => false
    | _ => true
  let static := Sight.word "static"
  if ← functionAhead true then
    discard (signature g true)
    discard (functionBody g [])
  else if ← sees (static.or ((Sight.words ["unsafe", "safe"]).and static.second)) then
    unless ← sees static do discard anyWord
    expectWord "static"
    discard (acceptWord "mut")
    discard name
    expectMarks ":"
    discard (g.type true)
    if ← acceptMarks "=" then discard (g.expression true)
    expectMarks ";"
  else if ← sees (Sight.word "type") then typeAlias g .anywhere
  else if !isVisible && (← sees macroAhead) then memberMacro
  else failure

/-- A block of declarations of things that are defined elsewhere. -/
def foreignBlock : Reader Item := do
  discard (acceptWord "unsafe")
  discard acceptCallingConvention
  discard <| inGroup .brace do
    discard (innerAttributes g)
    toEnd (foreignItem g)
  return .other

def externalCrate : Reader Item := do
  expectWord "extern"
  expectWord "crate"
  if ← sees (Sight.word "self") then discard anyWord else discard name
  if ← acceptWord "as" then discard nameOrBlank
  expectMarks ";"
  return .other

def staticItem : Reader Item := do
  expectWord "static"
  discard (acceptWord "mut")
  discard name
  if ← acceptMarks "=" then discard (g.expression true)
  else
    expectMarks ":"
    discard (g.type true)
    if ← acceptMarks "=" then discard (g.expression true)
  expectMarks ";"
  return .other

/-- A macro that is declared by its keyword. -/
def macroItem : Reader Item := do
  expectWord "macro"
  discard name
  if ← sees (Sight.opens .paren) then discard anyGroup
  discard <| inGroup .brace everything
  return .other

/-- An item behind its attributes. -/
def itemOnce (attributes : List Attribute) : Reader Item := do
  let visibility ← visibility
  let isVisible := match visibility with
    | .inherited => false
    | _ => true
  if ← functionAhead false then
    discard (signature g false)
    discard (functionBody g [])
    return .other
  else if ← sees (Sight.word "extern") then
    if ← sees (Sight.word "crate").second then externalCrate
    else if isVisible then failure
    else foreignBlock g
  else if ← sees (Sight.word "use") then useItem
  else if ← sees (Sight.word "static") then staticItem g
  else if ← sees (Sight.word "const") then
    constant g
    return .other
  else if ← sees (Sight.word "unsafe") then
    if ← sees (Sight.words ["trait", "auto"]).second then qualifiedInterface g attributes visibility
    else if ← sees (Sight.word "impl").second then implementationItem g attributes visibility
    else if ← sees (Sight.word "mod").second then moduleItem g attributes
    else if isVisible then failure
    else
      expectWord "unsafe"
      if ← sees (Sight.word "extern") then foreignBlock g else failure
  else if ← sees (Sight.word "mod") then moduleItem g attributes
  else if ← sees (Sight.word "type") then
    typeAlias g .beforeValue
    return .other
  else if ← sees (Sight.word "struct") then structureItem g attributes visibility
  else if ← sees (Sight.word "enum") then enumItem g attributes visibility
  else if ← sees ((Sight.word "union").and Sight.name.second) then
    unionItem g attributes visibility
  else if ← sees (Sight.word "trait") then interfaceItem g attributes visibility
  else if ← sees ((Sight.word "auto").and (Sight.word "trait").second) then
    qualifiedInterface g attributes visibility
  else if ← sees ((Sight.word "impl").or
      ((Sight.word "default").and (Sight.marks "!").second.not)) then
    implementationItem g attributes visibility
  else if ← sees (Sight.word "macro") then macroItem
  else if !isVisible && (← sees macroAhead) then itemMacro
  else failure

end Architecture.Source.Grammar
