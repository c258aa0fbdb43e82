import Architecture.Data.Value
import Architecture.Descriptor

/-!
Descriptors as data values.

What is empty or absent is left out when it is written and filled in when it is read, apart from
the references and types of a module, which are always written. A record may also be written as
the list of its fields in order.
-/

namespace Architecture

open Data

/-- A field that is left out when its list is empty. -/
def listField (name : String) (items : List Value) : List (String × Value) :=
  if items.isEmpty then [] else [(name, .list items)]

/-- A field that is left out when its text is empty. -/
def textField (name text : String) : List (String × Value) :=
  if text = "" then [] else [(name, .text text)]

/-- A field that is left out when there is nothing to write. -/
def optionalField (name : String) (v : Option Value) : List (String × Value) :=
  v.toList.map (name, ·)

def TypeName.decode? (v : Value) : Option TypeName := v.text?.map TypeName.parse

def TypeName.encode (n : TypeName) : Value := .text n.full

/-- One of several names, alone or as the only field of a record that holds nothing else. -/
def choice? {α : Type} (ofName? : String → Option α) : Value → Option α
  | .text s => ofName? s
  | .record [(s, .null)] => ofName? s
  | _ => none

namespace TypeRef

/-- A placeholder, which is a record with a text of this name. -/
def generic? : Value → Option TypeRef
  | .record fields =>
    match fields.filter (·.1 = "generic") with
    | [(_, .text s)] => some (.generic s)
    | _ => none
  | _ => none

/-- The reading of the one field of a name, if there is at most one. -/
def single? {α : Type} (missing : α) : List (Option α) → Option α
  | [] => some missing
  | [found] => found
  | _ => none

/-- A named reference from the readings of its three fields. -/
def assemble? (names : Option TypeName) (owner : Option String) (args : Option (List TypeRef)) :
    Option TypeRef := do
  return .named (← names) (← owner) (← args)

mutual

/-- A placeholder if the value reads as one, else a named reference. -/
def decode? : Value → Option TypeRef
  | .record fields =>
    generic? (.record fields) <|>
      assemble? (single? none (fields.filterMap fun (k, v) =>
          if k = "type" then some (v.text?.map (some ∘ TypeName.parse)) else none)).join
        (single? "" (fields.filterMap fun (k, v) => if k = "module" then some v.text? else none))
        (single? [] (decodeArgs fields))
  | .list [n] => assemble? (TypeName.decode? n) (some "") (some [])
  | .list [n, o] => assemble? (TypeName.decode? n) o.text? (some [])
  | .list [n, o, .list args] => assemble? (TypeName.decode? n) o.text? (decodeAll? args)
  | _ => none

def decodeAll? : List Value → Option (List TypeRef)
  | [] => some []
  | v :: rest =>
    match decode? v, decodeAll? rest with
    | some r, some rs => some (r :: rs)
    | _, _ => none

/-- The readings of every field that holds arguments. -/
def decodeArgs : List (String × Value) → List (Option (List TypeRef))
  | [] => []
  | (k, .list args) :: rest =>
    if k = "args" then decodeAll? args :: decodeArgs rest else decodeArgs rest
  | (k, _) :: rest => if k = "args" then none :: decodeArgs rest else decodeArgs rest

end

mutual

def encode : TypeRef → Value
  | .generic p => .record [("generic", .text p)]
  | .named name owner args =>
    .record (("type", name.encode) :: (textField "module" owner ++
      listField "args" (encodeAll args)))

def encodeAll : List TypeRef → List Value
  | [] => []
  | r :: rest => encode r :: encodeAll rest

end

end TypeRef

namespace NamedRef

def decode? (v : Value) : Option NamedRef := do
  let fields ← v.fields? ["type", "module", "args"]
  return {
    name := ← required? fields "type" TypeName.decode?
    owner := ← defaulted? fields "module" "" Value.text?
    args := ← defaulted? fields "args" [] (Value.listOf? TypeRef.decode?) }

def encode (n : NamedRef) : Value := n.toRef.encode

end NamedRef

namespace Attribute

def decodeArguments? (v : Value) : Option Arguments := do
  let entries ← (← v.record?).mapM fun (k, v) => v.text?.map (k, ·)
  return Arguments.ofList entries

def decode? (v : Value) : Option Attribute := do
  let fields ← v.fields? ["name", "arguments"]
  return {
    name := ← required? fields "name" TypeName.decode?
    arguments := ← defaulted? fields "arguments" (Arguments.ofList []) decodeArguments? }

def encode (a : Attribute) : Value :=
  .record <| ("name", a.name.encode) ::
    if a.arguments.entries.isEmpty then []
    else [("arguments", .record (a.arguments.entries.map fun (k, v) => (k, .text v)))]

end Attribute

namespace Member

def fieldNames : List String := ["name", "kind", "parameters", "type", "attributes", "interface"]

def decode? (v : Value) : Option Member := do
  let fields ← v.fields? fieldNames
  return {
    name := ← required? fields "name" Value.text?
    kind := ← required? fields "kind" (choice? MemberKind.ofName?)
    parameters := ← defaulted? fields "parameters" [] (Value.listOf? TypeRef.decode?)
    valueType := ← defaulted? fields "type" none (Value.optional? TypeRef.decode?)
    attributes := ← defaulted? fields "attributes" [] (Value.listOf? Attribute.decode?)
    implements := ← defaulted? fields "interface" none (Value.optional? NamedRef.decode?) }

def encode (m : Member) : Value :=
  .record <| [("name", .text m.name), ("kind", .text m.kind.name)] ++
    listField "parameters" (TypeRef.encodeAll m.parameters) ++
    optionalField "type" (m.valueType.map TypeRef.encode) ++
    listField "attributes" (m.attributes.map Attribute.encode) ++
    optionalField "interface" (m.implements.map NamedRef.encode)

end Member

namespace TypeDescriptor

def fieldNames : List String :=
  ["name", "module", "kind", "access", "base_type", "interfaces", "members", "attributes",
    "declaring_type", "generic_parameters"]

def decode? (v : Value) : Option TypeDescriptor := do
  let fields ← v.fields? fieldNames
  return {
    name := ← required? fields "name" TypeName.decode?
    owner := ← defaulted? fields "module" "" Value.text?
    kind := ← required? fields "kind" (choice? TypeKind.ofName?)
    access := ← required? fields "access" (choice? AccessLevel.ofName?)
    base := ← defaulted? fields "base_type" none (Value.optional? TypeRef.decode?)
    interfaces := ← defaulted? fields "interfaces" [] (Value.listOf? TypeRef.decode?)
    members := ← defaulted? fields "members" [] (Value.listOf? Member.decode?)
    attributes := ← defaulted? fields "attributes" [] (Value.listOf? Attribute.decode?)
    enclosing := ← defaulted? fields "declaring_type" none (Value.optional? TypeName.decode?)
    genericParameters := ← defaulted? fields "generic_parameters" [] (Value.listOf? Value.text?) }

def encode (t : TypeDescriptor) : Value :=
  .record <| [("name", t.name.encode)] ++ textField "module" t.owner ++
    [("kind", .text t.kind.name), ("access", .text t.access.name)] ++
    optionalField "base_type" (t.base.map TypeRef.encode) ++
    listField "interfaces" (TypeRef.encodeAll t.interfaces) ++
    listField "members" (t.members.map Member.encode) ++
    listField "attributes" (t.attributes.map Attribute.encode) ++
    optionalField "declaring_type" (t.enclosing.map TypeName.encode) ++
    listField "generic_parameters" (t.genericParameters.map Value.text)

end TypeDescriptor

namespace ModuleReference

def decode? (v : Value) : Option ModuleReference := do
  let fields ← v.fields? ["name", "version"]
  return {
    name := ← required? fields "name" Value.text?
    version := ← defaulted? fields "version" none (Value.optional? Value.text?) }

def encode (r : ModuleReference) : Value :=
  .record <| ("name", .text r.name) :: optionalField "version" (r.version.map Value.text)

end ModuleReference

namespace ModuleDescriptor

def decode? (v : Value) : Option ModuleDescriptor := do
  let fields ← v.fields? ["name", "version", "references", "types"]
  return {
    name := ← required? fields "name" Value.text?
    version := ← defaulted? fields "version" none (Value.optional? Value.text?)
    references := ← defaulted? fields "references" [] (Value.listOf? ModuleReference.decode?)
    types := ← defaulted? fields "types" [] (Value.listOf? TypeDescriptor.decode?) }

def encode (m : ModuleDescriptor) : Value :=
  .record <| ("name", .text m.name) :: optionalField "version" (m.version.map Value.text) ++
    [("references", .list (m.references.map ModuleReference.encode)),
      ("types", .list (m.types.map TypeDescriptor.encode))]

end ModuleDescriptor

end Architecture
