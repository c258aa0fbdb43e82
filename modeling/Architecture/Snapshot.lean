import Architecture.Data.Notation
import Architecture.Descriptor.Codec

/-!
Snapshots: files that hold one module or a list of modules.
-/

namespace Architecture.Snapshot

open Data

inductive Problem where
  /-- The text is in neither notation. -/
  | unreadable
  /-- The data describe no modules. -/
  | content
deriving DecidableEq, Repr

/-- A list of modules under that name, or else a single module. -/
def decode? (v : Value) : Option (List ModuleDescriptor) :=
  many? v <|> (ModuleDescriptor.decode? v).map ([·])
where
  many? : Value → Option (List ModuleDescriptor)
    | .record fields => do
      let fields ← (Value.record fields).fields? ["modules"]
      required? fields "modules" (Value.listOf? ModuleDescriptor.decode?)
    | _ => none

def encode (modules : List ModuleDescriptor) : Value :=
  .record [("modules", .list (modules.map ModuleDescriptor.encode))]

def read [DataNotations] (isToml : Bool) (text : String) :
    Except Problem (List ModuleDescriptor) :=
  match if isToml then DataNotations.toml? text else DataNotations.json? text with
  | none => .error .unreadable
  | some v =>
    match decode? v with
    | some modules => .ok modules
    | none => .error .content

end Architecture.Snapshot
