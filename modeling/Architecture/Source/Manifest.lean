import Architecture.Data.Notation
import Architecture.Descriptor

/-!
Manifests of packages: a name, a version and dependencies.
-/

namespace Architecture.Source

open Data

structure Manifest where
  name : String
  version : Option String := none
  references : List ModuleReference := []

namespace Manifest

inductive Problem where
  | unreadable
  | noPackage
  | noName
  deriving DecidableEq, Repr

def Problem.message : Problem → String
  | unreadable => "TOML parse error"
  | noPackage => "missing [package] table"
  | noName => "missing package.name"

/-- The table under a name. Dates and times are no tables. -/
def table? (v : Value) (name : String) : Option (List (String × Value)) :=
  ((v.get? name).bind Value.record?).filter fun fields => !fields.any (·.1 = momentField)

/-- A field of a table, if it is a text. -/
def textField? (v : Value) (name : String) : Option String := (v.get? name).bind Value.text?

/-- A dependency: a version, or a table that may give another name for the package. -/
def dependency (key : String) : Value → ModuleReference
  | .text version => { name := key, version := some version }
  | .record fields =>
    let table := Value.record fields
    { name := (textField? table "package").getD key, version := textField? table "version" }
  | _ => { name := key }

/-- The dependencies in the order of their keys. -/
def dependencies (v : Value) : List ModuleReference :=
  let fields := (table? v "dependencies").getD []
  let sorted := fields.mergeSort fun a b => (compare a.1 b.1).isLE
  sorted.map fun (key, spec) => dependency key spec

def parse [DataNotations] (text : String) : Except Problem Manifest := do
  let some v := DataNotations.toml? text | .error .unreadable
  let some fields := table? v "package" | .error .noPackage
  let package := Value.record fields
  let some name := textField? package "name" | .error .noName
  return { name, version := textField? package "version", references := dependencies v }

end Manifest
end Architecture.Source
