import Architecture.Data.Notation
import Architecture.Options

/-!
Configuration files: analysis options and where modules come from.
-/

namespace Architecture

open Data

/-- Where modules come from: a source tree or a snapshot. -/
structure ModuleSource where
  path : Option String := none
  snapshot : Option String := none
  /-- Patterns of source files that are left out. -/
  exclude : List String := []
  /-- Whether the modules are only looked up and not checked. -/
  referenceOnly : Bool := false
deriving DecidableEq

structure Config where
  analysis : AnalysisOptions := {}
  modules : List ModuleSource := []
deriving DecidableEq

namespace ModuleSource

def decode? (v : Value) : Option ModuleSource := do
  let fields ← v.fields? ["path", "snapshot", "exclude", "reference_only"]
  return {
    path := ← defaulted? fields "path" none (Value.optional? Value.text?)
    snapshot := ← defaulted? fields "snapshot" none (Value.optional? Value.text?)
    exclude := ← defaulted? fields "exclude" [] (Value.listOf? Value.text?)
    referenceOnly := ← defaulted? fields "reference_only" false Value.bool? }

end ModuleSource

namespace Config

def decode? (v : Value) : Option Config := do
  let fields ← v.fields? ["analysis", "modules"]
  return {
    analysis := ← defaulted? fields "analysis" {} AnalysisOptions.decode?
    modules := ← defaulted? fields "modules" [] (Value.listOf? ModuleSource.decode?) }

def parse? [DataNotations] (text : String) : Option Config :=
  (DataNotations.toml? text).bind decode?

end Config

end Architecture
