import Architecture.Data.Notation

/-!
Rules as a file states them, before they are checked.
-/

namespace Architecture.RuleFile

open Data

structure IsolationDraft where
  space : String
  inbound : Bool := true
  outbound : Bool := true
  except : List String := []
deriving DecidableEq

structure UsedOnlyDraft where
  target : String
  allowed : List String := []
  excludeGenerated : Bool := true
deriving DecidableEq

structure MethodDraft where
  method : String
  attributes : List String := []
deriving DecidableEq

structure ShapeDraft where
  target : String
  record : Option Bool := none
  access : List String := []
  name : Option String := none
  nameEndsWith : Option String := none
  space : Option String := none
  methods : List MethodDraft := []
deriving DecidableEq

structure SolutionDraft where
  name : String
  allow : Option (List String) := none
  forbid : Option (List String) := none
deriving DecidableEq

/-- The sections of a file, each with its entries. -/
structure Draft where
  isolations : List IsolationDraft := []
  forbiddenModules : List String := []
  usedOnly : List UsedOnlyDraft := []
  shapes : List ShapeDraft := []
  solution : List SolutionDraft := []
deriving DecidableEq

def texts? : Value → Option (List String) := Value.listOf? Value.text?

def IsolationDraft.decode? (v : Value) : Option IsolationDraft := do
  let fields ← v.fields? ["namespace", "inbound", "outbound", "except"]
  return {
    space := ← required? fields "namespace" Value.text?
    inbound := ← defaulted? fields "inbound" true Value.bool?
    outbound := ← defaulted? fields "outbound" true Value.bool?
    except := ← defaulted? fields "except" [] texts? }

def forbiddenModule? (v : Value) : Option String := do
  required? (← v.fields? ["pattern"]) "pattern" Value.text?

def UsedOnlyDraft.decode? (v : Value) : Option UsedOnlyDraft := do
  let fields ← v.fields? ["target", "allowed", "exclude-compiler-generated"]
  return {
    target := ← required? fields "target" Value.text?
    allowed := ← defaulted? fields "allowed" [] texts?
    excludeGenerated := ← defaulted? fields "exclude-compiler-generated" true Value.bool? }

def MethodDraft.decode? (v : Value) : Option MethodDraft := do
  let fields ← v.fields? ["method", "attributes"]
  return {
    method := ← required? fields "method" Value.text?
    attributes := ← defaulted? fields "attributes" [] texts? }

def ShapeDraft.decode? (v : Value) : Option ShapeDraft := do
  let fields ← v.fields?
    ["target", "record", "access", "name", "name-ends-with", "namespace", "methods"]
  let text? := Value.optional? Value.text?
  return {
    target := ← required? fields "target" Value.text?
    record := ← defaulted? fields "record" none (Value.optional? Value.bool?)
    access := ← defaulted? fields "access" [] texts?
    name := ← defaulted? fields "name" none text?
    nameEndsWith := ← defaulted? fields "name-ends-with" none text?
    space := ← defaulted? fields "namespace" none text?
    methods := ← defaulted? fields "methods" [] (Value.listOf? MethodDraft.decode?) }

def SolutionDraft.decode? (v : Value) : Option SolutionDraft := do
  let fields ← v.fields? ["module", "allow", "forbid"]
  return {
    name := ← required? fields "module" Value.text?
    allow := ← defaulted? fields "allow" none (Value.optional? texts?)
    forbid := ← defaulted? fields "forbid" none (Value.optional? texts?) }

def Draft.decode? (v : Value) : Option Draft := do
  let fields ← v.fields? ["isolate-namespace", "forbid-module-dependency", "used-only-by",
    "type-shape", "solution-module"]
  let entries {α : Type} (name : String) (read? : Value → Option α) :=
    defaulted? fields name [] (Value.listOf? read?)
  return {
    isolations := ← entries "isolate-namespace" IsolationDraft.decode?
    forbiddenModules := ← entries "forbid-module-dependency" forbiddenModule?
    usedOnly := ← entries "used-only-by" UsedOnlyDraft.decode?
    shapes := ← entries "type-shape" ShapeDraft.decode?
    solution := ← entries "solution-module" SolutionDraft.decode? }

def Draft.parse? [DataNotations] (text : String) : Option Draft :=
  (DataNotations.toml? text).bind decode?

end Architecture.RuleFile
