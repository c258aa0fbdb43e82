import Architecture.Descriptor.Codec

/-!
Options of an analysis.
-/

namespace Architecture

open Data

structure AnalysisOptions where
  /-- No further stage runs once this many violations are found. -/
  maxViolations : Nat := 15
  /-- How many violations one type contributes to a namespace rule. -/
  perTypeCutoff : Nat := 3
  /-- How many violations one namespace rule contributes. -/
  perNamespaceCutoff : Nat := 15
  /-- Base types with these full names are not counted as references. -/
  rootTypes : List String := ["System.Object", "object"]
  generatedMarkers : List String :=
    ["System.Runtime.CompilerServices.CompilerGeneratedAttribute", "automatically_derived"]
  generatedPatterns : List String :=
    ["^<", "<>", "__DisplayClass", "\\\x7b\\\x7bclosure\\\x7d\\\x7d"]
deriving DecidableEq

namespace AnalysisOptions

def isRootType (o : AnalysisOptions) (full : String) : Bool := o.rootTypes.contains full

/-- A count, which has 64 bits. -/
def count? : Value → Option Nat
  | .int n => if 0 ≤ n && n.toNat < Nat.pow 2 64 then some n.toNat else none
  | _ => none

def fieldNames : List String :=
  ["max_violations", "per_type_cutoff", "per_namespace_cutoff", "root_types",
    "compiler_generated_markers", "compiler_generated_patterns"]

def decode? (v : Value) : Option AnalysisOptions := do
  let fields ← v.fields? fieldNames
  let missing : AnalysisOptions := {}
  let texts := Value.listOf? Value.text?
  return {
    maxViolations := ← defaulted? fields "max_violations" missing.maxViolations count?
    perTypeCutoff := ← defaulted? fields "per_type_cutoff" missing.perTypeCutoff count?
    perNamespaceCutoff :=
      ← defaulted? fields "per_namespace_cutoff" missing.perNamespaceCutoff count?
    rootTypes := ← defaulted? fields "root_types" missing.rootTypes texts
    generatedMarkers :=
      ← defaulted? fields "compiler_generated_markers" missing.generatedMarkers texts
    generatedPatterns :=
      ← defaulted? fields "compiler_generated_patterns" missing.generatedPatterns texts }

def encode (o : AnalysisOptions) : Value :=
  let texts (xs : List String) := Value.list (xs.map Value.text)
  .record [("max_violations", .int o.maxViolations), ("per_type_cutoff", .int o.perTypeCutoff),
    ("per_namespace_cutoff", .int o.perNamespaceCutoff), ("root_types", texts o.rootTypes),
    ("compiler_generated_markers", texts o.generatedMarkers),
    ("compiler_generated_patterns", texts o.generatedPatterns)]

end AnalysisOptions

end Architecture
