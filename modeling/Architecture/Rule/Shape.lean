import Architecture.Context
import Architecture.Violation

/-!
The shape of types: whether they are records, their access, name and namespace.
-/

namespace Architecture

/-- What is asked of the types that are assignable to a target. -/
structure TypeShape where
  target : TypeName
  record : Option Bool := none
  access : List AccessLevel := []
  namePattern : Option Pattern := none
  nameSuffix : Option String := none
  namespacePattern : Option Pattern := none

namespace TypeShape

def isEmpty (s : TypeShape) : Bool :=
  s.record.isNone && s.access.isEmpty && s.namePattern.isNone && s.nameSuffix.isNone &&
    s.namespacePattern.isNone

/-- One more access level, unless it is there already. -/
def addAccess (s : TypeShape) (level : AccessLevel) : TypeShape :=
  { s with access := if s.access.contains level then s.access else s.access ++ [level] }

def info : RuleInfo := {
  code := "AG030", name := "type-shape", kind := .shapes
  description := "Types assignable to a target must have the configured record-ness, access, " ++
    "name and namespace" }

def recordProblem (s : TypeShape) (t : TypeDescriptor) : Option String :=
  match s.record with
  | none => none
  | some expected =>
    if t.isRecord = expected then none
    else if expected then some s!"Type '{t.name.full}' is not a record, expected a record"
    else some s!"Type '{t.name.full}' is a record, expected a non-record type"

def accessProblem (s : TypeShape) (t : TypeDescriptor) : Option String :=
  if s.access.isEmpty || s.access.contains t.effectiveAccess then none
  else
    let expected := Text.join ", " (s.access.map (·.name))
    some <| s!"Type '{t.name.full}' has access level '{t.effectiveAccess.name}', " ++
      s!"expected one of [{expected}]"

def nameProblem (s : TypeShape) (t : TypeDescriptor) : Option String :=
  match s.namePattern with
  | none => none
  | some p =>
    if p.occursIn t.name.simple then none
    else some s!"Type '{t.name.full}' name '{t.name.simple}' does not match pattern '{p.source}'"

def suffixProblem (s : TypeShape) (t : TypeDescriptor) : Option String :=
  match s.nameSuffix with
  | none => none
  | some suffix =>
    if suffix.toList.isSuffixOf t.name.simple.toList then none
    else some s!"Type '{t.name.full}' name does not end with '{suffix}'"

def namespaceProblem (s : TypeShape) (t : TypeDescriptor) : Option String :=
  match s.namespacePattern with
  | none => none
  | some p =>
    let space := t.name.space.getD ""
    if p.occursIn space then none
    else some s!"Type '{t.name.full}' namespace '{space}' does not match pattern '{p.source}'"

/-- Every constraint that a type fails. -/
def problems (s : TypeShape) (t : TypeDescriptor) : List String :=
  [s.recordProblem t, s.accessProblem t, s.nameProblem t, s.suffixProblem t,
    s.namespaceProblem t].filterMap id

def checkShape (ctx : Context) (s : TypeShape) : List Violation :=
  (ctx.applicable s.target).flatMap fun t =>
    (s.problems t).map (info.violation t.name.full .nothing)

def check (ctx : Context) (shapes : List TypeShape) : List Violation :=
  shapes.flatMap (checkShape ctx)

end TypeShape

end Architecture
