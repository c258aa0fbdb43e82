import Architecture.Plan
import Architecture.RuleFile.Draft

/-!
Rules from a file.

Entries are checked in the order of the sections and of the fields in an entry, and the first
invalid field is reported with its place. Names are trimmed and must not be blank; patterns are
kept as they are and have to be readable.
-/

namespace Architecture.RuleFile

/-- What is wrong with a field. -/
inductive Problem where
  | empty
  | invalidPattern (pattern : String)
  | noDirection
  | emptyShape (target : String)
  | noAttributes (method : String)
deriving DecidableEq, Repr

inductive LoadError where
  /-- The text is not TOML or has values of other types than asked for. -/
  | unreadable
  | invalid (place : String) (problem : Problem)
  | ambiguousPolicy (place : String)
  | unknownAccess (place : String) (level : String)
deriving DecidableEq, Repr

def Problem.message : Problem → String
  | .empty => "must not be empty"
  | .invalidPattern p =>
    "invalid pattern `" ++ p ++ "`: " ++ (SetupError.invalidPattern p).message
  | .noDirection => "at least one of `inbound` or `outbound` must be true"
  | .emptyShape t => "type shape for `" ++ t ++ "` sets no constraint"
  | .noAttributes m => "method `" ++ m ++ "` lists no attribute"

/-- What the reader is told. Parse errors end where the details would stand. -/
def LoadError.message : LoadError → String
  | .unreadable => "TOML parse error"
  | .invalid place problem => place ++ ": " ++ problem.message
  | .ambiguousPolicy place => place ++ ": exactly one of `allow` or `forbid` must be set"
  | .unknownAccess place level => place ++ ": " ++ AccessLevel.unknownMessage level

structure IsolationEntry where
  space : String
  inbound : Bool
  outbound : Bool
  except : List String
deriving DecidableEq

structure UsedOnlyEntry where
  target : String
  allowed : List String
  excludeGenerated : Bool
deriving DecidableEq

structure MethodEntry where
  method : String
  attributes : List String
deriving DecidableEq

structure ShapeEntry where
  target : String
  record : Option Bool
  access : List AccessLevel
  name : Option String
  nameEndsWith : Option String
  space : Option String
  methods : List MethodEntry
deriving DecidableEq

/-- One of the two policies that a solution module can have. -/
structure PolicyEntry where
  name : String
  policy : Policy
deriving DecidableEq

/-- Checked rules. -/
structure Rules where
  isolations : List IsolationEntry := []
  forbiddenModules : List String := []
  usedOnly : List UsedOnlyEntry := []
  shapes : List ShapeEntry := []
  solution : List PolicyEntry := []
deriving DecidableEq

namespace Rules

def count (r : Rules) : Nat :=
  r.isolations.length + r.forbiddenModules.length + r.usedOnly.length + r.shapes.length +
    r.solution.length

def isEmpty (r : Rules) : Bool := r.count = 0

end Rules

/-! ### Checking -/

def indexed (place : String) (i : Nat) : String := place ++ "[" ++ toString i ++ "]"

/-- Checks the items of a list in order, each at its own place, starting with number `i`. -/
def eachFrom {α β : Type} (place : String) (check : String → α → Except LoadError β) :
    Nat → List α → Except LoadError (List β)
  | _, [] => .ok []
  | i, a :: rest => do
    let b ← check (indexed place i) a
    return b :: (← eachFrom place check (i + 1) rest)

def each {α β : Type} (place : String) (check : String → α → Except LoadError β) (xs : List α) :
    Except LoadError (List β) :=
  eachFrom place check 0 xs

/-- A trimmed text that is not blank. -/
def nonEmpty (place text : String) : Except LoadError String :=
  let trimmed := Text.trim text
  if trimmed = "" then .error (.invalid place .empty) else .ok trimmed

variable [PatternNotation] [DataNotations]

def validPattern (place text : String) : Except LoadError String :=
  match Pattern.compile? text with
  | some _ => .ok text
  | none => .error (.invalid place (.invalidPattern text))

def optionally {α β : Type} (check : α → Except LoadError β) :
    Option α → Except LoadError (Option β)
  | none => .ok none
  | some a => (check a).map some

def checkIsolation (place : String) (d : IsolationDraft) : Except LoadError IsolationEntry := do
  let space ← nonEmpty (place ++ ".namespace") d.space
  if !d.inbound && !d.outbound then throw (.invalid place .noDirection)
  let except ← each (place ++ ".except") nonEmpty d.except
  return { space, inbound := d.inbound, outbound := d.outbound, except }

def checkForbidden (place : String) (pattern : String) : Except LoadError String :=
  validPattern (place ++ ".pattern") pattern

def checkUsedOnly (place : String) (d : UsedOnlyDraft) : Except LoadError UsedOnlyEntry := do
  let target ← nonEmpty (place ++ ".target") d.target
  let allowed ← each (place ++ ".allowed") nonEmpty d.allowed
  return { target, allowed, excludeGenerated := d.excludeGenerated }

def checkMethod (place : String) (d : MethodDraft) : Except LoadError MethodEntry := do
  let method ← nonEmpty (place ++ ".method") d.method
  if d.attributes.isEmpty then throw (.invalid place (.noAttributes method))
  let attributes ← each (place ++ ".attributes") nonEmpty d.attributes
  return { method, attributes }

def checkAccess (place : String) (text : String) : Except LoadError AccessLevel :=
  match AccessLevel.parse? text with
  | some level => .ok level
  | none => .error (.unknownAccess place text)

def ShapeEntry.isEmpty (s : ShapeEntry) : Bool :=
  s.record.isNone && s.access.isEmpty && s.name.isNone && s.nameEndsWith.isNone &&
    s.space.isNone && s.methods.isEmpty

def checkShape (place : String) (d : ShapeDraft) : Except LoadError ShapeEntry := do
  let target ← nonEmpty (place ++ ".target") d.target
  let access ← each (place ++ ".access") checkAccess d.access
  let name ← optionally (validPattern (place ++ ".name")) d.name
  let space ← optionally (validPattern (place ++ ".namespace")) d.space
  let nameEndsWith ← optionally (nonEmpty (place ++ ".name-ends-with")) d.nameEndsWith
  let methods ← each (place ++ ".methods") checkMethod d.methods
  let entry : ShapeEntry :=
    { target, record := d.record, access, name, nameEndsWith, space, methods }
  if entry.isEmpty then throw (.invalid place (.emptyShape target))
  return entry

def checkSolution (place : String) (d : SolutionDraft) : Except LoadError PolicyEntry := do
  let name ← nonEmpty (place ++ ".module") d.name
  match d.allow, d.forbid with
  | some allow, none =>
    let names ← each (place ++ ".allow") nonEmpty allow
    return { name, policy := ⟨.allow, sortedDistinct names⟩ }
  | none, some forbid =>
    let names ← each (place ++ ".forbid") nonEmpty forbid
    return { name, policy := ⟨.forbid, sortedDistinct names⟩ }
  | _, _ => .error (.ambiguousPolicy place)

def check (d : Draft) : Except LoadError Rules := do
  let isolations ← each "isolate-namespace" checkIsolation d.isolations
  let forbiddenModules ← each "forbid-module-dependency" checkForbidden d.forbiddenModules
  let usedOnly ← each "used-only-by" checkUsedOnly d.usedOnly
  let shapes ← each "type-shape" checkShape d.shapes
  let solution ← each "solution-module" checkSolution d.solution
  return { isolations, forbiddenModules, usedOnly, shapes, solution }

def load (text : String) : Except LoadError Rules :=
  match Draft.parse? text with
  | some d => check d
  | none => .error .unreadable

/-! ### Registration -/

def IsolationEntry.registrations (e : IsolationEntry) : List Registration :=
  let rule : Isolation := { space := e.space, except := e.except }
  (if e.inbound then [.isolation .inbound rule] else []) ++
    (if e.outbound then [.isolation .outbound rule] else [])

def UsedOnlyEntry.registration (e : UsedOnlyEntry) : Registration :=
  .usedOnly {
    target := TypeName.parse e.target, allowed := e.allowed.map TypeName.parse
    excludeGenerated := e.excludeGenerated }

def ShapeEntry.constraints (e : ShapeEntry) : List Constraint :=
  e.record.toList.map .record ++ e.access.map .access ++ e.name.toList.map .nameMatches ++
    e.nameEndsWith.toList.map .nameEndsWith ++ e.space.toList.map .namespaceMatches ++
    e.methods.map fun m => .method { name := m.method } (m.attributes.map TypeName.parse)

def ShapeEntry.registration (e : ShapeEntry) : Registration :=
  .type (TypeName.parse e.target) e.constraints

def PolicyEntry.registration (e : PolicyEntry) : Registration :=
  .solutionModule (SolutionEntry.list { name := e.name } e.policy)

/-- The steps by which a plan takes over the rules. -/
def Rules.registrations (r : Rules) : List Registration :=
  r.isolations.flatMap IsolationEntry.registrations ++ r.forbiddenModules.map .forbidModule ++
    r.usedOnly.map UsedOnlyEntry.registration ++ r.shapes.map ShapeEntry.registration ++
    r.solution.map PolicyEntry.registration

end Architecture.RuleFile
