import Architecture.Context
import Architecture.Violation

/-!
Dependencies between the modules of a solution.

Each module of a solution has at most one policy, which lists the sibling modules that it may, or
may not, depend on. Names are compared with hyphens and underscores identified.
-/

namespace Architecture

/-- What a policy does with the modules that it lists. -/
inductive Stance where
  | allow
  | forbid
deriving DecidableEq, Repr

structure Policy where
  stance : Stance
  names : List String
deriving DecidableEq, Repr

structure Solution where
  modules : List String
  policies : List (String × Policy) := []
deriving DecidableEq, Repr

namespace Solution

def normalize (name : String) : String := Text.replaceChar '-' '_' name

def ofModules (names : List String) : Solution :=
  { modules := sortedDistinct (names.map normalize) }

def isEmpty (s : Solution) : Bool := s.policies.isEmpty

/-- The normal form of the name of a module in the solution. -/
def member (s : Solution) (name : String) : Except SetupError String :=
  if s.modules.contains (normalize name) then .ok (normalize name)
  else .error (.outsideSolution name)

/-- A policy in place of the one that the module has. -/
def setPolicy (name : String) (policy : Policy) :
    List (String × Policy) → List (String × Policy)
  | [] => [(name, policy)]
  | (m, p) :: rest =>
    if m = name then (name, policy) :: rest else (m, p) :: setPolicy name policy rest

/-- Adds names to the policy of a module. The module and all names have to be in the solution, and
the module must not have a policy of the other stance. -/
def addPolicy (s : Solution) (name : String) (policy : Policy) : Except SetupError Solution := do
  let name ← s.member name
  let names ← (sortedDistinct policy.names).mapM s.member
  match s.policies.lookup name with
  | none =>
    let names := sortedDistinct names
    return { s with policies := setPolicy name { policy with names } s.policies }
  | some existing =>
    if existing.stance = policy.stance then
      let names := sortedDistinct (existing.names ++ names)
      return { s with policies := setPolicy name { policy with names } s.policies }
    else .error (.conflictingPolicy name)

def info : RuleInfo := {
  code := "AG011", name := "solution-module-dependency", kind := .modules
  description := "Solution modules may only reference the sibling modules their policy allows" }

def flags (s : Solution) (policy : Policy) (r : ModuleReference) : Bool :=
  let name := normalize r.name
  s.modules.contains name &&
    match policy.stance with
    | .allow => !policy.names.contains name
    | .forbid => policy.names.contains name

def message (m : ModuleDescriptor) (r : ModuleReference) : Stance → String
  | .allow => s!"Module '{m.name}' is not allowed to depend on solution module '{r.name}'"
  | .forbid => s!"Module '{m.name}' is forbidden to depend on solution module '{r.name}'"

def checkModule (s : Solution) (m : ModuleDescriptor) : List Violation :=
  match s.policies.lookup (normalize m.name) with
  | none => []
  | some policy =>
    (m.references.filter (s.flags policy)).map fun r =>
      info.violation m.name (.module r.name) (message m r policy.stance)

def check (ctx : Context) (s : Solution) : List Violation :=
  ctx.modulesUnderTest.flatMap s.checkModule

end Solution

end Architecture
