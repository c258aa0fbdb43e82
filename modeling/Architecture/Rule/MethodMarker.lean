import Architecture.Context
import Architecture.Signature
import Architecture.Violation

/-!
Markers that selected methods have to carry.

A method is selected on a target type. On every type assignable to the target, the method that
implements or overrides it is the one to carry the markers.
-/

namespace Architecture

structure MethodSelector where
  name : String
  /-- Parameters that tell overloads apart. -/
  parameters : Option (List TypeRef) := none
deriving DecidableEq

namespace MethodSelector

def selects (s : MethodSelector) (m : Member) : Bool :=
  m.isMethod && m.name = s.name &&
    match s.parameters with
    | none => true
    | some parameters => (Member.method s.name parameters none).accepts m

/-- The first method of a type that is selected. -/
def locate? (s : MethodSelector) (t : TypeDescriptor) : Option Member :=
  t.methods.find? s.selects

end MethodSelector

structure MethodMarker where
  target : TypeName
  onInterface : Bool
  method : Member
  required : List TypeName := []
deriving DecidableEq

namespace MethodMarker

/-- A rule on the selected method of a loaded target type. -/
def resolve (ix : TypeIndex) (target : TypeName) (selector : MethodSelector)
    (required : List TypeName) : Except SetupError MethodMarker :=
  match ix.find? target with
  | none => .error (.unknownTarget target.full)
  | some t =>
    match selector.locate? t with
    | none => .error (.unknownTarget (target.full ++ "." ++ selector.name))
    | some method =>
      .ok { target, onInterface := t.isInterface, method, required := required.eraseDups }

def info : RuleInfo := {
  code := "AG031", name := "method-attribute", kind := .shapes
  description := "Selected methods must carry the required markers" }

/-- The method of a type that the rule is about. -/
def subject? (rule : MethodMarker) (ix : TypeIndex) (t : TypeDescriptor) : Option Member :=
  if rule.onInterface then ix.implementingMethod? t rule.target rule.method
  else ix.inheritedMethod? t rule.method

def violation (t : TypeDescriptor) (m : Member) (marker : TypeName) : Violation :=
  info.violation t.name.full (.method m.name)
    s!"Method '{m.name}' in type '{t.name.full}' expected to have attribute '{marker.full}'"
    (some s!"annotate '{t.name.full}.{m.name}' with '{marker.simple}'")

def checkType (ctx : Context) (rule : MethodMarker) (t : TypeDescriptor) : List Violation :=
  match rule.subject? ctx.index t with
  | none => []
  | some m => (rule.required.filter (!m.hasAttribute ·)).map (violation t m)

def check (ctx : Context) (rules : List MethodMarker) : List Violation :=
  rules.flatMap fun rule => (ctx.applicable rule.target).flatMap (checkType ctx rule)

end MethodMarker

end Architecture
