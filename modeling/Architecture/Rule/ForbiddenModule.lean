import Architecture.Context
import Architecture.Violation

/-!
Module dependencies that match a forbidden pattern.
-/

namespace Architecture.ForbiddenModule

def info : RuleInfo := {
  code := "AG010", name := "forbidden-module-dependency", kind := .modules
  description := "Modules must not reference modules matching a forbidden pattern" }

def violation (m : ModuleDescriptor) (r : ModuleReference) : Violation :=
  info.violation m.name (.module r.name)
    s!"Module '{m.name}' depends on forbidden module '{r.full}'"

def check (ctx : Context) (patterns : List Pattern) : List Violation :=
  ctx.modulesUnderTest.flatMap fun m =>
    (m.references.filter fun r => patterns.any (·.occursIn r.full)).map (violation m)

end Architecture.ForbiddenModule
