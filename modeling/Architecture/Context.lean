import Architecture.Generated
import Architecture.References.Inquiry

/-!
What rules look at: the loaded types, the options, and which modules are under test.
-/

namespace Architecture

structure Context where
  index : TypeIndex
  options : AnalysisOptions
  heuristic : GeneratedHeuristic
  underTest : List String

namespace Context

def modulesUnderTest (ctx : Context) : List ModuleDescriptor :=
  ctx.index.modules.filter fun m => ctx.underTest.contains m.name

def typesUnderTest (ctx : Context) : List TypeDescriptor :=
  ctx.modulesUnderTest.flatMap (·.types)

def references (ctx : Context) (t : TypeDescriptor) : Inquiry ReferenceSet :=
  .ask { type := t, roots := ctx.options.rootTypes } .done

def isGenerated (ctx : Context) (t : TypeDescriptor) : Bool :=
  ctx.heuristic.isGenerated ctx.index t

/-- The types under test, interfaces apart, that are assignable to a target. -/
def applicable (ctx : Context) (target : TypeName) : List TypeDescriptor :=
  ctx.typesUnderTest.filter fun t => !t.isInterface && ctx.index.isAssignable t target

end Context

end Architecture
