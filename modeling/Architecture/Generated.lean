import Architecture.Hierarchy
import Architecture.Options
import Architecture.Pattern
import Architecture.SetupError

/-!
Types that a compiler has generated.

A type is synthetic if it carries one of the markers or its simple name matches one of the
patterns. It counts as generated if it or a type around it is synthetic.
-/

namespace Architecture

variable [PatternNotation]

/-- The pattern that a text stands for, or the error that it stands for none. -/
def compilePattern (text : String) : Except SetupError Pattern :=
  match Pattern.compile? text with
  | some p => .ok p
  | none => .error (.invalidPattern text)

structure GeneratedHeuristic where
  markers : List TypeName
  patterns : List Pattern

namespace GeneratedHeuristic

def ofOptions (o : AnalysisOptions) : Except SetupError GeneratedHeuristic := do
  let patterns ← o.generatedPatterns.mapM compilePattern
  return { markers := o.generatedMarkers.map TypeName.parse, patterns }

def isSynthetic (h : GeneratedHeuristic) (t : TypeDescriptor) : Bool :=
  h.markers.any t.hasAttribute || h.patterns.any (·.occursIn t.name.simple)

def isGenerated (h : GeneratedHeuristic) (ix : TypeIndex) (t : TypeDescriptor) : Bool :=
  (ix.enclosingChain t).any h.isSynthetic

end GeneratedHeuristic

end Architecture
