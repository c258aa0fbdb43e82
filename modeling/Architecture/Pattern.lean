/-!
Patterns: texts that are searched for anywhere in another text.

What a text is found in is up to the notation of patterns. All that uses them is written for any
notation.
-/

namespace Architecture

/-- A notation of patterns: which texts are patterns, and in which texts each of them occurs. -/
class PatternNotation where
  occurrence? : String → Option (String → Bool)

structure Pattern where
  source : String
  /-- Whether the pattern occurs in a text. -/
  occursIn : String → Bool

def Pattern.compile? [PatternNotation] (source : String) : Option Pattern :=
  (PatternNotation.occurrence? source).map fun occursIn => { source, occursIn }

end Architecture
