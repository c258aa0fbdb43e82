import Architecture.Source.Tree

/-!
The language of source text.
-/

namespace Architecture

open Source

/-- How source text is read. -/
class SourceNotation where
  /-- The items of a file. -/
  items? : String → Option (List Item)
  /-- Paths with commas between them, each by its last name. -/
  names? : List Token → Option (List String)

end Architecture
