import Architecture.Data.Notation
import Architecture.Files.Notation
import Architecture.Pattern
import Architecture.Source.Notation

/-!
All notations that the program reads.
-/

namespace Architecture

class Notations extends PatternNotation, DataNotations, SourceNotation, PathNotations

end Architecture
