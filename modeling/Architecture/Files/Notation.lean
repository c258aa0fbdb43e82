/-!
Notations for sets of paths.
-/

namespace Architecture

class PathNotations where
  /-- The paths that a glob stands for, or why the text is no glob. -/
  glob : String → Except String (String → Bool)
  /-- What the lines of a text say of a path, and whether it is a directory: that it is ignored or
  that it is kept, or nothing. -/
  ignored? : String → String → Bool → Option Bool

end Architecture
