import Architecture.Files.Tree

/-!
Access to files.

What reads and writes files is written for any monad that gives access to them. `World` gives it as
a state, so that every run has a value.
-/

namespace Architecture.Files

class FileAccess (m : Type → Type) where
  /-- What a path leads to, if anything. -/
  kind? : String → m (Option FileKind)
  readText : String → m (Except Failure String)
  /-- The names in a directory. -/
  names : String → m (List String)
  writeText : String → String → m (Except Failure Unit)
  /-- The directory from which relative paths start, as an absolute path. -/
  current : m String

instance : FileAccess (StateM World) where
  kind? path := do return (← get).kind? path
  readText path := do return (← get).readText path
  names path := do return (← get).names path
  writeText path text := do
    match (← get).writeText path text with
    | .ok w =>
      set w
      return .ok ()
    | .error failure => return .error failure
  current := do return "/" ++ ofPieces (← get).current

variable {m : Type → Type} [Monad m] [FileAccess m]

def isFile (path : String) : m Bool := do
  return (← FileAccess.kind? path) = some .file

def pathExists (path : String) : m Bool := do
  return (← FileAccess.kind? path).isSome

/-- An absolute path by its pieces, without moves. -/
def absolutePieces (path : String) : m (List String) := do
  return normalized (join (← FileAccess.current) path)

end Architecture.Files
