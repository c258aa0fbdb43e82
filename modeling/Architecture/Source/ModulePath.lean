import Architecture.Text.Segments

/-!
Modules by the files that hold them.
-/

namespace Architecture.Source

/-- The names of a file path: its components without those that only move. -/
def pathNames (path : String) : List String :=
  let pieces := (Text.segments '/' path.toList).map String.ofList
  pieces.filter fun piece => piece ≠ "" && piece ≠ "."

/-- A file name without its extension. A name that only starts with a dot has none. -/
def stem (name : String) : String :=
  match Text.splitLast '.' name.toList with
  | some (c :: before, _) => String.ofList (c :: before)
  | _ => name

/-- The path of the module that a file holds, from the file's path below the source directory. -/
def modulePath (file : String) : List String :=
  let names := pathNames file
  let last := names.getLast?.map fun name => if name = ".." then name else stem name
  -- what is left of a name of dots may be a piece that only moves
  let parts := (names.dropLast ++ last.toList).filter fun part => part ≠ "." && part ≠ ".."
  match parts.getLast? with
  | none => []
  | some last =>
    if last = "mod" || last = "lib" || (last = "main" && parts.length = 1) then parts.dropLast
    else parts

/-- The name by which code refers to a package. -/
def packageIdentifier (package : String) : String := Text.replaceChar '-' '_' package

end Architecture.Source
