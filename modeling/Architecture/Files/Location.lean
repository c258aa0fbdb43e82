import Architecture.Text.Segments

/-!
Paths of files as text.

A path is kept as it was put together, because messages show it that way. Only the functions here
look inside: empty pieces and single dots do not count, except for a dot that a path starts with.
-/

namespace Architecture.Files

def pieces (path : String) : List String :=
  (Text.segments '/' path.toList).map String.ofList

def ofPieces (pieces : List String) : String := Text.join "/" pieces

def isAbsolute (path : String) : Bool := path.toList.head? = some '/'

/-- A path seen from another one. An absolute path stays as it is. -/
def join (base path : String) : String :=
  if isAbsolute path || base = "" then path
  else if base.toList.getLast? = some '/' then base ++ path
  else base ++ "/" ++ path

/-- Whether a piece does not count where it stands last. -/
def isIdle (piece : String) : Bool := piece = "" || piece = "."

/-- Pieces without those that do not count at their end; the first piece stays. -/
def trimmed : List String → List String
  | [] => []
  | first :: rest => first :: (rest.reverse.dropWhile isIdle).reverse

/-- The path without its last piece. The root and the empty path have none. -/
def parent? (path : String) : Option String :=
  match trimmed (pieces path) with
  | [] => none
  | [first] => if first = "" then none else some ""
  | first :: rest =>
    match trimmed (first :: rest.dropLast) with
    | [""] => some "/"
    | shorter => some (ofPieces shorter)

/-- The last piece, unless it only moves. -/
def fileName? (path : String) : Option String :=
  (trimmed (pieces path)).getLast?.filter fun piece => !isIdle piece && piece ≠ ".."

/-- What follows the last dot of the last piece; a dot that a name starts with does not count. -/
def extension? (path : String) : Option String := do
  let name ← fileName? path
  match Text.splitLast '.' name.toList with
  | some (_ :: _, after) => some (String.ofList after)
  | _ => none

/-- The path and its parents, the longest first; there are at most as many as pieces. -/
def ancestorsFrom : Nat → String → List String
  | 0, path => [path]
  | fuel + 1, path =>
    match parent? path with
    | some parent => path :: ancestorsFrom fuel parent
    | none => [path]

def ancestors (path : String) : List String := ancestorsFrom (pieces path).length path

/-- The pieces of an absolute path after every move. -/
def normalized (path : String) : List String :=
  (pieces path).foldl (fun done piece =>
    if isIdle piece then done else if piece = ".." then done.dropLast else done ++ [piece]) []

end Architecture.Files
