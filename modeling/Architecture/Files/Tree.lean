import Architecture.Files.Location

/-!
Files and directories as a value.

Looking up a path walks from piece to piece, so a path through a file or through something that does
not exist leads nowhere, even when it would come back.
-/

namespace Architecture.Files

/-- A file with its text, if its bytes are text, or a directory with named entries. -/
inductive Entry where
  | file (text : Option String)
  | directory (entries : List (String × Entry))
  deriving Inhabited, Repr

inductive FileKind where
  | file
  | directory
  deriving DecidableEq, Repr

/-- Why a file cannot be read or written. -/
inductive Failure where
  | missing
  /-- Something on the way is no directory. -/
  | blocked
  | isDirectory
  | denied
  /-- The bytes of the file are no text. -/
  | notText
  deriving DecidableEq, Repr

def Failure.message : Failure → String
  | missing => "No such file or directory (os error 2)"
  | blocked => "Not a directory (os error 20)"
  | denied => "Permission denied (os error 13)"
  | isDirectory => "Is a directory (os error 21)"
  | notText => "stream did not contain valid UTF-8"

namespace Entry

def kind : Entry → FileKind
  | file _ => .file
  | directory _ => .directory

def child? (name : String) : Entry → Option Entry
  | directory entries => entries.lookup name
  | file _ => none

def names : Entry → List String
  | directory entries => entries.map (·.1)
  | file _ => []

def find? (e : Entry) : List String → Option Entry
  | [] => some e
  | name :: rest => (e.child? name).bind (·.find? rest)

/-- Entries with one of them replaced or added at the end. -/
def put (name : String) (new : Entry) : List (String × Entry) → List (String × Entry)
  | [] => [(name, new)]
  | (n, e) :: rest => if n = name then (n, new) :: rest else (n, e) :: put name new rest

/-- The entry with another one at a path, and with the directories on the way. -/
def insert (new : Entry) : List String → Entry → Entry
  | [], _ => new
  | name :: rest, e =>
    let entries := match e with
      | directory entries => entries
      | file _ => []
    let below := (entries.lookup name).getD (directory [])
    directory (put name (insert new rest below) entries)

/-- Where the pieces of a path lead from a place: the pieces of that place from the root. -/
def walk (root : Entry) : List String → List String → Except Failure (List String)
  | place, [] => .ok place
  | place, piece :: rest =>
    match root.find? place with
    | none => .error .missing
    | some (file _) => .error .blocked
    | some (directory entries) =>
      if isIdle piece then walk root place rest
      else if piece = ".." then walk root place.dropLast rest
      else if (entries.lookup piece).isSome then walk root (place ++ [piece]) rest
      else .error .missing

end Entry

/-- All files, and the directory from which relative paths start. -/
structure World where
  root : Entry := .directory []
  current : List String := []

namespace World

def pathPieces (w : World) (path : String) : List String × List String :=
  (if isAbsolute path then [] else w.current, pieces path)

/-- The place of a path from the root. -/
def place (w : World) (path : String) : Except Failure (List String) :=
  if path = "" then .error .missing
  else
    let (start, pieces) := w.pathPieces path
    w.root.walk start pieces

def entry (w : World) (path : String) : Except Failure Entry := do
  match w.root.find? (← w.place path) with
  | some e => .ok e
  | none => .error .missing

def kind? (w : World) (path : String) : Option FileKind :=
  ((w.entry path).map (·.kind)).toOption

def readText (w : World) (path : String) : Except Failure String := do
  match ← w.entry path with
  | .file (some text) => .ok text
  | .file none => .error .notText
  | .directory _ => .error .isDirectory

def names (w : World) (path : String) : List String :=
  ((w.entry path).map (·.names)).toOption.getD []

/-- The world with a text written to a file, whose directory has to exist. -/
def writeText (w : World) (path text : String) : Except Failure World := do
  let (start, pieces) := w.pathPieces path
  let home ← w.root.walk start pieces.dropLast
  match w.root.find? home, pieces.getLast? with
  | some (.directory entries), some name =>
    match entries.lookup name with
    | some (.directory _) => .error .isDirectory
    | _ => .ok { w with root := Entry.insert (.file (some text)) (home ++ [name]) w.root }
  | _, _ => .error .blocked

end World
end Architecture.Files
