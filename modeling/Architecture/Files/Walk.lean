import Architecture.Files.Access
import Architecture.Files.Notation

/-!
The files below a directory that are not ignored.

Rules of a nearer directory win over those further up. Rules for version control hold only in a
directory tree under version control, and only up to its root.

Rules come from the directories alone. Those that a user keeps for all trees under version control
are not considered, nor are the lines before the first unreadable one in a file that is not text
throughout: such a file brings no rules.
-/

namespace Architecture.Files

/-- What rules say of a path, and whether it is a directory: that it is ignored or that it is kept,
or nothing. -/
abbrev Verdict := String → Bool → Option Bool

/-- The rules that a directory brings. -/
structure Level where
  /-- The pieces of the directory from the root. -/
  home : List String
  ignored : Verdict := fun _ _ => none
  versionIgnored : Verdict := fun _ _ => none
  versionExcluded : Verdict := fun _ _ => none
  isVersionRoot : Bool := false

namespace Level

/-- The path of an entry seen from the directory. -/
def relative (l : Level) (entry : List String) : String :=
  ofPieces (entry.drop l.home.length)

/-- The levels up to and with the first root of version control. -/
def underVersion : List Level → List Level
  | [] => []
  | l :: rest => if l.isVersionRoot then [l] else l :: underVersion rest

/-- What the first level says that says anything; the nearest level comes first. -/
def verdict? (rules : Level → Verdict) (levels : List Level) (entry : List String)
    (isDirectory : Bool) : Option Bool :=
  levels.findSome? fun l => rules l (l.relative entry) isDirectory

/-- Whether an entry is ignored. -/
def ignores (levels : List Level) (entry : List String) (isDirectory : Bool) : Bool :=
  let versioned := if levels.any (·.isVersionRoot) then underVersion levels else []
  let verdict := (verdict? ignored levels entry isDirectory).or <|
    (verdict? versionIgnored versioned entry isDirectory).or
      (verdict? versionExcluded versioned entry isDirectory)
  verdict.getD false

end Level

variable {m : Type → Type} [Monad m] [FileAccess m] [PathNotations]

/-- The rules of a file, none if it cannot be read. -/
def rulesOf (path : String) : m Verdict := do
  match ← FileAccess.readText path with
  | .ok text => return PathNotations.ignored? text
  | .error _ => return fun _ _ => none

def levelOf (path : String) (home : List String) : m Level := do
  return {
    home
    ignored := ← rulesOf (join path ".ignore")
    versionIgnored := ← rulesOf (join path ".gitignore")
    versionExcluded := ← rulesOf (join path ".git/info/exclude")
    isVersionRoot := ← pathExists (join path ".git") }

/-- The levels above a directory, the nearest first. -/
def levelsAbove (home : List String) : m (List Level) :=
  (List.range home.length).reverse.mapM fun n =>
    levelOf ("/" ++ ofPieces (home.take n)) (home.take n)

/-- The files below a directory by their pieces from it. `depth` is how far directories nest, which
a path's length limits. -/
def filesBelow : (depth : Nat) → (levels : List Level) → (path : String) → (home : List String) →
    m (List (List String))
  | 0, _, _, _ => return []
  | depth + 1, levels, path, home => do
    let levels := (← levelOf path home) :: levels
    let below ← (← FileAccess.names path).mapM fun name => do
      let entry := home ++ [name]
      match ← FileAccess.kind? (join path name) with
      | some .directory =>
        if Level.ignores levels entry true then return []
        else return (← filesBelow depth levels (join path name) entry).map (name :: ·)
      | some .file => return if Level.ignores levels entry false then [] else [[name]]
      | none => return []
    return below.flatten

/-- The longest path has no more pieces than this. -/
def depthLimit : Nat := 4096

/-- The files below a path that are not ignored, by their pieces from it; a file is its own only
one. -/
def walk (path : String) : m (Except Failure (List (List String))) := do
  match ← FileAccess.kind? path with
  | none => return .error .missing
  | some .file => return .ok [[]]
  | some .directory =>
    let home ← absolutePieces path
    return .ok (← filesBelow depthLimit (← levelsAbove home) path home)

end Architecture.Files
