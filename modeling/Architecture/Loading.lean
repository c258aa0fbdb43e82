import Architecture.Config
import Architecture.Files.Walk
import Architecture.Notations
import Architecture.Plan
import Architecture.Snapshot
import Architecture.Source.Extraction
import Architecture.Source.Manifest
import Architecture.Source.ModulePath

/-!
Modules from files: a package's source, or a snapshot.
-/

namespace Architecture

open Files

/-- Why modules cannot be loaded. -/
inductive LoadProblem where
  | unreadable (path : String) (failure : Failure)
  | unwalkable (path : String) (failure : Failure)
  /-- A source file is not what it should be, and that counts. -/
  | unparsable (path : String)
  | manifest (path : String) (problem : Source.Manifest.Problem)
  | snapshot (path : String) (isToml : Bool) (problem : Snapshot.Problem)
  | glob (reason : String)
  /-- A name of the source is looked up without end, or the lookup breaks off. -/
  | lookup (failure : Source.LookupFailure)
  | setup (error : SetupError)

namespace LoadProblem

def path? : LoadProblem → Option String
  | unreadable path _ => some path
  | unwalkable path _ => some path
  | unparsable path => some path
  | manifest path _ => some path
  | snapshot path _ _ => some path
  | glob _ => none
  | lookup _ => none
  | setup _ => none

/-- What the reader is told. The message of a notation ends where the reason would stand, and one
about a table's content ends its line. Of a lookup without answer no problem is made: it stops the
program. -/
def message : LoadProblem → String
  | unreadable path failure => "Failed to read " ++ path ++ ": " ++ failure.message
  | unwalkable path failure =>
    "Failed to walk " ++ path ++ ": " ++ path ++ ": IO error for operation on " ++ path ++ ": " ++
      failure.message
  | unparsable path => "Parse error in " ++ path
  | manifest path problem => "Invalid manifest " ++ path ++ ": " ++ problem.message
  | snapshot path _ .unreadable => "Invalid snapshot " ++ path
  | snapshot path isToml .content =>
    "Invalid snapshot " ++ path ++
      ": data did not match any variant of untagged enum SnapshotFile" ++
      (if isToml then "\n" else "")
  | glob reason => "Invalid glob pattern: " ++ reason
  | lookup failure => failure.message
  | setup error => error.message

end LoadProblem

/-- How a package's source is read. -/
structure SourceOptions where
  /-- Globs of files that are left out, besides what is always left out. -/
  exclude : List String := []
  /-- Whether a file that cannot be parsed is a problem. It is left out otherwise. -/
  strict : Bool := false

/-- What is always left out: what builds leave behind. -/
def alwaysExcluded : List String := ["**/target/**"]

/-- The module of a package, given what its manifest says and what its files hold. -/
def packageModule [SourceNotation] (manifest : Source.Manifest) (files : List Source.SourceFile) :
    Source.Found ModuleDescriptor := do
  let name := Source.packageIdentifier manifest.name
  let types ← Source.packageTypes name files
  return { name, version := manifest.version, references := manifest.references, types }

section

variable {m : Type → Type} [Monad m] [FileAccess m] [Notations]

/-- Access to files that may fail with a problem. -/
abbrev Loading (m : Type → Type) := ExceptT LoadProblem m

def readText (path : String) : Loading m String := do
  match ← (FileAccess.readText path : m _) with
  | .ok text => return text
  | .error failure => throw (.unreadable path failure)

/-- The files of a package by their pieces below its source directory, in order. -/
def sourceFiles (root : String) (globs : List (String → Bool)) :
    Loading m (List (List String)) := do
  let source := join root "src"
  match ← (walk source : m _) with
  | .error failure => throw (.unwalkable source failure)
  | .ok found =>
    let wanted := found.filter fun file =>
      extension? (ofPieces ("src" :: file)) = some "rs" &&
        !globs.any fun holds => holds (ofPieces ("src" :: file))
    return wanted.mergeSort fun a b => (compare a b).isLE

/-- A source file, unless it cannot be parsed and that does not count. -/
def sourceFile? (root : String) (strict : Bool) (file : List String) :
    Loading m (Option Source.SourceFile) := do
  let path := join (join root "src") (ofPieces file)
  match SourceNotation.items? (← readText path) with
  | some items => return some { home := Source.modulePath (ofPieces file), items }
  | none => if strict then throw (.unparsable path) else return none

/-- The module that a package's source describes. -/
def loadPackage (root : String) (options : SourceOptions) : Loading m ModuleDescriptor := do
  let path := join root "Cargo.toml"
  match Source.Manifest.parse (← readText path) with
  | .error problem => throw (.manifest path problem)
  | .ok manifest =>
    match (alwaysExcluded ++ options.exclude).mapM PathNotations.glob with
    | .error reason => throw (.glob reason)
    | .ok globs =>
      let files ← (← sourceFiles root globs).mapM (sourceFile? root options.strict)
      match packageModule manifest (files.filterMap id) with
      | .error failure => throw (.lookup failure)
      | .ok module => return module

/-- The modules of a snapshot. -/
def loadSnapshot (path : String) : Loading m (List ModuleDescriptor) := do
  let isToml := extension? path = some "toml"
  match Snapshot.read isToml (← readText path) with
  | .ok modules => return modules
  | .error problem => throw (.snapshot path isToml problem)

/-- The modules of one source, which stands at a position among the others. -/
def loadModules (base : String) (position : Nat) (source : ModuleSource) :
    Loading m (List ModuleDescriptor) := do
  match source.path, source.snapshot with
  | some path, none => return [← loadPackage (join base path) { exclude := source.exclude }]
  | none, some path => loadSnapshot (join base path)
  | _, _ => throw (.setup (.ambiguousSource position))

/-- The plan of a configuration, before any rule. -/
def loadPlan (config : Config) (base : String) : Loading m Plan := do
  let loaded ← (config.modules.zipIdx).mapM fun (source, position) => do
    let modules ← loadModules base position source
    return modules.map (if source.referenceOnly then Registration.referenceModule else .module)
  return loaded.flatten.foldl Plan.register { options := config.analysis }

end

end Architecture
