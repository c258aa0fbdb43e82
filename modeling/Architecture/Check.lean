import Architecture.Project

/-!
The check that a package runs among its own tests.

It fails with a text. The project is the workspace around the package, if there is one.
-/

namespace Architecture

open Files

/-- Why a check fails. -/
inductive CheckFailure where
  | unreadable (path : String) (failure : Failure)
  | unparsable
  | project (problem : Project.Problem)
  | violated (report : Report)
  /-- There are no rules, and that counts. -/
  | nothingChecked

namespace CheckFailure

/-- The text with which a check fails. A report stands for itself. -/
def message : CheckFailure → String
  | unreadable path failure =>
    "archgraph: failed to read config from " ++ path ++ ": " ++ failure.message
  | unparsable => "archgraph: failed to parse config: " ++ unparsableConfig
  | project (.loading problem) => "archgraph: failed to load modules: " ++ problem.message
  | project (.rules error) => "archgraph: declarative config error: " ++ error.message
  | project (.setup error) => "archgraph: " ++ error.message
  | violated report => report.testText
  | nothingChecked => "archgraph: no rules configured (fail_on_empty = true)"

end CheckFailure

/-- What a check may be told. -/
structure CheckOptions where
  /-- The configuration file, seen from the project. -/
  config : Option String := none
  failOnEmpty : Bool := false

section

variable {m : Type → Type} [Monad m] [FileAccess m] [Notations]

/-- Whether a manifest can be read and has a workspace. -/
def hasWorkspace (path : String) : m Bool := do
  match ← FileAccess.readText path with
  | .error _ => return false
  | .ok text => return ((DataNotations.toml? text).bind (·.get? "workspace")).isSome

/-- The workspace around a package, or the package itself. -/
def projectRoot (package : String) : m String := do
  let found ← (ancestors package).findM? fun dir => hasWorkspace (join dir "Cargo.toml")
  return found.getD package

/-- The configuration of a project as written, and the directory of its file. -/
def projectConfig (root : String) (options : CheckOptions) :
    ExceptT CheckFailure m (String × String) := do
  let path? ← match options.config with
    | some path => pure (some (join root path))
    | none => ((configNames.map (join root)).findM? pathExists : m _)
  match path? with
  | none => return ("", root)
  | some path =>
    match ← (FileAccess.readText path : m _) with
    | .error failure => throw (.unreadable path failure)
    | .ok text => return (text, (parent? path).getD root)

/-- Checks a package, given its directory as an absolute path. -/
def runCheck (package : String) (options : CheckOptions) : ExceptT CheckFailure m Unit := do
  let root ← (projectRoot package : m _)
  let (text, base) ← projectConfig root options
  match Config.parse? text with
  | none => throw .unparsable
  | some config =>
    let project : Project := { text, config := config.orPackage package, base }
    match ← (project.analyzer.run : m _) with
    | .error problem => throw (.project problem)
    | .ok analyzer =>
      match (analyzer.shouldBeValid.run {}).1 with
      | .error report => throw (.violated report)
      | .ok report =>
        if options.failOnEmpty && report.rulesEvaluated = 0 then throw .nothingChecked

end

end Architecture
