import Architecture.CommandLine.ConfigFile
import Architecture.CommandLine.Output

/-!
Runs of commands: what is printed, and how the run ends.
-/

namespace Architecture.CommandLine

open Files

/-- The end of a run. -/
structure Outcome where
  exit : Nat := 0
  output : String := ""
  /-- What went wrong, if the run did not get to its end. -/
  error : Option String := none
deriving DecidableEq, Repr

/-- The exit of a run whose arguments do not follow the rules. -/
def usageExit : Nat := 2

/-- Why a command does not get to its end. -/
inductive Failure where
  | unreadableConfig (path : String)
  | unparsableConfig
  | project (problem : Project.Problem)
  | configExists
  | unwritable (failure : Files.Failure)

def Failure.message : Failure → String
  | unreadableConfig path => "Failed to read config file " ++ path
  | unparsableConfig => Architecture.unparsableConfig
  | project (.loading problem) => problem.message
  | project (.rules _) => "Failed to load declarative rules"
  | project (.setup error) => error.message
  | configExists =>
    "Configuration file already exists at archgraph.toml. Use --force to overwrite."
  | unwritable failure => failure.message

variable {m : Type → Type} [Monad m] [FileAccess m] [Notations]

/-- The project at a path. Where no modules are named, the path itself is the package to check, seen
from the current directory. -/
def openProject (surroundings : Surroundings) (config : Option String) (path : String) :
    ExceptT Failure m Project := do
  let source ← (locate surroundings config path : m _)
  let text ← match source.path? with
    | none => pure ""
    | some file =>
      match ← (FileAccess.readText file : m _) with
      | .ok text => pure text
      | .error _ => throw (.unreadableConfig file)
  match Config.parse? text with
  | none => throw .unparsableConfig
  | some config =>
    let base := if config.modules.isEmpty then "." else source.base path
    return { text, config := config.orPackage path, base }

def loadAnalyzer (surroundings : Surroundings) (config : Option String) (path : String) :
    ExceptT Failure m Analyzer := do
  let project ← openProject surroundings config path
  match ← (project.analyzer.run : m _) with
  | .ok analyzer => return analyzer
  | .error problem => throw (.project problem)

/-- Writes the configuration to start from; one that exists is replaced only by force. -/
def writeStarter (force : Bool) : ExceptT Failure m Unit := do
  if (← (pathExists "archgraph.toml" : m _)) && !force then throw .configExists
  match ← (FileAccess.writeText "archgraph.toml" starterConfig : m _) with
  | .ok _ => return
  | .error failure => throw (.unwritable failure)

/-- Runs a command. A report with violations is printed and ends in failure. -/
def runCommand (surroundings : Surroundings) (config : Option String) :
    Command → ExceptT Failure m Outcome
  | .check path format => do
    let analyzer ← loadAnalyzer surroundings config path
    let (report, _) := analyzer.evaluate.run {}
    return { exit := if report.isValid then 0 else 1, output := report.print format }
  | .graph path filter format => do
    let analyzer ← loadAnalyzer surroundings config path
    let (entries, _) := (GraphEntry.collect analyzer filter).cached.run {}
    return { output := GraphEntry.print entries format }
  | .listRules => return { output := ruleTable }
  | .init force => do
    writeStarter force
    return { output := nextSteps }

/-- Does what the arguments ask for. -/
def run (surroundings : Surroundings) (arguments : List String) : m Outcome := do
  match request? arguments with
  | none => return { exit := usageExit }
  | some .help => return { output := helpText }
  | some .version => return { output := versionText }
  | some (.run config command) =>
    match ← (runCommand surroundings config command).run with
    | .ok outcome => return outcome
    | .error failure => return { exit := 1, error := some failure.message }

end Architecture.CommandLine
