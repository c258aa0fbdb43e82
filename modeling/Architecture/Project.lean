import Architecture.Loading
import Architecture.RuleFile

/-!
Projects: a configuration, the rules in the same text, and the modules it names.
-/

namespace Architecture

open Files

structure Project where
  /-- The configuration as written, which also holds the rules. -/
  text : String
  config : Config
  /-- The directory against which the paths of modules are resolved. -/
  base : String

/-- The configuration, with a package to check where it names no modules. -/
def Config.orPackage (config : Config) (path : String) : Config :=
  if config.modules.isEmpty then { config with modules := [{ path := some path }] } else config

namespace Project

/-- Why a project cannot be analysed. -/
inductive Problem where
  | loading (problem : LoadProblem)
  | rules (error : RuleFile.LoadError)
  | setup (error : SetupError)

variable {m : Type → Type} [Monad m] [FileAccess m] [Notations]

/-- The plan of a project: its modules are loaded before its rules are read. -/
def plan (p : Project) : ExceptT Problem m Plan := do
  match ← ((loadPlan p.config p.base).run : m _) with
  | .error problem => throw (.loading problem)
  | .ok plan =>
    match RuleFile.load p.text with
    | .error error => throw (.rules error)
    | .ok rules => return plan.registerAll rules.registrations

def analyzer (p : Project) : ExceptT Problem m Analyzer := do
  match (← p.plan).build with
  | .error error => throw (.setup error)
  | .ok a => return a

end Project

/-- The names under which a directory may hold a configuration, the preferred one first. -/
def configNames : List String := ["archgraph.toml", ".archgraph.toml"]

/-- What is said of a configuration that cannot be parsed; it ends where the details would stand. -/
def unparsableConfig : String := "Failed to parse config: TOML parse error"

end Architecture
