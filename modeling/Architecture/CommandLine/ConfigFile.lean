import Architecture.Project

/-!
The configuration file of a command: the one that is named, else the nearest one above the path,
else one for all projects of a user.
-/

namespace Architecture.CommandLine

open Files

/-- What a run knows besides its arguments and the files. -/
structure Surroundings where
  /-- The directory for what belongs to the user, if one is named. -/
  configDirectory : Option String := none
  home : Option String := none
deriving DecidableEq, Repr

/-- Where a configuration comes from. -/
inductive ConfigSource where
  | named (path : String)
  | project (path : String)
  | user (path : String)
  | missing
deriving DecidableEq, Repr

namespace ConfigSource

def path? : ConfigSource → Option String
  | named path | project path | user path => some path
  | missing => none

/-- The directory against which the paths of modules are resolved: that of the file, except where
the file belongs to no project. -/
def base (projectPath : String) : ConfigSource → String
  | named path | project path =>
    match parent? path with
    | none | some "" => "."
    | some parent => parent
  | user _ | missing => projectPath

end ConfigSource

/-- The file for all projects of a user, whether it exists or not. -/
def Surroundings.configPath? (s : Surroundings) : Option String :=
  (s.configDirectory <|> s.home.map (join · ".archgraph")).map (join · "config.toml")

variable {m : Type → Type} [Monad m] [FileAccess m]

/-- The first configuration in the directories, up to the first that is the root of a repository. -/
def findAmong? : List String → m (Option String)
  | [] => return none
  | dir :: rest => do
    match ← (configNames.map (join dir)).findM? isFile with
    | some path => return some path
    | none =>
      if ← pathExists (join dir ".git") then return none
      else findAmong? rest

def locate (surroundings : Surroundings) (named : Option String) (projectPath : String) :
    m ConfigSource := do
  match named with
  | some path => return .named path
  | none =>
    match ← findAmong? (ancestors projectPath) with
    | some path => return .project path
    | none =>
      match surroundings.configPath? with
      | none => return .missing
      | some path => if ← isFile path then return .user path else return .missing

end Architecture.CommandLine
