/-!
Why an analysis cannot be set up.
-/

namespace Architecture

inductive SetupError where
  /-- A module has a list of allowed and one of forbidden solution dependencies. -/
  | conflictingPolicy (module : String)
  | outsideSolution (module : String)
  | invalidPattern (pattern : String)
  | unknownTarget (target : String)
  /-- A module entry names both or neither of the two places a module can come from. -/
  | ambiguousSource (position : Nat)
deriving DecidableEq, Repr

namespace SetupError

/-- What the reader is told. A pattern's message ends where the reason would stand. -/
def message : SetupError → String
  | .conflictingPolicy m => s!"module '{m}' has both allowed and forbidden solution dependencies"
  | .outsideSolution m => s!"module '{m}' is not part of the solution"
  | .invalidPattern p => s!"invalid pattern '{p}': regex parse error"
  | .unknownTarget t => s!"unknown rule target '{t}'"
  | .ambiguousSource i =>
    "modules[" ++ toString i ++ "]: exactly one of `path` or `snapshot` must be set"

def code : SetupError → String
  | .conflictingPolicy _ => "archgraph::config::conflicting_policy"
  | .outsideSolution _ => "archgraph::config::module_not_in_solution"
  | .invalidPattern _ => "archgraph::config::invalid_pattern"
  | .unknownTarget _ => "archgraph::config::unknown_target"
  | .ambiguousSource _ => "archgraph::config::ambiguous_module_source"

def help : SetupError → Option String
  | .conflictingPolicy _ => some "use either an allow-list or a forbid-list per module"
  | .unknownTarget _ => some "targets are dotted full names, e.g. `app.tuna.Tuna`"
  | _ => none

end SetupError

end Architecture
