import Architecture.CommandLine.Arguments
import Architecture.Data.Json
import Architecture.Plan

/-!
What commands print.
-/

namespace Architecture

open Data

def unlines (lines : List String) : String := Text.join "" (lines.map (· ++ "\n"))

namespace Violation

/-- The lines for a violation in a report for people, with an empty line at the end. -/
def narrated (v : Violation) : List String :=
  [v.code ++ " " ++ v.rule ++ " in " ++ v.current, v.headline, "    Diagnostic severity: error"] ++
    (v.help.toList.map ("diagnostic help: " ++ ·)) ++ [""]

def oneLine (v : Violation) : String := v.current ++ ": " ++ v.headline

end Violation

namespace Report

/-- Green for a valid report, red for another. -/
def color (r : Report) : String := if r.isValid then "\x1b[32m" else "\x1b[31m"

def print (r : Report) : CommandLine.Format → String
  | .text => unlines (r.violations.flatMap (·.narrated) ++ [r.color ++ r.summary ++ "\x1b[0m"])
  | .json => unlines [Json.renderPretty 0 r.encode]
  | .compact => unlines (r.violations.map (·.oneLine))

end Report

namespace CommandLine

/-- A type under test and the full names of what it refers to. -/
structure GraphEntry where
  name : String
  internal : List String
  external : List String
deriving DecidableEq, Repr

namespace GraphEntry

def ofReferences (t : TypeDescriptor) (references : ReferenceSet) : GraphEntry where
  name := t.name.full
  internal := references.internal.map (·.name.full)
  external := references.external.map (·.name.full)

def encode (e : GraphEntry) : Value :=
  .record [("type", .text e.name), ("internal", .list (e.internal.map .text)),
    ("external", .list (e.external.map .text))]

/-- The name, then what it refers to, line by line. -/
def lines (e : GraphEntry) : List String :=
  e.name :: e.internal.map ("  -> " ++ ·) ++ e.external.map ("  => " ++ · ++ " (external)")

/-- One line for each edge. -/
def edges (e : GraphEntry) : List String :=
  (e.internal ++ e.external).map (e.name ++ " " ++ ·)

/-- The entries of the types under test whose full names hold a text. -/
def collect (a : Analyzer) (filter : Option String) : Inquiry (List GraphEntry) :=
  let wanted := a.context.typesUnderTest.filter fun t =>
    filter.all fun text => Text.contains text.toList t.name.full.toList
  wanted.mapM fun t => do return ofReferences t (← a.context.references t)

def print (entries : List GraphEntry) : Format → String
  | .text =>
    unlines (entries.flatMap lines ++ ["", toString entries.length ++ " type(s)"])
  | .json => unlines [Json.renderPretty 0 (.list (entries.map encode))]
  | .compact => unlines (entries.flatMap edges)

end GraphEntry

/-- A text filled up with spaces. -/
def padded (width : Nat) (text : String) : String :=
  text ++ String.ofList (List.replicate (width - text.length) ' ')

/-- A row of the table of rules. -/
def ruleRow (code name stage description : String) : String :=
  padded 8 code ++ " " ++ padded 30 name ++ " " ++ padded 12 stage ++ " " ++ description

def ruleTable : String :=
  unlines <| ["Available rules:", "", ruleRow "Code" "Name" "Stage" "Description",
      String.ofList (List.replicate 96 '-')] ++
    Rule.catalogue.map (fun info => ruleRow info.code info.name info.kind.name info.description) ++
    ["", "Stages run in the order listed. Evaluation stops after a stage",
      "once `analysis.max_violations` is reached.", "",
      "Declare rules in archgraph.toml, e.g.:", "  [[isolate-namespace]]",
      "  namespace = \"app.domain\""]

/-- The configuration to start from. -/
def starterConfig : String :=
  unlines [
    "# archgraph configuration",
    "",
    "[analysis]",
    "# Stop after the first pipeline stage that reaches this many violations",
    "max_violations = 15",
    "# Violations reported per offending type / per isolated namespace",
    "per_type_cutoff = 3",
    "per_namespace_cutoff = 15",
    "",
    "# Modules to load. Without this section the current crate is analyzed.",
    "[[modules]]",
    "path = \".\"",
    "exclude = [\"**/target/**\"]",
    "",
    "# Metadata snapshots can stand in for source:",
    "# [[modules]]",
    "# snapshot = \"vendor/billing.json\"",
    "# reference_only = true",
    "",
    "# [[isolate-namespace]]",
    "# namespace = \"app.domain\"",
    "# inbound = true",
    "# outbound = true",
    "# except = [\"app.shared\"]",
    "",
    "# [[forbid-module-dependency]]",
    "# pattern = \"^openssl\"",
    "",
    "# [[used-only-by]]",
    "# target = \"app.db.Pool\"",
    "# allowed = [\"app.repo.Repository\"]",
    "",
    "# [[type-shape]]",
    "# target = \"app.commands.Command\"",
    "# name-ends-with = \"Command\"",
    "# access = [\"public\"]",
    "#",
    "# [[type-shape.methods]]",
    "# method = \"execute\"",
    "# attributes = [\"instrument\"]",
    "",
    "# [[solution-module]]",
    "# module = \"app_web\"",
    "# forbid = [\"app_infra\"]"]

/-- What is said after the configuration to start from has been written. -/
def nextSteps : String :=
  unlines ["Created archgraph.toml", "", "Next steps:", "  1. Uncomment and edit the rule sections",
    "  2. Run: archgraph check"]

def versionText : String := unlines ["archgraph 0.1.0"]

def helpText : String :=
  unlines [
    "CLI tool for archgraph architecture tests",
    "",
    "Usage: archgraph [OPTIONS] <COMMAND>",
    "",
    "Commands:",
    "  check       Evaluate the configured rules",
    "  graph       Print the reference sets of the types under test",
    "  list-rules  List available rules",
    "  init        Initialize configuration file",
    "  help        Print this message or the help of the given subcommand(s)",
    "",
    "Options:",
    "  -v, --verbose          Enable verbose output",
    "  -c, --config <CONFIG>  Path to configuration file",
    "  -h, --help             Print help",
    "  -V, --version          Print version"]

end CommandLine

end Architecture
