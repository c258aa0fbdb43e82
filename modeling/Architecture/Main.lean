import Architecture.CommandLine.Run
import Architecture.Standard

/-!
The program: files of the machine, and a run of the command line.
-/

namespace Architecture

open Files

/-- Why the machine refuses a file. -/
def failureOf : IO.Error → Failure
  | .noFileOrDirectory .. => .missing
  | .permissionDenied .. => .denied
  | .userError _ => .notText
  | _ => .blocked

/-- Whether there is a directory, a file or nothing. -/
def kindOnDisk? (path : String) : IO (Option FileKind) := do
  let place := (← IO.currentDir) / path
  if ← place.isDir then return some .directory
  else if ← place.pathExists then return some .file
  else return none

instance : FileAccess IO where
  kind? := kindOnDisk?
  readText path := do
    if (← kindOnDisk? path) = some .directory then return .error .isDirectory
    try return .ok (← IO.FS.readFile path)
    catch e => return .error (failureOf e)
  names path := do
    try return (← ((← IO.currentDir) / path).readDir).toList.map (·.fileName)
    catch _ => return []
  writeText path text := do
    if (← kindOnDisk? path) = some .directory then return .error .isDirectory
    try
      IO.FS.writeFile path text
      return .ok ()
    catch e => return .error (failureOf e)
  current := return (← IO.currentDir).toString

end Architecture

open Architecture in
open scoped Architecture.Standard in
def main (arguments : List String) : IO UInt32 := do
  let surroundings : CommandLine.Surroundings :=
    { configDirectory := ← IO.getEnv "ARCHGRAPH_CONFIG_DIR", home := ← IO.getEnv "HOME" }
  let outcome ← CommandLine.run surroundings arguments
  IO.print outcome.output
  if let some error := outcome.error then IO.eprintln ("Error: " ++ error)
  return outcome.exit.toUInt32
