import Architecture.Data.Json
import Architecture.Data.Toml
import Architecture.Files.Glob
import Architecture.Files.Ignore
import Architecture.Notations
import Architecture.Pattern.Reader
import Architecture.Source.Parse

/-!
The notations that the program is run with.

Each of them is laid down elsewhere, and all that is said of the program holds for any in its place,
but for what is said of some fixed input.
-/

namespace Architecture.Standard

scoped instance notations : Notations where
  occurrence? text := (Pattern.read? text).map fun node other => node.isMatch other.toList
  toml? := Data.Toml.parse?
  json? := Data.Json.parse?
  items? := Source.parseFile?
  names? := Source.parseNames?
  glob text :=
    match Files.Glob.parse text with
    | .ok glob => .ok glob.holds
    | .error problem => .error problem.message
  ignored? text := Files.Ignore.verdict? (Files.Ignore.rules text)

end Architecture.Standard
