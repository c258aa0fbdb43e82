import Architecture.Descriptor
import Architecture.Source.Notation

/-!
Attributes of source text as markers.
-/

namespace Architecture.Source

namespace AttributeInput

/-- The text of what follows the name. -/
def text : AttributeInput → String
  | nothing => ""
  | value text _ => text
  | list inside => Token.textOf inside

end AttributeInput

variable [SourceNotation]

namespace Attribute

/-- The interfaces that an attribute derives, each by its last name. -/
def derived (a : Attribute) : List String :=
  match a.input with
  | .list inside => (SourceNotation.names? inside).getD []
  | _ => []

/-- The arguments of a marker: one for each derived interface, or one for the whole text. -/
def arguments (a : Attribute) : List (String × String) :=
  match a.input with
  | .nothing => []
  | .value text content => [("value", content.getD text)]
  | .list inside =>
    if a.path.isWord "derive" then a.derived.map fun name => (name, "")
    else [("args", Token.textOf inside)]

def marker (a : Attribute) : Architecture.Attribute where
  name := TypeName.parse (Text.join "." a.path.names)
  arguments := .ofList a.arguments

/-- Whether an attribute makes what it stands before part of the tests: its condition has the
letters of the word in it. -/
def isTestCondition (a : Attribute) : Bool :=
  a.path.isWord "cfg" && Text.contains "test".toList a.input.text.toList

end Attribute

/-- The markers among attributes, which are all but documentation. -/
def markers (attributes : List Attribute) : List Architecture.Attribute :=
  (attributes.filter fun a => !a.path.isWord "doc").map (·.marker)

/-- Whether attributes derive an interface. -/
def derives (attributes : List Attribute) (name : String) : Bool :=
  attributes.any fun a => a.path.isWord "derive" && a.derived.contains name

/-- Whether attributes make what they stand before part of the tests. -/
def isTestOnly (attributes : List Attribute) : Bool := attributes.any (·.isTestCondition)

end Architecture.Source
