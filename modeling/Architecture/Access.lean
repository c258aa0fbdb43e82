import Architecture.Text.Blank

/-!
Access levels of types.
-/

namespace Architecture

inductive AccessLevel where
  | «public»
  | internal
  | «protected»
  | «private»
deriving DecidableEq, Repr

namespace AccessLevel

def name : AccessLevel → String
  | .public => "Public"
  | .internal => "Internal"
  | .protected => "Protected"
  | .private => "Private"

def all : List AccessLevel := [.public, .internal, .protected, .private]

/-- The level with exactly this name. -/
def ofName? (text : String) : Option AccessLevel :=
  all.find? (·.name = text)

/-- The level with this name in any mix of ASCII capitals and small letters. -/
def parse? (text : String) : Option AccessLevel :=
  all.find? (Text.sameIgnoringCase ·.name text)

def unknownMessage (text : String) : String :=
  s!"unknown access level `{text}`, expected: public, internal, protected, private"

end AccessLevel

end Architecture
