import Architecture.Data.Value

/-!
Notations of data: which value a text stands for.
-/

namespace Architecture

open Data

class DataNotations where
  toml? : String → Option Value
  json? : String → Option Value

/-- The name of the only field of the record that a date or time is read as. -/
def Data.momentField : String := "$__toml_private_datetime"

end Architecture
