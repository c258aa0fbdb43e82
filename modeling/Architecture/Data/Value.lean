/-!
Values of data files, whatever the notation they are written in.

A record keeps its fields as written, repeated names included: what a repeated name means is for
the reader of the record to say.
-/

namespace Architecture.Data

inductive Value where
  | null
  | bool (b : Bool)
  | int (n : Int)
  /-- A number that is no integer, as written. -/
  | real (digits : String)
  | text (s : String)
  | list (items : List Value)
  | record (fields : List (String × Value))
deriving Repr, Inhabited

namespace Value

def text? : Value → Option String
  | .text s => some s
  | _ => none

def bool? : Value → Option Bool
  | .bool b => some b
  | _ => none

def list? : Value → Option (List Value)
  | .list items => some items
  | _ => none

def record? : Value → Option (List (String × Value))
  | .record fields => some fields
  | _ => none

/-- The list of whatever each item reads as. -/
def listOf? {α : Type} (item? : Value → Option α) (v : Value) : Option (List α) := do
  (← v.list?).mapM item?

/-- Nothing for null, else what the value reads as. -/
def optional? {α : Type} (inner? : Value → Option α) : Value → Option (Option α)
  | .null => some none
  | v => (inner? v).map some

/-- The fields with known names: a record has each at most once and may have others besides, and a
list gives them in order without their names. -/
def fields? (names : List String) : Value → Option (List (String × Value))
  | .record fields =>
    let known := fields.filter (names.contains ·.1)
    if (known.map (·.1)).Nodup then some known else none
  | .list items => if items.length ≤ names.length then some (names.zip items) else none
  | _ => none

/-- The last field of a name. -/
def get? (v : Value) (name : String) : Option Value :=
  v.record?.bind fun fields => fields.reverse.lookup name

end Value

/-- The field of a name, read; a missing one is a failure. -/
def required? {α : Type} (fields : List (String × Value)) (name : String)
    (inner? : Value → Option α) : Option α :=
  (fields.lookup name).bind inner?

/-- The field of a name, read, or else what stands for a missing one. -/
def defaulted? {α : Type} (fields : List (String × Value)) (name : String) (missing : α)
    (inner? : Value → Option α) : Option α :=
  match fields.lookup name with
  | some v => inner? v
  | none => some missing

end Architecture.Data
