import Architecture.Data.Value

/-!
Documents of tables, built up by headers and assignments.

A table may be opened by one header only. A table that arose on the way to another may still be
opened, unless dotted keys made it: such a table is closed to headers of its own. What an
assignment gave a value is closed to everything.
-/

namespace Architecture.Data.Toml

inductive Entry where
  | value (v : Value)
  /-- A table: whether it only arose on the way to another, and whether dotted keys made it. -/
  | table (implicit dotted : Bool) (fields : List (String × Entry))
  /-- Tables in a row, the latest last. -/
  | tables (elements : List (List (String × Entry)))

abbrev Fields := List (String × Entry)

namespace Fields

/-- Replaces the entry of a key or adds one at the end. -/
def put (key : String) (entry : Entry) : Fields → Fields
  | [] => [(key, entry)]
  | (k, e) :: rest => if k = key then (key, entry) :: rest else (k, e) :: put key entry rest

/-- Changes the last of several tables. -/
def changeLast (f : Fields → Option Fields) : List Fields → Option (List Fields)
  | [] => none
  | [last] => (f last).map ([·])
  | first :: rest => (changeLast f rest).map (first :: ·)

/-- Changes the table at the end of a path of headers. -/
def descend (f : Fields → Option Fields) : List String → Fields → Option Fields
  | [], fields => f fields
  | key :: path, fields =>
    match fields.lookup key with
    | none => do
      let inner ← descend f path []
      return put key (.table true false inner) fields
    | some (.value _) => none
    | some (.table implicit dotted inner) => do
      let inner ← descend f path inner
      return put key (.table implicit dotted inner) fields
    | some (.tables elements) => do
      let elements ← changeLast (descend f path) elements
      return put key (.tables elements) fields

def openHere (key : String) (fields : Fields) : Option Fields :=
  match fields.lookup key with
  | none => some (put key (.table false false []) fields)
  | some (.table true false inner) => some (put key (.table false false inner) fields)
  | some _ => none

def appendHere (key : String) (fields : Fields) : Option Fields :=
  match fields.lookup key with
  | none => some (put key (.tables [[]]) fields)
  | some (.tables elements) => some (put key (.tables (elements ++ [[]])) fields)
  | some _ => none

/-- A value for a key that has none. -/
def assignHere (key : String) (v : Value) (fields : Fields) : Option Fields :=
  match fields.lookup key with
  | none => some (put key (.value v) fields)
  | some _ => none

/-- A value for a dotted key. The tables on its way are those that dotted keys made. -/
def assign (v : Value) : List String → Fields → Option Fields
  | [], _ => none
  | [key], fields => assignHere key v fields
  | key :: path, fields =>
    match fields.lookup key with
    | none => do
      let inner ← assign v path []
      return put key (.table true true inner) fields
    | some (.table true dotted inner) =>
      if !dotted && path.length = 1 then none
      else do
        let inner ← assign v path inner
        return put key (.table true dotted inner) fields
    | some _ => none

end Fields

mutual

def Entry.toValue : Entry → Value
  | .value v => v
  | .table _ _ fields => .record (fieldValues fields)
  | .tables elements => .list (tableValues elements)

def fieldValues : List (String × Entry) → List (String × Value)
  | [] => []
  | (k, e) :: rest => (k, e.toValue) :: fieldValues rest

def tableValues : List (List (String × Entry)) → List Value
  | [] => []
  | fields :: rest => .record (fieldValues fields) :: tableValues rest

end

/-- A document under construction: its tables and the path of the table that is open. -/
structure Document where
  root : Fields := []
  current : List String := []

namespace Document

def openTable (d : Document) (path : List String) : Option Document := do
  let key ← path.getLast?
  let root ← Fields.descend (Fields.openHere key) path.dropLast d.root
  return { root, current := path }

def appendTable (d : Document) (path : List String) : Option Document := do
  let key ← path.getLast?
  let root ← Fields.descend (Fields.appendHere key) path.dropLast d.root
  return { root, current := path }

def assign (d : Document) (path : List String) (v : Value) : Option Document := do
  let root ← Fields.descend (Fields.assign v path) d.current d.root
  return { d with root }

def toValue (d : Document) : Value := .record (fieldValues d.root)

end Document

end Architecture.Data.Toml
