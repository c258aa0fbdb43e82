import Architecture.References

/-!
A cache of reference sets.

A call looks the key up, computes the set if it is not there, and stores it unless another call
has stored one meanwhile. An entry never changes while it is present.
-/

namespace Architecture

structure Cache (κ : Type) where
  entries : List (κ × ReferenceSet) := []

namespace Cache

variable {κ : Type} [DecidableEq κ]

def get? (c : Cache κ) (key : κ) : Option ReferenceSet := c.entries.lookup key

/-- Stores a set where there is none, and says which set is there then. -/
def insertIfAbsent (c : Cache κ) (key : κ) (set : ReferenceSet) : ReferenceSet × Cache κ :=
  match c.get? key with
  | some stored => (stored, c)
  | none => (set, { entries := c.entries ++ [(key, set)] })

def clear (_ : Cache κ) : Cache κ := {}

def size (c : Cache κ) : Nat := c.entries.length

def isEmpty (c : Cache κ) : Bool := c.entries.isEmpty

end Cache

/-- All that the references of a type depend on. -/
structure ReferenceQuery where
  type : TypeDescriptor
  roots : List String
deriving DecidableEq

namespace ReferenceQuery

def references (q : ReferenceQuery) : ReferenceSet := q.type.references q.roots

/-- The references of a type, from the cache or else computed and stored. A cache knows a query by
its key only. -/
def answerBy {κ : Type} [DecidableEq κ] (key : ReferenceQuery → κ) (q : ReferenceQuery) :
    StateM (Cache κ) ReferenceSet := do
  match (← get).get? (key q) with
  | some stored => return stored
  | none =>
    let (stored, cache) := (← get).insertIfAbsent (key q) q.references
    set cache
    return stored

end ReferenceQuery

/-- The key of a type with a fingerprint of all that its references depend on. -/
structure CacheKey where
  type : TypeKey
  fingerprint : UInt64
deriving DecidableEq

def ReferenceQuery.cacheKey (fingerprint : ReferenceQuery → UInt64) (q : ReferenceQuery) :
    CacheKey :=
  { type := q.type.key, fingerprint := fingerprint q }

/-- A cache in which every query is its own key, as if fingerprints never collided. -/
abbrev ReferenceCache := Cache ReferenceQuery

/-- Computations that read and fill a cache of references. -/
abbrev Cached := StateM ReferenceCache

def ReferenceQuery.answer (q : ReferenceQuery) : Cached ReferenceSet := q.answerBy id

end Architecture
