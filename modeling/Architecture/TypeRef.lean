import Architecture.Name

/-!
References from one type to another.

A reference is a placeholder, bound by the generic parameters around it, or a named type with its
arguments. `keys` lists every named type that occurs in a reference, outermost first.
-/

namespace Architecture

inductive TypeRef where
  | generic (parameter : String)
  | named (name : TypeName) (owner : String) (args : List TypeRef)
deriving Repr, Inhabited

/-- A reference that is known to be a named type. -/
structure NamedRef where
  name : TypeName
  owner : String := ""
  args : List TypeRef := []
deriving Repr

namespace TypeRef

mutual

def decEq : (a b : TypeRef) → Decidable (a = b)
  | .generic p, .generic q =>
    if h : p = q then isTrue (h ▸ rfl) else isFalse fun e => h (TypeRef.generic.inj e)
  | .generic _, .named _ _ _ => isFalse (by simp)
  | .named _ _ _, .generic _ => isFalse (by simp)
  | .named n o xs, .named m p ys =>
    if hn : n = m then
      if ho : o = p then
        match decEqAll xs ys with
        | isTrue h => isTrue (by simp [hn, ho, h])
        | isFalse h => isFalse fun e => h (TypeRef.named.inj e).2.2
      else isFalse fun e => ho (TypeRef.named.inj e).2.1
    else isFalse fun e => hn (TypeRef.named.inj e).1

def decEqAll : (xs ys : List TypeRef) → Decidable (xs = ys)
  | [], [] => isTrue rfl
  | [], _ :: _ => isFalse (by simp)
  | _ :: _, [] => isFalse (by simp)
  | x :: xs, y :: ys =>
    match decEq x y with
    | isTrue h => match decEqAll xs ys with
      | isTrue hs => isTrue (by rw [h, hs])
      | isFalse hs => isFalse fun e => hs (List.cons.inj e).2
    | isFalse h => isFalse fun e => h (List.cons.inj e).1

end

instance : DecidableEq TypeRef := decEq

def asNamed : TypeRef → Option NamedRef
  | .generic _ => none
  | .named name owner args => some ⟨name, owner, args⟩

/-- The generic definition that a named reference instantiates. -/
def definition (r : TypeRef) : Option TypeName :=
  r.asNamed.map (·.name)

def isGeneric : TypeRef → Bool
  | .generic _ => true
  | .named _ _ _ => false

/-- Other arguments for a named reference; a placeholder takes none. -/
def withArgs (args : List TypeRef) : TypeRef → TypeRef
  | .generic p => .generic p
  | .named name owner _ => .named name owner args

mutual

def keys : TypeRef → List TypeKey
  | .generic _ => []
  | .named name owner args => ⟨name, owner⟩ :: keysAll args

def keysAll : List TypeRef → List TypeKey
  | [] => []
  | r :: rest => keys r ++ keysAll rest

end

theorem keysAll_eq_flatMap (rs : List TypeRef) : keysAll rs = rs.flatMap keys := by
  induction rs with
  | nil => rfl
  | cons r rest inductionHypothesis => simp [keysAll, inductionHypothesis]

mutual

/-- Owner `home` for every named type in the reference that has none. -/
def fillOwner (home : String) : TypeRef → TypeRef
  | .generic p => .generic p
  | .named name owner args =>
    .named name (if owner = "" then home else owner) (fillOwnerAll home args)

def fillOwnerAll (home : String) : List TypeRef → List TypeRef
  | [] => []
  | r :: rest => fillOwner home r :: fillOwnerAll home rest

end

theorem fillOwnerAll_eq_map (home : String) (rs : List TypeRef) :
    fillOwnerAll home rs = rs.map (fillOwner home) := by
  induction rs with
  | nil => rfl
  | cons r rest inductionHypothesis => simp [fillOwnerAll, inductionHypothesis]

mutual

def display : TypeRef → String
  | .generic p => p
  | .named name _ [] => name.full
  | .named name _ (arg :: args) =>
    name.full ++ "<" ++ Text.join ", " (display arg :: displayAll args) ++ ">"

def displayAll : List TypeRef → List String
  | [] => []
  | r :: rest => display r :: displayAll rest

end

end TypeRef

namespace NamedRef

instance : DecidableEq NamedRef := fun a b =>
  decidable_of_iff (a.name = b.name ∧ a.owner = b.owner ∧ a.args = b.args) <| by
    cases a
    cases b
    simp

def key (n : NamedRef) : TypeKey := ⟨n.name, n.owner⟩

def toRef (n : NamedRef) : TypeRef := .named n.name n.owner n.args

end NamedRef

end Architecture
