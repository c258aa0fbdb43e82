import Architecture.Index

/-!
Walks through the type hierarchy.

Hierarchies may be cyclic and may mention types that are not loaded. Every walk marks what it has
visited and ends because the loaded types that are still unmarked become fewer.
-/

namespace Architecture.TypeIndex

variable (ix : TypeIndex)

/-- The loaded keys that are not marked. -/
def unmarked (marked : List TypeKey) : List TypeKey :=
  ix.byKey.keys.filter (· ∉ marked)

/-- The names of loaded types that are not marked. -/
def unmarkedNames (marked : List TypeName) : List TypeName :=
  (ix.byKey.keys.map (·.name)).filter (· ∉ marked)

variable {ix} in
theorem unmarked_lt {marked : List TypeKey} {k : TypeKey} (loaded : k ∈ ix.byKey)
    (new : k ∉ marked) : (ix.unmarked (k :: marked)).length < (ix.unmarked marked).length :=
  length_filter_not_mem_lt (Std.TreeMap.mem_keys.mpr loaded) new

variable {ix} in
theorem unmarkedNames_lt {marked : List TypeName} {t : TypeDescriptor} (loaded : t.key ∈ ix.byKey)
    (new : t.name ∉ marked) :
    (ix.unmarkedNames (t.name :: marked)).length < (ix.unmarkedNames marked).length :=
  length_filter_not_mem_lt
    (List.mem_map.mpr ⟨t.key, Std.TreeMap.mem_keys.mpr loaded, rfl⟩) new

set_option linter.unusedVariables false in
/-- The names met from a queue of references: each is marked when it is taken from the queue, and
the supertypes of a loaded type join the queue's end. -/
def supertypesFrom (marked : List TypeName) : List NamedRef → List TypeName
  | [] => marked
  | next :: queue =>
    if visited : next.name ∈ marked then supertypesFrom marked queue
    else match found : ix.resolve? next with
      | some t => supertypesFrom (next.name :: marked) (queue ++ t.supertypeRefs)
      | none => supertypesFrom (next.name :: marked) queue
termination_by queue => ((ix.unmarkedNames marked).length, queue.length)
decreasing_by
  · exact Prod.Lex.right _ (by simp)
  · obtain ⟨sameName, loaded⟩ := mem_of_resolve? found
    rw [← sameName] at visited ⊢
    exact Prod.Lex.left _ _ (unmarkedNames_lt loaded visited)
  · rcases Nat.lt_or_eq_of_le (length_filter_not_mem_le
      (ix.byKey.keys.map (·.name)) marked next.name) with fewer | same
    · exact Prod.Lex.left _ _ fewer
    · unfold unmarkedNames
      rw [same]
      exact Prod.Lex.right _ (by simp)

/-- The names of all direct and indirect supertypes, in order. -/
def supertypes (t : TypeDescriptor) : List TypeName :=
  sortedDistinct (ix.supertypesFrom [] t.supertypeRefs)

def isAssignable (t : TypeDescriptor) (target : TypeName) : Bool :=
  t.name = target || (ix.supertypes t).contains target

/-- A key that is not loaded is assignable to its own name only. -/
def isKeyAssignable (key : TypeKey) (target : TypeName) : Bool :=
  match ix.get? key with
  | some t => ix.isAssignable t target
  | none => key.name = target

/-- The types other than interfaces that are assignable to a target. -/
def implementers (target : TypeName) : List TypeDescriptor :=
  ix.types.filter fun t => !t.isInterface && ix.isAssignable t target

/-- A loaded type, as it stands in a queue. -/
abbrev Loaded := { t : TypeDescriptor // t.key ∈ ix.byKey }

/-- The loaded types that references mean. -/
def loaded (refs : List NamedRef) : List ix.Loaded :=
  refs.filterMap fun ref =>
    match found : ix.resolve? ref with
    | some t => some ⟨t, (mem_of_resolve? found).2⟩
    | none => none

set_option linter.unusedVariables false in
def instantiationFrom (definition : TypeName) (marked : List TypeKey) :
    List ix.Loaded → Option NamedRef
  | [] => none
  | ⟨t, loaded⟩ :: queue =>
    if visited : t.key ∈ marked then instantiationFrom definition marked queue
    else match t.supertypeRefs.find? (·.name = definition) with
      | some ref => some ref
      | none =>
        instantiationFrom definition (t.key :: marked) (queue ++ ix.loaded t.supertypeRefs)
termination_by queue => ((ix.unmarked marked).length, queue.length)
decreasing_by
  · exact Prod.Lex.right _ (by simp)
  · exact Prod.Lex.left _ _ (unmarked_lt loaded visited)

/-- The nearest supertype reference with the given name, breadth first. -/
def instantiation? (t : TypeDescriptor) (definition : TypeName) : Option NamedRef :=
  match t.supertypeRefs.find? (·.name = definition) with
  | some ref => some ref
  | none => ix.instantiationFrom definition [t.key] (ix.loaded t.supertypeRefs)

set_option linter.unusedVariables false in
def baseChainFrom (marked : List TypeKey) (t : TypeDescriptor) : List TypeDescriptor :=
  t :: match found : ix.base? t with
    | some b =>
      if visited : b.key ∈ t.key :: marked then [] else baseChainFrom (t.key :: marked) b
    | none => []
termination_by (ix.unmarked (t.key :: marked)).length
decreasing_by exact unmarked_lt (mem_of_base? found) visited

/-- A type, its base type, the base type of that, and so on up to the first repeated key. -/
def baseChain (t : TypeDescriptor) : List TypeDescriptor :=
  ix.baseChainFrom [] t

set_option linter.unusedVariables false in
def enclosingChainFrom (marked : List TypeName) (t : TypeDescriptor) : List TypeDescriptor :=
  t :: match found : t.enclosing.bind ix.find? with
    | some e =>
      if visited : e.name ∈ t.name :: marked then [] else enclosingChainFrom (t.name :: marked) e
    | none => []
termination_by (ix.unmarkedNames (t.name :: marked)).length
decreasing_by
  obtain ⟨name, _, found⟩ := Option.bind_eq_some_iff.mp found
  exact unmarkedNames_lt (mem_of_find? found).2 visited

/-- A type, the type it is nested in, and so on up to the first repeated name. -/
def enclosingChain (t : TypeDescriptor) : List TypeDescriptor :=
  ix.enclosingChainFrom [] t

end Architecture.TypeIndex
