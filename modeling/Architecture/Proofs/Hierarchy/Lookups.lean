import Architecture.Proofs.Hierarchy.Supertypes
import Architecture.Proofs.References
import Architecture.Signature

/-!
# Indexes that agree on some names

Walks through the hierarchy look up names that occur in the declarations they have met,
and nothing else. Two indexes that agree on some names, and have only types in which no
other names occur, therefore lead every walk from such a type the same way. What else
one of them has loaded is never seen.
-/

namespace Architecture

namespace TypeDescriptor

/-- The names that occur in the declaration of a type: its own, that of the type around
it, and those in its base, its interfaces and the signatures of its members. -/
def occurring (t : TypeDescriptor) : List TypeName :=
  t.name :: t.enclosing.toList ++
    ((t.base.toList ++ t.interfaces ++ t.members.flatMap (·.signature)).flatMap TypeRef.keys).map
      (·.name)

/-- No other names occur in the declaration. -/
def Within (known : TypeName → Prop) (t : TypeDescriptor) : Prop :=
  ∀ n ∈ t.occurring, known n

theorem within_true (t : TypeDescriptor) : t.Within fun _ => True := fun _ _ => trivial

namespace Within

variable {known : TypeName → Prop} {t : TypeDescriptor}

theorem of_mentions {r : TypeRef} {k : TypeKey} (within : t.Within known)
    (member : r ∈ t.base.toList ++ t.interfaces ++ t.members.flatMap (·.signature))
    (mentions : r.Mentions k) : known k.name := by
  apply within
  apply List.mem_append_right
  apply List.mem_map_of_mem
  exact List.mem_flatMap.mpr ⟨r, member, (TypeRef.mem_keys_iff r).mpr mentions⟩

theorem of_enclosing {n : TypeName} (within : t.Within known) (enclosed : t.enclosing = some n) :
    known n := by
  apply within
  simp [occurring, enclosed]

theorem of_supertype {ref : NamedRef} (within : t.Within known)
    (direct : ref ∈ t.supertypeRefs) : known ref.name := by
  rcases List.mem_filterMap.mp direct with ⟨r, member, named⟩
  cases r with
  | generic parameter => cases named
  | named name owner args =>
      cases named
      exact within.of_mentions (List.mem_append_left _ member) (.head (k := ⟨name, owner⟩))

theorem of_refersTo {roots : List String} {k : TypeKey} (within : t.Within known)
    (refers : t.RefersTo roots k) : known k.name := by
  rcases refers.2 with ⟨r, declares, mentions⟩
  refine within.of_mentions ?_ mentions
  simp only [List.mem_append, Option.mem_toList, List.mem_flatMap, Member.signature]
  cases declares with
  | base isBase _ => exact .inl (.inl isBase)
  | interface isInterface => exact .inl (.inr isInterface)
  | value member _ value => exact .inr ⟨_, member, .inr value⟩
  | constructorParameter member _ parameter => exact .inr ⟨_, member, .inl parameter⟩
  | methodParameter member _ parameter => exact .inr ⟨_, member, .inl parameter⟩
  | methodResult member _ result => exact .inr ⟨_, member, .inr result⟩

end Within

end TypeDescriptor

namespace TypeIndex

/-- Lookups of known names give the same in both indexes, and lead to known names only. -/
structure AgreesOn (known : TypeName → Prop) (ix other : TypeIndex) : Prop where
  byKey : ∀ k, known k.name → ix.get? k = other.get? k
  byName : ∀ n, known n → ix.find? n = other.find? n
  keyWithin : ∀ k t, ix.get? k = some t → t.Within known
  nameWithin : ∀ n t, ix.find? n = some t → t.Within known

theorem map_loaded (ix : TypeIndex) (refs : List NamedRef) :
    (ix.loaded refs).map (·.1) = refs.filterMap ix.resolve? := by
  rw [loaded, List.map_filterMap]
  refine List.filterMap_congr ?_
  intro ref _
  split
  next t found => simp [found]
  next missing => simp [missing]

theorem baseChainFrom_eq (ix : TypeIndex) (marked : List TypeKey) (t : TypeDescriptor) :
    ix.baseChainFrom marked t = t :: (ix.base? t).elim [] fun b =>
      if b.key ∈ t.key :: marked then [] else ix.baseChainFrom (t.key :: marked) b := by
  rw [baseChainFrom]
  split
  next b found => simp [found]
  next missing => simp [missing]

theorem enclosingChainFrom_eq (ix : TypeIndex) (marked : List TypeName) (t : TypeDescriptor) :
    ix.enclosingChainFrom marked t = t :: (t.enclosing.bind ix.find?).elim [] fun e =>
      if e.name ∈ t.name :: marked then [] else ix.enclosingChainFrom (t.name :: marked) e := by
  rw [enclosingChainFrom]
  split
  next e found => simp [found]
  next missing => simp [missing]

namespace AgreesOn

variable {known : TypeName → Prop} {ix other : TypeIndex} {t : TypeDescriptor}

theorem resolve?_eq (agrees : ix.AgreesOn known other) {ref : NamedRef} (isKnown : known ref.name) :
    ix.resolve? ref = other.resolve? ref := by
  rw [resolve?, resolve?, agrees.byKey ref.key isKnown, agrees.byName ref.name isKnown]

theorem within_of_resolve? (agrees : ix.AgreesOn known other) {ref : NamedRef}
    (found : ix.resolve? ref = some t) : t.Within known := by
  rcases resolve?_eq_some_iff.mp found with byKey | ⟨_, byName⟩
  · exact agrees.keyWithin _ t byKey
  · exact agrees.nameWithin _ t byName

theorem isInterface_eq (agrees : ix.AgreesOn known other) {n : TypeName} (isKnown : known n) :
    ix.isInterface n = other.isInterface n := by
  rw [isInterface, isInterface, agrees.byName n isKnown]

theorem supertypesFrom_eq (agrees : ix.AgreesOn known other) (marked : List TypeName)
    (queue : List NamedRef) (queued : ∀ ref ∈ queue, known ref.name) :
    ix.supertypesFrom marked queue = other.supertypesFrom marked queue := by
  fun_induction supertypesFrom ix marked queue with
  | case1 marked => rw [supertypesFrom]
  | case2 marked next queue marks inductionHypothesis =>
      rw [supertypesFrom_cons, if_pos marks, inductionHypothesis (List.forall_mem_cons.mp queued).2]
  | case3 marked next queue unmarked t found inductionHypothesis =>
      rcases List.forall_mem_cons.mp queued with ⟨first, rest⟩
      rw [supertypesFrom_cons, if_neg unmarked, parents, ← agrees.resolve?_eq first, found,
        Option.elim_some]
      apply inductionHypothesis
      refine List.forall_mem_append.mpr ⟨rest, ?_⟩
      exact fun ref => (agrees.within_of_resolve? found).of_supertype
  | case4 marked next queue unmarked missing inductionHypothesis =>
      rcases List.forall_mem_cons.mp queued with ⟨first, rest⟩
      rw [supertypesFrom_cons, if_neg unmarked, parents, ← agrees.resolve?_eq first, missing,
        Option.elim_none, List.append_nil, inductionHypothesis rest]

theorem isAssignable_eq (agrees : ix.AgreesOn known other) (within : t.Within known)
    (target : TypeName) : ix.isAssignable t target = other.isAssignable t target := by
  rw [isAssignable, isAssignable, supertypes, supertypes,
    agrees.supertypesFrom_eq [] t.supertypeRefs fun ref => within.of_supertype]

theorem isKeyAssignable_eq (agrees : ix.AgreesOn known other) {key : TypeKey}
    (isKnown : known key.name) (target : TypeName) :
    ix.isKeyAssignable key target = other.isKeyAssignable key target := by
  rw [isKeyAssignable, isKeyAssignable, ← agrees.byKey key isKnown]
  cases found : ix.get? key with
  | none => rfl
  | some t => exact agrees.isAssignable_eq (agrees.keyWithin key t found) target

theorem filterMap_resolve?_eq (agrees : ix.AgreesOn known other) (within : t.Within known) :
    t.supertypeRefs.filterMap ix.resolve? = t.supertypeRefs.filterMap other.resolve? :=
  List.filterMap_congr fun _ member => agrees.resolve?_eq (within.of_supertype member)

theorem within_of_loaded (agrees : ix.AgreesOn known other) {refs : List NamedRef}
    {u : ix.Loaded} (member : u ∈ ix.loaded refs) : u.1.Within known := by
  have typeMember : u.1 ∈ (ix.loaded refs).map (·.1) := List.mem_map_of_mem member
  rw [map_loaded] at typeMember
  rcases List.mem_filterMap.mp typeMember with ⟨ref, _, found⟩
  exact agrees.within_of_resolve? found

/-- The search goes on alike from queues of the same types. -/
theorem instantiationFrom_eq (agrees : ix.AgreesOn known other) (definition : TypeName)
    (marked : List TypeKey) (queue : List ix.Loaded) (queueToo : List other.Loaded)
    (sameTypes : queue.map (·.1) = queueToo.map (·.1)) (within : ∀ u ∈ queue, u.1.Within known) :
    ix.instantiationFrom definition marked queue =
      other.instantiationFrom definition marked queueToo := by
  fun_induction instantiationFrom ix definition marked queue generalizing queueToo with
  | case1 marked =>
      cases queueToo with
      | nil => rw [instantiationFrom]
      | cons => cases sameTypes
  | case2 marked t isLoaded queue marks inductionHypothesis =>
      rcases queueToo with - | ⟨⟨u, uLoaded⟩, queueToo⟩
      · cases sameTypes
      · rcases List.cons_eq_cons.mp sameTypes with ⟨rfl, rest⟩
        rw [instantiationFrom, dif_pos marks]
        exact inductionHypothesis queueToo rest (List.forall_mem_cons.mp within).2
  | case3 marked t isLoaded queue unmarked first here =>
      rcases queueToo with - | ⟨⟨u, uLoaded⟩, queueToo⟩
      · cases sameTypes
      · rcases List.cons_eq_cons.mp sameTypes with ⟨rfl, rest⟩
        rw [instantiationFrom, dif_neg unmarked, here]
  | case4 marked t isLoaded queue unmarked missing inductionHypothesis =>
      rcases queueToo with - | ⟨⟨u, uLoaded⟩, queueToo⟩
      · cases sameTypes
      · rcases List.cons_eq_cons.mp sameTypes with ⟨rfl, rest⟩
        rcases List.forall_mem_cons.mp within with ⟨first, others⟩
        rw [instantiationFrom, dif_neg unmarked, missing]
        apply inductionHypothesis
        · rw [List.map_append, List.map_append, rest, map_loaded, map_loaded,
            agrees.filterMap_resolve?_eq first]
        · exact List.forall_mem_append.mpr ⟨others, fun v => agrees.within_of_loaded⟩

theorem instantiation?_eq (agrees : ix.AgreesOn known other) (within : t.Within known)
    (definition : TypeName) :
    ix.instantiation? t definition = other.instantiation? t definition := by
  rw [instantiation?, instantiation?]
  split
  next => rfl
  next =>
    apply agrees.instantiationFrom_eq
    · rw [map_loaded, map_loaded, agrees.filterMap_resolve?_eq within]
    · exact fun u => agrees.within_of_loaded

theorem base?_eq (agrees : ix.AgreesOn known other) (within : t.Within known) :
    ix.base? t = other.base? t := by
  apply Option.bind_congr
  intro ref named
  rcases Option.bind_eq_some_iff.mp named with ⟨r, isBase, isNamed⟩
  apply agrees.resolve?_eq
  apply within.of_supertype
  exact List.mem_filterMap.mpr ⟨r, List.mem_append_left _ (Option.mem_toList.mpr isBase), isNamed⟩

theorem within_of_base? (agrees : ix.AgreesOn known other) {b : TypeDescriptor}
    (found : ix.base? t = some b) : b.Within known := by
  rcases Option.bind_eq_some_iff.mp found with ⟨ref, _, resolved⟩
  exact agrees.within_of_resolve? resolved

theorem baseChain_eq (agrees : ix.AgreesOn known other) (within : t.Within known) :
    ix.baseChain t = other.baseChain t := by
  have goesOn : ∀ marked, ix.baseChainFrom marked t = other.baseChainFrom marked t := by
    intro marked
    fun_induction baseChainFrom ix marked t with
    | case1 marked t inductionHypothesis =>
        rw [baseChainFrom_eq other, ← agrees.base?_eq within]
        split
        next b found =>
          rw [found, Option.elim_some]
          split
          next => rfl
          next unmarked =>
            rw [inductionHypothesis b found unmarked (agrees.within_of_base? found)]
        next missing => rw [missing, Option.elim_none]
  exact goesOn []

theorem enclosing_bind_find?_eq (agrees : ix.AgreesOn known other) (within : t.Within known) :
    t.enclosing.bind ix.find? = t.enclosing.bind other.find? :=
  Option.bind_congr fun n enclosed => agrees.byName n (within.of_enclosing enclosed)

theorem enclosingChain_eq (agrees : ix.AgreesOn known other) (within : t.Within known) :
    ix.enclosingChain t = other.enclosingChain t := by
  have goesOn : ∀ marked, ix.enclosingChainFrom marked t = other.enclosingChainFrom marked t := by
    intro marked
    fun_induction enclosingChainFrom ix marked t with
    | case1 marked t inductionHypothesis =>
        rw [enclosingChainFrom_eq other, ← agrees.enclosing_bind_find?_eq within]
        split
        next e found =>
          rcases Option.bind_eq_some_iff.mp found with ⟨n, _, byName⟩
          rw [found, Option.elim_some]
          split
          next => rfl
          next unmarked =>
            rw [inductionHypothesis e found unmarked (agrees.nameWithin n e byName)]
        next missing => rw [missing, Option.elim_none]
  exact goesOn []

theorem implementingMethod?_eq (agrees : ix.AgreesOn known other) (within : t.Within known)
    (interface : TypeName) (m : Member) :
    ix.implementingMethod? t interface m = other.implementingMethod? t interface m := by
  rw [implementingMethod?, implementingMethod?, agrees.instantiation?_eq within,
    agrees.baseChain_eq within]

theorem inheritedMethod?_eq (agrees : ix.AgreesOn known other) (within : t.Within known)
    (m : Member) : ix.inheritedMethod? t m = other.inheritedMethod? t m := by
  rw [inheritedMethod?, inheritedMethod?, agrees.baseChain_eq within]

end AgreesOn

end TypeIndex

end Architecture
