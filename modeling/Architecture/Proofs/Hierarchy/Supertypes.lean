import Architecture.Hierarchy
import Architecture.Proofs.Index
import Architecture.Proofs.Name
import Architecture.Proofs.Worklist
import Mathlib.Data.Set.Defs
import Mathlib.Order.Bounds.Basic

/-!
# The supertypes of a type

The walk through the supertypes is a search over references that are marked by
their names. Where no two loaded types share a name, all references of one name mean
the same type, and so the walk finds the least set of names that is closed under
going on to direct supertypes. Assignability is then a preorder.
-/

namespace Architecture.TypeIndex

open Worklist

/-- The direct supertypes of what a reference means. -/
def parents (ix : TypeIndex) (ref : NamedRef) : List NamedRef :=
  (ix.resolve? ref).elim [] (·.supertypeRefs)

/-- A reference that is met on the way up from a type. -/
def Meets (ix : TypeIndex) (t : TypeDescriptor) (ref : NamedRef) : Prop :=
  Reachable ix.parents t.supertypeRefs ref

/-- The walk through the supertypes of a type, up to its end. -/
def Walk (ix : TypeIndex) (t : TypeDescriptor) (names : List TypeName) : Prop :=
  Search NamedRef.name ix.parents (fun _ => True) [] t.supertypeRefs names

theorem mem_parents {ix : TypeIndex} {ref parent : NamedRef} :
    parent ∈ ix.parents ref ↔ ∃ t, ix.resolve? ref = some t ∧ parent ∈ t.supertypeRefs := by
  cases found : ix.resolve? ref <;> simp [parents, found]

theorem supertypesFrom_cons (ix : TypeIndex) (marked : List TypeName) (ref : NamedRef)
    (queue : List NamedRef) :
    ix.supertypesFrom marked (ref :: queue) =
      if ref.name ∈ marked then ix.supertypesFrom marked queue
      else ix.supertypesFrom (ref.name :: marked) (queue ++ ix.parents ref) := by
  rw [supertypesFrom]
  split
  · rfl
  · split
    next t found => rw [parents, found, Option.elim_some]
    next missing => rw [parents, missing, Option.elim_none, List.append_nil]

theorem supertypesFrom_search (ix : TypeIndex) (marked : List TypeName) (queue : List NamedRef) :
    Search NamedRef.name ix.parents (fun _ => True) marked queue
      (ix.supertypesFrom marked queue) := by
  fun_induction supertypesFrom ix marked queue with
  | case1 marked => exact .done
  | case2 marked next queue known inductionHypothesis => exact .skip known inductionHypothesis
  | case3 marked next queue unknown t found inductionHypothesis =>
      refine .follow unknown trivial ?_
      rwa [parents, found]
  | case4 marked next queue unknown missing inductionHypothesis =>
      refine .follow unknown trivial ?_
      rwa [parents, missing, Option.elim_none, List.append_nil]

/-- The walk ends, and the supertypes are what it has marked by then. -/
theorem exists_walk (ix : TypeIndex) (t : TypeDescriptor) :
    ∃ names, ix.Walk t names ∧ ix.supertypes t = sortedDistinct names :=
  ⟨_, ix.supertypesFrom_search [] t.supertypeRefs, rfl⟩

section Walks

variable {ix : TypeIndex} {t : TypeDescriptor} {n : TypeName}

theorem name_mem_supertypes {ref : NamedRef} (direct : ref ∈ t.supertypeRefs) :
    ref.name ∈ ix.supertypes t := by
  rcases exists_walk ix t with ⟨names, walk, same⟩
  rw [same, mem_sortedDistinct]
  exact walk.mark_mem ref direct

/-- Every supertype is met, and the first reference to it is followed up. -/
theorem exists_followed_of_mem_supertypes (member : n ∈ ix.supertypes t) :
    ∃ ref, ix.Meets t ref ∧ ref.name = n ∧
      ∀ parent ∈ ix.parents ref, parent.name ∈ ix.supertypes t := by
  rcases exists_walk ix t with ⟨names, walk, same⟩
  rw [same, mem_sortedDistinct] at member
  rcases walk.exists_followed member with ⟨ref, met, sameName, _, followed⟩
  refine ⟨ref, met, sameName, ?_⟩
  intro parent parentMember
  rw [same, mem_sortedDistinct]
  exact followed parent parentMember

/-- References of one name that are met from a type lead on to the same names. -/
def Unambiguous (ix : TypeIndex) (t : TypeDescriptor) : Prop :=
  ∀ ref other, ix.Meets t ref → ix.Meets t other → ref.name = other.name →
    (ix.parents ref).map (·.name) ⊆ (ix.parents other).map (·.name)

theorem mem_supertypes_iff (unambiguous : ix.Unambiguous t) :
    n ∈ ix.supertypes t ↔ ∃ ref, ix.Meets t ref ∧ ref.name = n := by
  rcases exists_walk ix t with ⟨names, walk, same⟩
  rw [same, mem_sortedDistinct]
  exact walk.mem_iff unambiguous n

end Walks

/-- A set of names that has the direct supertypes of a type and, with every name of a
loaded type, the direct supertypes of that. -/
structure Closed (ix : TypeIndex) (t : TypeDescriptor) (names : Set TypeName) : Prop where
  direct : ∀ ref ∈ t.supertypeRefs, ref.name ∈ names
  onward : ∀ u ∈ ix.types, u.name ∈ names → ∀ ref ∈ u.supertypeRefs, ref.name ∈ names

/-- Loaded types of one name are one type. -/
def DistinctNames (ix : TypeIndex) : Prop :=
  ∀ t ∈ ix.types, ∀ u ∈ ix.types, t.name = u.name → t = u

section Modules

variable {modules : List ModuleDescriptor} {t u : TypeDescriptor} {ref : NamedRef}

theorem Closed.name_mem_of_meets {names : Set TypeName}
    (closed : (ofModules modules).Closed t names) (met : (ofModules modules).Meets t ref) :
    ref.name ∈ names := by
  induction met with
  | queued member => exact closed.direct _ member
  | step _ member inductionHypothesis =>
      rcases mem_parents.mp member with ⟨u, found, direct⟩
      refine closed.onward u (mem_types_of_resolve? found) ?_ _ direct
      rwa [(mem_of_resolve? found).1]

theorem resolve?_of_distinctNames (distinct : (ofModules modules).DistinctNames)
    (member : u ∈ (ofModules modules).types) (sameName : u.name = ref.name) :
    (ofModules modules).resolve? ref = some u := by
  rcases Option.isSome_iff_exists.mp (resolve?_isSome member sameName) with ⟨v, found⟩
  have vName := (mem_of_resolve? found).1
  rw [found, distinct v (mem_types_of_resolve? found) u member (vName.trans sameName.symm)]

theorem unambiguous_of_distinctNames (distinct : (ofModules modules).DistinctNames) :
    (ofModules modules).Unambiguous t := by
  intro ref other _ _ sameName name member
  rcases List.mem_map.mp member with ⟨parent, parentMember, rfl⟩
  rcases mem_parents.mp parentMember with ⟨u, found, direct⟩
  have otherName : u.name = other.name := (mem_of_resolve? found).1.trans sameName
  have otherFound := resolve?_of_distinctNames distinct (mem_types_of_resolve? found) otherName
  exact List.mem_map_of_mem (mem_parents.mpr ⟨u, otherFound, direct⟩)

theorem closed_supertypes (distinct : (ofModules modules).DistinctNames) :
    (ofModules modules).Closed t {n | n ∈ (ofModules modules).supertypes t} where
  direct := fun ref member => name_mem_supertypes member
  onward := by
    intro u uMember named ref direct
    have unambiguous := unambiguous_of_distinctNames (t := t) distinct
    rcases (mem_supertypes_iff unambiguous).mp named with ⟨other, met, sameName⟩
    have found := resolve?_of_distinctNames distinct uMember sameName.symm
    have parent : ref ∈ (ofModules modules).parents other := mem_parents.mpr ⟨u, found, direct⟩
    exact (mem_supertypes_iff unambiguous).mpr ⟨ref, .step met parent, rfl⟩

theorem supertypes_subset_of_closed {names : Set TypeName}
    (closed : (ofModules modules).Closed t names) :
    ∀ n ∈ (ofModules modules).supertypes t, n ∈ names := by
  intro n member
  rcases exists_followed_of_mem_supertypes member with ⟨ref, met, rfl, _⟩
  exact closed.name_mem_of_meets met

theorem isAssignable_iff {ix : TypeIndex} {n : TypeName} :
    ix.isAssignable t n = true ↔ t.name = n ∨ n ∈ ix.supertypes t := by
  simp [isAssignable]

theorem isAssignable_trans (distinct : (ofModules modules).DistinctNames)
    (tMember : t ∈ (ofModules modules).types) (uMember : u ∈ (ofModules modules).types)
    (lower : (ofModules modules).isAssignable t u.name) {n : TypeName}
    (upper : (ofModules modules).isAssignable u n) : (ofModules modules).isAssignable t n := by
  rcases isAssignable_iff.mp lower with sameName | below
  · rwa [distinct t tMember u uMember sameName]
  · have closed := closed_supertypes (t := t) distinct
    rcases isAssignable_iff.mp upper with rfl | above
    · exact lower
    · -- The supertypes of `t` are closed from `u` on, so they have all supertypes of `u`.
      have also : (ofModules modules).Closed u {n | n ∈ (ofModules modules).supertypes t} :=
        ⟨closed.onward u uMember below, closed.onward⟩
      exact isAssignable_iff.mpr (.inr (supertypes_subset_of_closed also n above))

end Modules

/-- The walk through the supertypes of any type ends with the least set of names that
is closed under going on to direct supertypes, if no two loaded types share a name.
Assignability is then reflexive and transitive. -/
theorem supertypes_isLeast (modules : List ModuleDescriptor)
    (distinct : (ofModules modules).DistinctNames) :
    let ix := ofModules modules
    (∀ t, (∃ names, ix.Walk t names ∧ ix.supertypes t = sortedDistinct names) ∧
        IsLeast {names | ix.Closed t names} {n | n ∈ ix.supertypes t}) ∧
      (∀ t ∈ ix.types, ix.isAssignable t t.name) ∧
      ∀ t ∈ ix.types, ∀ u ∈ ix.types, ∀ n,
        ix.isAssignable t u.name → ix.isAssignable u n → ix.isAssignable t n := by
  intro ix
  refine ⟨?_, ?_, ?_⟩
  · intro t
    refine ⟨exists_walk ix t, closed_supertypes distinct, ?_⟩
    intro names closed n member
    exact supertypes_subset_of_closed closed n member
  · exact fun t _ => isAssignable_iff.mpr (.inl rfl)
  · intro t tMember u uMember n lower upper
    exact isAssignable_trans distinct tMember uMember lower upper

/-- Two interfaces that extend each other, one of them also an instance of a generic
interface that derives from a type nobody has loaded. -/
def cyclicModule : ModuleDescriptor where
  name := "App"
  types := [
    { name := ⟨some "App", "Source"⟩, kind := .interface
      interfaces := [.named ⟨some "App", "Sink"⟩ "" []] },
    { name := ⟨some "App", "Sink"⟩, kind := .interface
      interfaces := [.named ⟨some "App", "Source"⟩ "" [],
        .named ⟨some "App", "Handler"⟩ "" [.named ⟨some "App", "Source"⟩ "" []]] },
    { name := ⟨some "App", "Handler"⟩, kind := .interface, genericParameters := ["T"]
      base := some (.named ⟨some "Lib", "Root"⟩ "Lib" []) }]

theorem supertypes_isLeast_cyclicModule :
    let ix := ofModules [cyclicModule]
    ix.DistinctNames ∧
      (∀ t, (∃ names, ix.Walk t names ∧ ix.supertypes t = sortedDistinct names) ∧
        IsLeast {names | ix.Closed t names} {n | n ∈ ix.supertypes t}) ∧
      (∀ t ∈ ix.types, ix.isAssignable t t.name) ∧
      ∀ t ∈ ix.types, ∀ u ∈ ix.types, ∀ n,
        ix.isAssignable t u.name → ix.isAssignable u n → ix.isAssignable t n := by
  have distinct : (ofModules [cyclicModule]).DistinctNames := by
    unfold DistinctNames
    decide +kernel
  exact ⟨distinct, supertypes_isLeast [cyclicModule] distinct⟩

end Architecture.TypeIndex
