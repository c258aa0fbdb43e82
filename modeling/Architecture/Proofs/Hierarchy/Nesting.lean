import Architecture.Generated
import Architecture.Proofs.Index
import Mathlib.Data.List.Nodup
import Mathlib.Data.List.Perm.Subperm
import Mathlib.Logic.Relation

/-!
# The types around a type

Nested types name the type around them, and the names may lead in a circle. The walk from a
type outwards ends at the first name that has come before. A name stands for one loaded type,
so the walk from a type that its own name stands for has met, by then, every type that
nesting can lead to. A type is therefore generated exactly when one of these is synthetic.
-/

namespace Architecture

namespace TypeIndex

/-- The type says that it is nested in another, and this is loaded. -/
def NestedIn (ix : TypeIndex) (t e : TypeDescriptor) : Prop :=
  ∃ n, t.enclosing = some n ∧ ix.find? n = some e

section Nested

variable {ix : TypeIndex} {t e f : TypeDescriptor}

theorem nestedIn_iff : ix.NestedIn t e ↔ t.enclosing.bind ix.find? = some e :=
  Option.bind_eq_some_iff.symm

theorem NestedIn.unique (nested : ix.NestedIn t e) (also : ix.NestedIn t f) : e = f := by
  rw [nestedIn_iff] at nested also
  exact Option.some.inj (nested.symm.trans also)

theorem NestedIn.find?_name (nested : ix.NestedIn t e) : ix.find? e.name = some e := by
  rcases nested with ⟨n, _, found⟩
  rwa [(mem_of_find? found).1]

end Nested

/-- What a walk outwards has met when it ends: types around the first one, each name once and
none that was passed before, and with each type the name of the one around it. -/
structure IsOutwardWalk (ix : TypeIndex) (passed : List TypeName) (t : TypeDescriptor)
    (walk : List TypeDescriptor) : Prop where
  starts : t ∈ walk
  around : ∀ u ∈ walk, Relation.ReflTransGen ix.NestedIn t u
  distinct : (walk.map (·.name)).Nodup
  fresh : ∀ u ∈ walk, u.name ∉ passed
  onward : ∀ u ∈ walk, ∀ e, ix.NestedIn u e → e.name ∈ passed ∨ e.name ∈ walk.map (·.name)

namespace IsOutwardWalk

variable {ix : TypeIndex} {passed : List TypeName} {t : TypeDescriptor}
  {walk : List TypeDescriptor}

theorem singleton (fresh : t.name ∉ passed)
    (ends : ∀ e, ix.NestedIn t e → e.name ∈ t.name :: passed) : ix.IsOutwardWalk passed t [t] where
  starts := List.mem_singleton_self t
  around := List.forall_mem_singleton.mpr .refl
  distinct := List.nodup_singleton _
  fresh := List.forall_mem_singleton.mpr fresh
  onward := by
    refine List.forall_mem_singleton.mpr ?_
    intro e nested
    rcases List.mem_cons.mp (ends e nested) with own | known
    · exact .inr (List.mem_singleton.mpr own)
    · exact .inl known

theorem cons {e : TypeDescriptor} (fresh : t.name ∉ passed) (nested : ix.NestedIn t e)
    (rest : ix.IsOutwardWalk (t.name :: passed) e walk) :
    ix.IsOutwardWalk passed t (t :: walk) where
  starts := List.mem_cons_self
  around := by
    refine List.forall_mem_cons.mpr ⟨.refl, ?_⟩
    intro u member
    exact .head nested (rest.around u member)
  distinct := by
    refine List.nodup_cons.mpr ⟨?_, rest.distinct⟩
    intro repeated
    rcases List.mem_map.mp repeated with ⟨u, member, sameName⟩
    exact rest.fresh u member (sameName ▸ List.mem_cons_self)
  fresh := by
    refine List.forall_mem_cons.mpr ⟨fresh, ?_⟩
    intro u member known
    exact rest.fresh u member (List.mem_cons_of_mem _ known)
  onward := by
    refine List.forall_mem_cons.mpr ⟨?_, ?_⟩
    · intro f next
      rw [← nested.unique next]
      exact .inr (List.mem_cons_of_mem _ (List.mem_map_of_mem rest.starts))
    · intro u member f next
      rcases rest.onward u member f next with known | met
      · rcases List.mem_cons.mp known with own | known
        · exact .inr (own ▸ List.mem_cons_self)
        · exact .inl known
      · exact .inr (List.mem_cons_of_mem _ met)

end IsOutwardWalk

variable {ix : TypeIndex} {t u : TypeDescriptor}

theorem isOutwardWalk_enclosingChainFrom (passed : List TypeName) (fresh : t.name ∉ passed) :
    ix.IsOutwardWalk passed t (ix.enclosingChainFrom passed t) := by
  fun_induction enclosingChainFrom ix passed t with
  | case1 passed t inductionHypothesis =>
      split
      next e found =>
        have nested := nestedIn_iff.mpr found
        split
        next known =>
          refine .singleton fresh ?_
          intro f also
          rwa [← nested.unique also]
        next unknown => exact .cons fresh nested (inductionHypothesis e found unknown unknown)
      next missing =>
        refine .singleton fresh ?_
        intro f nested
        cases missing.symm.trans (nestedIn_iff.mp nested)

theorem isOutwardWalk_enclosingChain (ix : TypeIndex) (t : TypeDescriptor) :
    ix.IsOutwardWalk [] t (ix.enclosingChain t) :=
  isOutwardWalk_enclosingChainFrom [] List.not_mem_nil

/-- Nesting leads only to types that their own names stand for. -/
theorem find?_name_of_around (own : ix.find? t.name = some t)
    (around : Relation.ReflTransGen ix.NestedIn t u) : ix.find? u.name = some u := by
  cases around with
  | refl => exact own
  | tail _ nested => exact nested.find?_name

/-- The walk from a type that its own name stands for meets all types around it. -/
theorem mem_enclosingChain_iff (own : ix.find? t.name = some t) :
    u ∈ ix.enclosingChain t ↔ Relation.ReflTransGen ix.NestedIn t u := by
  have walk := isOutwardWalk_enclosingChain ix t
  refine ⟨walk.around u, ?_⟩
  intro around
  induction around with
  | refl => exact walk.starts
  | @tail u e _ nested inductionHypothesis =>
      -- The name of `e` has been met, and only `e` can have been met under it.
      rcases walk.onward u inductionHypothesis e nested with known | met
      · cases known
      · rcases List.mem_map.mp met with ⟨v, member, sameName⟩
        have vOwn := find?_name_of_around own (walk.around v member)
        rw [sameName, nested.find?_name] at vOwn
        rwa [Option.some.inj vOwn]

/-- The walk from a loaded type takes no more steps than there are loaded keys. -/
theorem length_enclosingChain_le (own : ix.find? t.name = some t) :
    (ix.enclosingChain t).length ≤ ix.size := by
  have walk := isOutwardWalk_enclosingChain ix t
  have distinct : ((ix.enclosingChain t).map (·.key)).Nodup := by
    apply List.Nodup.of_map TypeKey.name
    rw [List.map_map]
    exact walk.distinct
  have loaded : (ix.enclosingChain t).map (·.key) ⊆ ix.byKey.keys := by
    intro k member
    rcases List.mem_map.mp member with ⟨u, met, rfl⟩
    exact Std.TreeMap.mem_keys.mpr (mem_of_find? (find?_name_of_around own (walk.around u met))).2
  have bound := (List.subperm_of_subset distinct loaded).length_le
  rwa [List.length_map, Std.TreeMap.length_keys] at bound

theorem any_enclosingChain_iff (own : ix.find? t.name = some t) (p : TypeDescriptor → Bool) :
    (ix.enclosingChain t).any p = true ↔
      ∃ u, Relation.ReflTransGen ix.NestedIn t u ∧ p u = true := by
  simp only [List.any_eq_true, mem_enclosingChain_iff own]

end TypeIndex

namespace GeneratedHeuristic

variable {h : GeneratedHeuristic} {ix : TypeIndex} {t : TypeDescriptor}

/-- The type carries one of the markers, or its simple name matches one of the patterns. -/
def Synthetic (h : GeneratedHeuristic) (t : TypeDescriptor) : Prop :=
  (∃ m ∈ h.markers, ∃ a ∈ t.attributes, a.answersTo m = true) ∨
    ∃ p ∈ h.patterns, p.occursIn t.name.simple = true

theorem isSynthetic_iff : h.isSynthetic t = true ↔ h.Synthetic t := by
  simp only [isSynthetic, Synthetic, TypeDescriptor.hasAttribute, Bool.or_eq_true,
    List.any_eq_true]

theorem isGenerated_iff_exists_around (own : ix.find? t.name = some t) :
    h.isGenerated ix t = true ↔
      ∃ u, Relation.ReflTransGen ix.NestedIn t u ∧ h.Synthetic u := by
  simp only [isGenerated, TypeIndex.any_enclosingChain_iff own, isSynthetic_iff]

/-- A type that its own name stands for is generated if it is synthetic or the loaded type
around it is generated, and else not. That is to say, it is generated exactly when some type
is synthetic among those that nesting leads to from it, also where nesting leads in a circle.
The walk outwards ends: it meets no name twice and no more types than are loaded. -/
theorem isGenerated_follows_nesting (h : GeneratedHeuristic) (ix : TypeIndex)
    (t : TypeDescriptor) (own : ix.find? t.name = some t) :
    (h.isGenerated ix t = true ↔
        h.Synthetic t ∨ ∃ e, ix.NestedIn t e ∧ h.isGenerated ix e = true) ∧
      (h.isGenerated ix t = true ↔
        ∃ u, Relation.ReflTransGen ix.NestedIn t u ∧ h.Synthetic u) ∧
      (∀ p : TypeDescriptor → Bool, (ix.enclosingChain t).any p = true ↔
        ∃ u, Relation.ReflTransGen ix.NestedIn t u ∧ p u = true) ∧
      ((ix.enclosingChain t).map (·.name)).Nodup ∧ (ix.enclosingChain t).length ≤ ix.size := by
  refine ⟨?_, isGenerated_iff_exists_around own, TypeIndex.any_enclosingChain_iff own,
    (TypeIndex.isOutwardWalk_enclosingChain ix t).distinct, TypeIndex.length_enclosingChain_le own⟩
  rw [isGenerated_iff_exists_around own]
  constructor
  · rintro ⟨u, around, synthetic⟩
    rcases Relation.ReflTransGen.cases_head_iff.mp around with rfl | ⟨e, nested, further⟩
    · exact .inl synthetic
    · refine .inr ⟨e, nested, ?_⟩
      exact (isGenerated_iff_exists_around nested.find?_name).mpr ⟨u, further, synthetic⟩
  · rintro (synthetic | ⟨e, nested, generated⟩)
    · exact ⟨t, .refl, synthetic⟩
    · rcases (isGenerated_iff_exists_around nested.find?_name).mp generated with
        ⟨u, further, synthetic⟩
      exact ⟨u, .head nested further, synthetic⟩

section Ring

def leaf : TypeDescriptor where
  name := ⟨some "App", "Leaf"⟩
  owner := "App"
  kind := .plainClass
  enclosing := some ⟨some "App", "Ring"⟩

def ring : TypeDescriptor where
  name := ⟨some "App", "Ring"⟩
  owner := "App"
  kind := .plainClass
  enclosing := some ⟨some "App", "Knot"⟩

def knot : TypeDescriptor where
  name := ⟨some "App", "Knot"⟩
  owner := "App"
  kind := .plainClass
  enclosing := some ⟨some "App", "Ring"⟩
  attributes := [{ name := ⟨some "App", "Generated"⟩, arguments := .ofList [] }]

/-- A type in one of two types that are nested in each other. -/
def ringIndex : TypeIndex := .ofModules [{ name := "App", types := [leaf, ring, knot] }]

def markerHeuristic : GeneratedHeuristic where
  markers := [⟨none, "Generated"⟩]
  patterns := []

theorem isGenerated_follows_nesting_leaf :
    ringIndex.find? leaf.name = some leaf ∧ ringIndex.NestedIn ring knot ∧
      ringIndex.NestedIn knot ring ∧ ¬ markerHeuristic.Synthetic leaf ∧
      markerHeuristic.isGenerated ringIndex leaf = true ∧
      (ringIndex.enclosingChain leaf).length ≤ 3 := by
  have own : ringIndex.find? leaf.name = some leaf := by decide +kernel
  have inner : ringIndex.NestedIn leaf ring := ⟨_, rfl, by decide +kernel⟩
  have outer : ringIndex.NestedIn ring knot := ⟨_, rfl, by decide +kernel⟩
  have back : ringIndex.NestedIn knot ring := ⟨_, rfl, by decide +kernel⟩
  have plain : ¬ markerHeuristic.Synthetic leaf := by
    rw [← isSynthetic_iff]
    decide +kernel
  have marked : markerHeuristic.Synthetic knot := isSynthetic_iff.mp (by decide +kernel)
  have size : ringIndex.size = 3 := by decide +kernel
  rcases isGenerated_follows_nesting markerHeuristic ringIndex leaf own with
    ⟨_, generated_iff, _, _, bound⟩
  rw [size] at bound
  refine ⟨own, outer, back, plain, generated_iff.mpr ⟨knot, ?_, marked⟩, bound⟩
  exact .head inner (.single outer)

end Ring

end GeneratedHeuristic

end Architecture
