import Architecture.Proofs.Hierarchy.Implementation
import Mathlib.Logic.Relation

/-!
# Types that extend others

A type extends its base, the base of that, and so on. The base chain of a type stops where a
key comes again. Where no two loaded types share a name, a key that comes again brings back
a type of the chain, so no type that is extended is left out.
-/

namespace Architecture.TypeIndex

/-- One type leads to the other from base to base, in any number of steps. -/
def Extends (ix : TypeIndex) : TypeDescriptor → TypeDescriptor → Prop :=
  Relation.ReflTransGen fun t b => ix.base? t = some b

variable {modules : List ModuleDescriptor} {t u b c : TypeDescriptor}

theorem exists_baseRef {ix : TypeIndex} (found : ix.base? t = some b) :
    ∃ ref ∈ t.supertypeRefs, ix.resolve? ref = some b := by
  rcases Option.bind_eq_some_iff.mp found with ⟨ref, isNamed, resolved⟩
  rcases Option.bind_eq_some_iff.mp isNamed with ⟨r, isBase, named⟩
  refine ⟨ref, List.mem_filterMap.mpr ⟨r, ?_, named⟩, resolved⟩
  apply List.mem_append_left
  exact Option.mem_toList.mpr isBase

theorem mem_types_of_base? (found : (ofModules modules).base? t = some b) :
    b ∈ (ofModules modules).types := by
  rcases exists_baseRef found with ⟨ref, _, resolved⟩
  exact mem_types_of_resolve? resolved

theorem mem_types_of_mem_baseChain (loaded : t ∈ (ofModules modules).types) :
    ∀ u ∈ (ofModules modules).baseChain t, u ∈ (ofModules modules).types := by
  have chain : (ofModules modules).IsBaseChain t _ := isBaseChain_iff.mpr rfl
  apply chain.linked.induction (· ∈ (ofModules modules).types)
  · intro u b found _
    exact mem_types_of_base? found
  · intro nonempty
    have starts := chain.starts
    rw [List.head?_eq_some_head nonempty] at starts
    rwa [Option.some.inj starts]

theorem base_mem_baseChain (distinct : (ofModules modules).DistinctNames)
    (loaded : t ∈ (ofModules modules).types) (member : u ∈ (ofModules modules).baseChain t)
    (found : (ofModules modules).base? u = some b) : b ∈ (ofModules modules).baseChain t := by
  have chain : (ofModules modules).IsBaseChain t _ := isBaseChain_iff.mpr rfl
  have members := mem_types_of_mem_baseChain loaded
  rcases List.append_of_mem member with ⟨below, above, split⟩
  rw [split] at chain members ⊢
  cases above with
  | nil =>
      -- The chain stops here, so it has a type of this key, and that is the base itself.
      rcases chain.ends u (by simp) b found with passed | repeated
      · cases passed
      · rcases List.mem_map.mp repeated with ⟨v, vMember, sameKey⟩
        have sameName : v.name = b.name := congrArg TypeKey.name sameKey
        rwa [← distinct v (members v vMember) b (mem_types_of_base? found) sameName]
  | cons v above =>
      have linked := chain.linked.right_of_append
      rw [List.isChain_cons_cons] at linked
      cases found.symm.trans linked.1
      simp

/-- The base chain of a loaded type has every type that it extends, cycle or not. -/
theorem mem_baseChain_of_extends (distinct : (ofModules modules).DistinctNames)
    (loaded : t ∈ (ofModules modules).types) (upward : (ofModules modules).Extends t c) :
    c ∈ (ofModules modules).baseChain t := by
  induction upward with
  | refl =>
      rw [baseChain, baseChainFrom]
      exact List.mem_cons_self
  | tail _ found inductionHypothesis =>
      exact base_mem_baseChain distinct loaded inductionHypothesis found

theorem isAssignable_of_extends (distinct : (ofModules modules).DistinctNames)
    (loaded : t ∈ (ofModules modules).types) (upward : (ofModules modules).Extends t c) :
    (ofModules modules).isAssignable t c.name = true := by
  induction upward with
  | refl => exact isAssignable_iff.mpr (.inl rfl)
  | @tail u b reached found inductionHypothesis =>
      have uLoaded := mem_types_of_mem_baseChain loaded u
        (mem_baseChain_of_extends distinct loaded reached)
      rcases exists_baseRef found with ⟨ref, direct, resolved⟩
      apply isAssignable_trans distinct loaded uLoaded inductionHypothesis
      rw [isAssignable_iff, (mem_of_resolve? resolved).1]
      exact .inr (name_mem_supertypes direct)

end Architecture.TypeIndex
