import Architecture.Proofs.Hierarchy.Instantiation
import Architecture.Signature
import Mathlib.Data.List.Chain
import Mathlib.Data.List.Nodup
import Mathlib.Data.List.Perm.Basic

/-!
# Methods that implement a method of an interface

The base chain of a type is the one list that starts with the type, goes on from base to
base and ends where there is no base or its key would come again. A type that implements
an interface has its implementation of a method from the first type of this chain that
declares a candidate for it, and there a method that names the interface comes before
one that names none.
-/

namespace Architecture

/-- The first value of a list that satisfies a condition. -/
def IsFirst {α : Type} (p : α → Prop) (xs : List α) (a : α) : Prop :=
  ∃ before after, xs = before ++ a :: after ∧ p a ∧ ∀ b ∈ before, ¬ p b

theorem find?_eq_some_iff_isFirst {α : Type} {p : α → Bool} {q : α → Prop} {xs : List α} {a : α}
    (same : ∀ b, p b = true ↔ q b) : xs.find? p = some a ↔ IsFirst q xs a := by
  simp only [List.find?_eq_some_iff_append, Bool.not_eq_true', ← Bool.not_eq_true, same]
  constructor
  · rintro ⟨holds, before, after, split, earlier⟩
    exact ⟨before, after, split, holds, earlier⟩
  · rintro ⟨before, after, split, holds, earlier⟩
    exact ⟨holds, before, after, split, earlier⟩

namespace IsFirst

variable {α : Type} {p : α → Prop} {xs : List α} {a : α}

theorem mem (first : IsFirst p xs a) : a ∈ xs := by
  rcases first with ⟨before, after, rfl, _, _⟩
  simp

theorem holds (first : IsFirst p xs a) : p a := by
  rcases first with ⟨_, _, _, holds, _⟩
  exact holds

end IsFirst

theorem exists_isFirst {α : Type} {p : α → Prop} {xs : List α} {a : α} (member : a ∈ xs)
    (holds : p a) : ∃ first, IsFirst p xs first := by
  classical
  have found : (xs.find? p).isSome = true := by
    rw [List.find?_isSome]
    exact ⟨a, member, decide_eq_true holds⟩
  rcases Option.isSome_iff_exists.mp found with ⟨first, found⟩
  exact ⟨first, (find?_eq_some_iff_isFirst fun _ => decide_eq_true_iff).mp found⟩

theorem isFirst_congr {α : Type} {p q : α → Prop} {xs : List α} {a : α}
    (same : ∀ x ∈ xs, p x ↔ q x) : IsFirst p xs a ↔ IsFirst q xs a := by
  unfold IsFirst
  refine exists_congr fun before => exists_congr fun after => and_congr_right fun split => ?_
  subst split
  simp only [List.mem_append, List.mem_cons] at same
  exact and_congr (same a (by simp))
    (forall₂_congr fun b member => not_congr (same b (.inl member)))

/-- Lists that go on from value to value by the same rule differ in where they end only. -/
theorem prefix_or_prefix_of_isChain {α : Type} {next : α → Option α} {xs ys : List α}
    (xsLinked : xs.IsChain fun a b => next a = some b)
    (ysLinked : ys.IsChain fun a b => next a = some b) (sameStart : xs.head? = ys.head?) :
    xs <+: ys ∨ ys <+: xs := by
  induction xs generalizing ys with
  | nil => exact .inl List.nil_prefix
  | cons a rest inductionHypothesis =>
      cases ys with
      | nil => exact .inr List.nil_prefix
      | cons b others =>
          cases sameStart
          simp only [List.cons_prefix_cons, true_and]
          rw [List.isChain_cons] at xsLinked ysLinked
          cases rest with
          | nil => exact .inl List.nil_prefix
          | cons c rest =>
              cases others with
              | nil => exact .inr List.nil_prefix
              | cons d others =>
                  apply inductionHypothesis xsLinked.2 ysLinked.2
                  exact (xsLinked.1 c rfl).symm.trans (ysLinked.1 d rfl)

namespace TypeIndex

variable {ix : TypeIndex} {t : TypeDescriptor}

/-- The types from a type on, each the base of the one before it, up to the last before
a key comes again. Keys that were passed before the type may not come again either. -/
structure IsBaseChain (ix : TypeIndex) (t : TypeDescriptor) (chain : List TypeDescriptor)
    (passed : List TypeKey := []) : Prop where
  starts : chain.head? = some t
  linked : chain.IsChain fun u b => ix.base? u = some b
  distinct : (chain.map (·.key)).Nodup
  fresh : ∀ u ∈ chain, u.key ∉ passed
  ends : ∀ u ∈ chain.getLast?, ∀ b, ix.base? u = some b →
    b.key ∈ passed ∨ b.key ∈ chain.map (·.key)

namespace IsBaseChain

variable {passed : List TypeKey} {chain other : List TypeDescriptor}

theorem singleton (fresh : t.key ∉ passed)
    (ends : ∀ b, ix.base? t = some b → b.key ∈ t.key :: passed) :
    ix.IsBaseChain t [t] passed where
  starts := rfl
  linked := .singleton t
  distinct := List.nodup_singleton _
  fresh := List.forall_mem_singleton.mpr fresh
  ends := by
    rintro _ ⟨⟩ b found
    rcases List.mem_cons.mp (ends b found) with own | known
    · exact .inr (List.mem_singleton.mpr own)
    · exact .inl known

theorem cons {b : TypeDescriptor} (fresh : t.key ∉ passed) (found : ix.base? t = some b)
    (rest : ix.IsBaseChain b chain (t.key :: passed)) : ix.IsBaseChain t (t :: chain) passed where
  starts := rfl
  linked := by
    refine List.isChain_cons.mpr ⟨?_, rest.linked⟩
    rw [rest.starts]
    rintro _ ⟨⟩
    exact found
  distinct := by
    refine List.nodup_cons.mpr ⟨?_, rest.distinct⟩
    intro member
    rcases List.mem_map.mp member with ⟨u, uMember, sameKey⟩
    exact rest.fresh u uMember (sameKey ▸ List.mem_cons_self)
  fresh := by
    refine List.forall_mem_cons.mpr ⟨fresh, ?_⟩
    intro u member known
    exact rest.fresh u member (List.mem_cons_of_mem _ known)
  ends := by
    intro u isLast c found
    cases chain with
    | nil => cases rest.starts
    | cons b above =>
        rcases rest.ends u isLast c found with known | member
        · rcases List.mem_cons.mp known with own | known
          · exact .inr (List.mem_cons.mpr (.inl own))
          · exact .inl known
        · exact .inr (List.mem_cons_of_mem _ member)

theorem eq_of_prefix (isChain : ix.IsBaseChain t chain passed)
    (isChainToo : ix.IsBaseChain t other passed) (shorter : chain <+: other) : chain = other := by
  rcases shorter with ⟨rest, rfl⟩
  cases rest with
  | nil => simp
  | cons b rest =>
      rcases List.isChain_append.mp isChainToo.linked with ⟨_, _, joined⟩
      have distinct := isChainToo.distinct
      rw [List.map_append, List.map_cons, List.nodup_append] at distinct
      cases last : chain.getLast? with
      | none =>
          rw [List.getLast?_eq_none_iff.mp last] at isChain
          cases isChain.starts
      | some u =>
          -- The longer chain goes on to a base, but the shorter one ends because its key has come.
          rcases isChain.ends u last b (joined u last b rfl) with known | repeated
          · exact absurd known (isChainToo.fresh b (by simp))
          · exact absurd rfl (distinct.2.2 _ repeated _ List.mem_cons_self)

theorem unique (isChain : ix.IsBaseChain t chain passed)
    (isChainToo : ix.IsBaseChain t other passed) : chain = other := by
  have sameStart := isChain.starts.trans isChainToo.starts.symm
  rcases prefix_or_prefix_of_isChain isChain.linked isChainToo.linked sameStart with
    shorter | longer
  · exact isChain.eq_of_prefix isChainToo shorter
  · exact (isChainToo.eq_of_prefix isChain longer).symm

/-- All but the first are loaded, and there are no more of them than loaded keys. -/
theorem length_le (isChain : ix.IsBaseChain t chain passed) : chain.length ≤ ix.size + 1 := by
  cases chain with
  | nil => exact Nat.zero_le _
  | cons u rest =>
      have loaded : ∀ b ∈ rest, b.key ∈ ix.byKey := by
        intro b member
        rcases List.mem_iff_getElem.mp member with ⟨i, bound, rfl⟩
        exact mem_of_base? (isChain.linked.getElem i (Nat.succ_lt_succ bound))
      have among : rest.map (·.key) ⊆ ix.byKey.keys := by
        intro k member
        rcases List.mem_map.mp member with ⟨b, bMember, rfl⟩
        exact Std.TreeMap.mem_keys.mpr (loaded b bMember)
      have distinct : (rest.map (·.key)).Nodup := (List.nodup_cons.mp isChain.distinct).2
      have bound := (List.subperm_of_subset distinct among).length_le
      rw [List.length_map, Std.TreeMap.length_keys] at bound
      exact Nat.succ_le_succ bound

end IsBaseChain

theorem isBaseChain_baseChainFrom (passed : List TypeKey) (fresh : t.key ∉ passed) :
    ix.IsBaseChain t (ix.baseChainFrom passed t) passed := by
  fun_induction baseChainFrom ix passed t with
  | case1 passed t inductionHypothesis =>
      split
      next b found =>
        split
        next known =>
          refine .singleton fresh ?_
          intro c also
          cases found.symm.trans also
          exact known
        next unknown => exact .cons fresh found (inductionHypothesis b found unknown unknown)
      next missing =>
        refine .singleton fresh ?_
        intro c found
        cases missing.symm.trans found

theorem isBaseChain_iff {chain : List TypeDescriptor} :
    ix.IsBaseChain t chain ↔ chain = ix.baseChain t := by
  have climbs : ix.IsBaseChain t (ix.baseChain t) :=
    isBaseChain_baseChainFrom [] List.not_mem_nil
  constructor
  · intro isChain
    exact isChain.unique climbs
  · rintro rfl
    exact climbs

end TypeIndex

namespace Member

/-- The method instantiates an open one and says that it implements the interface. -/
def IsExplicit (interface : TypeName) (m candidate : Member) : Prop :=
  m.accepts candidate = true ∧ ∃ ref, candidate.implements = some ref ∧ ref.name = interface

/-- The method instantiates an open one and names no interface. -/
def IsImplicit (m candidate : Member) : Prop :=
  m.accepts candidate = true ∧ candidate.implements = none

end Member

namespace TypeDescriptor

variable {t : TypeDescriptor} {interface : TypeName} {m c : Member}

/-- The type declares a method that can implement a method of the interface. -/
def HasCandidate (interface : TypeName) (m : Member) (t : TypeDescriptor) : Prop :=
  ∃ c ∈ t.methods, m.IsExplicit interface c ∨ m.IsImplicit c

/-- The first explicit candidate, or the first implicit one where none is explicit. -/
def Prefers (t : TypeDescriptor) (interface : TypeName) (m c : Member) : Prop :=
  IsFirst (m.IsExplicit interface) t.methods c ∨
    (∀ e ∈ t.methods, ¬ m.IsExplicit interface e) ∧ IsFirst m.IsImplicit t.methods c

theorem isExplicit_iff :
    (c.implements.any (·.name = interface) && m.accepts c) = true ↔ m.IsExplicit interface c := by
  simp only [Member.IsExplicit, Bool.and_eq_true, Option.any_eq_true, decide_eq_true_eq, and_comm]

theorem isImplicit_iff : (c.implements.isNone && m.accepts c) = true ↔ m.IsImplicit c := by
  simp [Member.IsImplicit, and_comm]

theorem implementation?_eq_some_iff :
    t.implementation? interface m = some c ↔ t.Prefers interface m c := by
  simp only [implementation?, Option.orElse_eq_some, Prefers, List.find?_eq_none, isExplicit_iff,
    find?_eq_some_iff_isFirst fun _ => isExplicit_iff,
    find?_eq_some_iff_isFirst fun _ => isImplicit_iff]

theorem implementation?_eq_none_iff :
    t.implementation? interface m = none ↔ ¬ t.HasCandidate interface m := by
  simp only [implementation?, Option.orElse_eq_none, List.find?_eq_none, isExplicit_iff,
    isImplicit_iff, HasCandidate, not_exists, not_and, not_or, forall_and]

theorem Prefers.hasCandidate (prefers : t.Prefers interface m c) : t.HasCandidate interface m := by
  rcases prefers with ⟨before, after, split, explicit, _⟩ | ⟨_, before, after, split, implicit, _⟩
  · exact ⟨c, by simp [split], .inl explicit⟩
  · exact ⟨c, by simp [split], .inr implicit⟩

theorem Prefers.implements_eq (prefers : t.Prefers interface m c) {ref : NamedRef}
    (marked : c.implements = some ref) : ref.name = interface := by
  rcases prefers with ⟨_, _, _, explicit, _⟩ | ⟨_, _, _, _, implicit, _⟩
  · rcases explicit.2 with ⟨other, same, named⟩
    cases marked.symm.trans same
    exact named
  · cases marked.symm.trans implicit.2

end TypeDescriptor

namespace TypeIndex

variable {ix : TypeIndex} {t : TypeDescriptor} {interface : TypeName} {m c : Member}

theorem findSome?_implementation?_eq_some_iff {chain : List TypeDescriptor} :
    chain.findSome? (·.implementation? interface m) = some c ↔
      ∃ owner, IsFirst (TypeDescriptor.HasCandidate interface m) chain owner ∧
        owner.Prefers interface m c := by
  simp only [List.findSome?_eq_some_iff, TypeDescriptor.implementation?_eq_none_iff,
    TypeDescriptor.implementation?_eq_some_iff]
  constructor
  · rintro ⟨before, owner, after, split, prefers, earlier⟩
    exact ⟨owner, ⟨before, after, split, prefers.hasCandidate, earlier⟩, prefers⟩
  · rintro ⟨owner, ⟨before, after, split, _, earlier⟩, prefers⟩
    exact ⟨before, owner, after, split, prefers, earlier⟩

/-- A method of an interface is implemented by the nearest candidate along the base chain
of a type that implements the interface, and by none for any other type. The chain ends
whether or not bases form a cycle, and what is found never belongs to another interface. -/
theorem implementingMethod?_nearest (modules : List ModuleDescriptor) (t : TypeDescriptor)
    (interface : TypeName) (m : Member) :
    let ix := ofModules modules
    let found := ix.implementingMethod? t interface m
    (∀ chain, ix.IsBaseChain t chain ↔ chain = ix.baseChain t) ∧
      (ix.baseChain t).length ≤ ix.size + 1 ∧
      (∀ c, found = some c ↔ ix.Implements t interface ∧
        ∃ owner, IsFirst (TypeDescriptor.HasCandidate interface m) (ix.baseChain t) owner ∧
          owner.Prefers interface m c) ∧
      (found = none ↔ ¬ ix.Implements t interface ∨
        ∀ u ∈ ix.baseChain t, ¬ u.HasCandidate interface m) ∧
      ∀ c ∈ found, ∀ ref ∈ c.implements, ref.name = interface := by
  intro ix found
  have some_iff : ∀ c, found = some c ↔ ix.Implements t interface ∧
      ∃ owner, IsFirst (TypeDescriptor.HasCandidate interface m) (ix.baseChain t) owner ∧
        owner.Prefers interface m c := by
    intro c
    rw [← instantiation?_isSome_iff_implements, ← findSome?_implementation?_eq_some_iff]
    exact Option.ite_none_right_eq_some
  refine ⟨fun chain => isBaseChain_iff, (isBaseChain_iff.mpr rfl).length_le, some_iff, ?_, ?_⟩
  · by_cases implements : ix.Implements t interface
    · have walked : found = (ix.baseChain t).findSome? (·.implementation? interface m) :=
        if_pos (instantiation?_isSome_iff_implements.mpr implements)
      rw [walked, List.findSome?_eq_none_iff, or_iff_right (not_not_intro implements)]
      simp only [TypeDescriptor.implementation?_eq_none_iff]
    · have unsearched : found = none :=
        if_neg (mt instantiation?_isSome_iff_implements.mp implements)
      exact iff_of_true unsearched (.inl implements)
  · intro c result ref marked
    rcases (some_iff c).mp result with ⟨_, owner, _, prefers⟩
    exact prefers.implements_eq marked

end TypeIndex

end Architecture
