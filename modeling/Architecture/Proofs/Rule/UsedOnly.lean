import Architecture.Proofs.Inquiry
import Architecture.Proofs.References
import Architecture.Rule.UsedOnly

/-!
# Restricted dependencies

The rules that bind a dependency of a type are those that cover the dependency, less
those that leave the type alone because it is generated. A violation is found for
exactly the dependencies that are bound by some rule while no rule that binds them
allows the type. Types are gone through in loading order, and each is checked for its
external references before its internal ones, both in order of their keys.
-/

namespace Architecture

namespace UsedOnly

/-- The rule covers a dependency of a type and does not leave the type alone. -/
structure Binds (ctx : Context) (t : TypeDescriptor) (dependency : TypeKey)
    (rule : UsedOnly) : Prop where
  covers : dependency.name = rule.target ∨
    ctx.index.isInterface rule.target ∧ ctx.index.isKeyAssignable dependency rule.target
  checks : ¬ (rule.excludeGenerated ∧ ctx.isGenerated t)

/-- Some rule binds the dependency, and no rule that does allows the type. -/
structure Restricts (ctx : Context) (rules : List UsedOnly) (t : TypeDescriptor)
    (dependency : TypeKey) : Prop where
  bound : ∃ rule ∈ rules, rule.Binds ctx t dependency
  refused : ∀ rule ∈ rules, rule.Binds ctx t dependency →
    ∀ name ∈ rule.allowed, ¬ ctx.index.isAssignable t name

section Decidability

variable (ctx : Context) (t : TypeDescriptor) (dependency : TypeKey)

instance (rule : UsedOnly) : Decidable (rule.Binds ctx t dependency) :=
  decidable_of_iff (_ ∧ _) ⟨fun both => ⟨both.1, both.2⟩, fun binds => ⟨binds.covers, binds.checks⟩⟩

instance (rules : List UsedOnly) : Decidable (Restricts ctx rules t dependency) :=
  decidable_of_iff (_ ∧ _) ⟨fun both => ⟨both.1, both.2⟩, fun some => ⟨some.bound, some.refused⟩⟩

end Decidability

variable {ctx : Context} {rules : List UsedOnly} {t : TypeDescriptor} {dependency : TypeKey}

theorem binds_iff {rule : UsedOnly} :
    rule.Binds ctx t dependency ↔
      covers ctx.index dependency rule = true ∧ ¬ (rule.excludeGenerated ∧ ctx.isGenerated t) := by
  have covered : covers ctx.index dependency rule = true ↔ dependency.name = rule.target ∨
      ctx.index.isInterface rule.target ∧ ctx.index.isKeyAssignable dependency rule.target := by
    simp [covers]
  rw [covered]
  exact ⟨fun binds => ⟨binds.covers, binds.checks⟩, fun both => ⟨both.1, both.2⟩⟩

/-- It makes no difference that rules which leave generated types alone are looked for
before it is known whether the type is generated. -/
theorem binding_eq :
    binding ctx rules t dependency = rules.filter fun rule => rule.Binds ctx t dependency := by
  simp only [binding]
  split
  next both =>
    have generated := (Bool.and_eq_true_iff.mp both).2
    rw [List.filter_filter]
    refine List.filter_congr ?_
    intro rule _
    rw [Bool.eq_iff_iff, decide_eq_true_iff, binds_iff]
    simp [generated, and_comm]
  next either =>
    refine List.filter_congr ?_
    intro rule member
    rw [Bool.eq_iff_iff, decide_eq_true_iff, binds_iff, iff_self_and]
    rintro covered ⟨excludes, generated⟩
    refine either (Bool.and_eq_true_iff.mpr ⟨List.any_eq_true.mpr ⟨rule, ?_, excludes⟩, generated⟩)
    exact List.mem_filter.mpr ⟨member, covered⟩

/-- The dependants that the rules which bind a dependency allow, in order. -/
def allowedFor (ctx : Context) (rules : List UsedOnly) (t : TypeDescriptor)
    (dependency : TypeKey) : List TypeName :=
  sortedDistinct ((rules.filter fun rule => rule.Binds ctx t dependency).flatMap (·.allowed))

theorem mem_allowedFor {name : TypeName} :
    name ∈ allowedFor ctx rules t dependency ↔
      ∃ rule ∈ rules, rule.Binds ctx t dependency ∧ name ∈ rule.allowed := by
  simp [allowedFor, and_assoc]

theorem restricts_iff :
    Restricts ctx rules t dependency ↔ binding ctx rules t dependency ≠ [] ∧
      ∀ name ∈ allowedFor ctx rules t dependency, ¬ ctx.index.isAssignable t name := by
  rw [binding_eq]
  constructor
  · rintro ⟨⟨rule, member, binds⟩, refused⟩
    refine ⟨List.ne_nil_of_mem (List.mem_filter.mpr ⟨member, decide_eq_true binds⟩), ?_⟩
    intro name allowed
    rcases mem_allowedFor.mp allowed with ⟨other, otherMember, otherBinds, listed⟩
    exact refused other otherMember otherBinds name listed
  · rintro ⟨bound, refused⟩
    constructor
    · rcases List.exists_mem_of_ne_nil _ bound with ⟨rule, kept⟩
      rcases List.mem_filter.mp kept with ⟨member, binds⟩
      exact ⟨rule, member, of_decide_eq_true binds⟩
    · intro rule member binds name listed
      exact refused name (mem_allowedFor.mpr ⟨rule, member, binds, listed⟩)

theorem checkEdge_eq :
    checkEdge ctx rules t dependency =
      if Restricts ctx rules t dependency then
        some (violation t dependency (allowedFor ctx rules t dependency))
      else none := by
  have sameList : sortedDistinct ((binding ctx rules t dependency).flatMap (·.allowed)) =
      allowedFor ctx rules t dependency := by
    rw [binding_eq, allowedFor]
  simp only [checkEdge, sameList]
  by_cases restricts : Restricts ctx rules t dependency
  · rcases restricts_iff.mp restricts with ⟨bound, refused⟩
    rw [if_pos restricts, if_neg]
    simpa [bound] using refused
  · rw [if_neg restricts, if_pos]
    rw [restricts_iff] at restricts
    simpa [or_iff_not_imp_left] using restricts

/-- The types that the rules are about. -/
def dependants (ctx : Context) : List TypeDescriptor :=
  ctx.typesUnderTest.filter (!·.isInterface)

/-- Everything that a type refers to, in the order in which it is checked. -/
def dependencies (ctx : Context) (t : TypeDescriptor) : List TypeKey :=
  (t.references ctx.options.rootTypes).external ++ (t.references ctx.options.rootTypes).internal

/-- All pairs of a type and one of its dependencies, in the order in which they are
checked. -/
def edges (ctx : Context) : List (TypeDescriptor × TypeKey) :=
  (dependants ctx).flatMap fun t => (dependencies ctx t).map (t, ·)

theorem check_value :
    (check ctx rules).value =
      ((edges ctx).filter fun e => Restricts ctx rules e.1 e.2).map fun e =>
        violation e.1 e.2 (allowedFor ctx rules e.1 e.2) := by
  have perType : ∀ t, (checkType ctx rules t).value =
      (dependencies ctx t).filterMap (checkEdge ctx rules t) := fun t => rfl
  simp only [check, Inquiry.value_bind, Inquiry.value_mapM, Inquiry.value_pure, perType]
  rw [← List.flatMap_def, edges, List.filter_flatMap, List.map_flatMap]
  refine List.flatMap_congr ?_
  intro t _
  rw [List.filter_map, List.map_map, ← List.filterMap_eq_map, List.filterMap_filter]
  refine List.filterMap_congr ?_
  intro dependency _
  rw [checkEdge_eq]
  simp

theorem count_edges (t : TypeDescriptor) (dependency : TypeKey) :
    (edges ctx).count (t, dependency) =
      if dependency ∈ dependencies ctx t then (dependants ctx).count t else 0 := by
  unfold edges
  induction dependants ctx with
  | nil => simp
  | cons u rest inductionHypothesis =>
      rw [List.flatMap_cons, List.count_append, inductionHypothesis, List.count_cons]
      by_cases same : u = t
      · subst same
        have once : ((dependencies ctx u).map (u, ·)).count (u, dependency) =
            if dependency ∈ dependencies ctx u then 1 else 0 := by
          rw [List.count_map_of_injective _ _ (Prod.mk_right_injective u)]
          exact (u.references_nodup _).count
        rw [once]
        split <;> simp [Nat.add_comm]
      · have never : ((dependencies ctx u).map (u, ·)).count (t, dependency) = 0 := by
          simp [List.count_eq_zero, same]
        simp [never, same]

/-- A check finds one violation for every pair of a type and a dependency that the rules
restrict, as often as the type is under test, and none for any other pair. -/
theorem check_exact (earlier : List Analyzer) (ctx : Context) (rules : List UsedOnly) :
    let restricted := (edges ctx).filter fun e => Restricts ctx rules e.1 e.2
    ((check ctx rules).cached.run (Analyzer.cacheAfter earlier)).1 =
        restricted.map (fun e => violation e.1 e.2 (allowedFor ctx rules e.1 e.2)) ∧
      (∀ t dependency, restricted.count (t, dependency) =
        if dependency ∈ dependencies ctx t ∧ Restricts ctx rules t dependency then
          (dependants ctx).count t
        else 0) ∧
      ∀ t : TypeDescriptor,
        ((t.references ctx.options.rootTypes).external.Pairwise fun a b => compare a b = .lt) ∧
          (t.references ctx.options.rootTypes).internal.Pairwise fun a b => compare a b = .lt := by
  intro restricted
  refine ⟨?_, ?_, TypeDescriptor.references_pairwise _⟩
  · rw [Analyzer.cached_run_cacheAfter, check_value]
  · intro t dependency
    by_cases restricts : Restricts ctx rules t dependency
    · have all : restricted.count (t, dependency) = (edges ctx).count (t, dependency) :=
        List.count_filter (by simpa using restricts)
      rw [all, count_edges]
      simp [restricts]
    · have never : restricted.count (t, dependency) = 0 := by
        simp [restricted, List.count_eq_zero, restricts]
      simp [never, restricts]

end UsedOnly

end Architecture
