import Architecture.Proofs.Rule.UsedOnly

/-!
# Restrictions that say less

Restrictions on one target with one stance on generated types act as a single one that allows
all that any of them allows. Restrictions relax others if they restrict no further targets and
withdraw no permission. Then they find no further violations, and restrictions that relax each
other find the same. So neither order nor repetition matters, and a restriction may be split
into parts that share out its permissions.
-/

namespace Architecture.UsedOnly

/-- Restrictions of the same dependencies, whatever they allow. -/
def SameScope (rule other : UsedOnly) : Prop :=
  rule.target = other.target ∧ rule.excludeGenerated = other.excludeGenerated

/-- The later rules restrict no further dependencies and allow all that the earlier ones allow. -/
structure Relaxes (earlier later : List UsedOnly) : Prop where
  restricted : ∀ rule ∈ later, ∃ other ∈ earlier, rule.SameScope other
  allowed : ∀ rule ∈ earlier, ∀ name ∈ rule.allowed,
    ∃ other ∈ later, rule.SameScope other ∧ name ∈ other.allowed

variable {ctx : Context} {t : TypeDescriptor} {dependency : TypeKey} {rule other : UsedOnly}
  {rules others : List UsedOnly}

theorem SameScope.binds (sameScope : rule.SameScope other)
    (binds : rule.Binds ctx t dependency) : other.Binds ctx t dependency := by
  rcases sameScope with ⟨target, excludes⟩
  constructor
  · rw [← target]
    exact binds.covers
  · rw [← excludes]
    exact binds.checks

namespace Relaxes

theorem of_subset (included : rules ⊆ others) (covered : others ⊆ rules) :
    Relaxes rules others where
  restricted := fun rule member => ⟨rule, covered member, rfl, rfl⟩
  allowed := fun rule member _ listed => ⟨rule, included member, ⟨rfl, rfl⟩, listed⟩

/-- Rules may be relaxed in the midst of others. -/
theorem within (relaxes : Relaxes rules others) (before after : List UsedOnly) :
    Relaxes (before ++ rules ++ after) (before ++ others ++ after) where
  restricted := by
    intro rule member
    simp only [List.mem_append] at member ⊢
    rcases member with (first | here) | last
    · exact ⟨rule, .inl (.inl first), rfl, rfl⟩
    · rcases relaxes.restricted rule here with ⟨other, otherMember, sameScope⟩
      exact ⟨other, .inl (.inr otherMember), sameScope⟩
    · exact ⟨rule, .inr last, rfl, rfl⟩
  allowed := by
    intro rule member name listed
    simp only [List.mem_append] at member ⊢
    rcases member with (first | here) | last
    · exact ⟨rule, .inl (.inl first), ⟨rfl, rfl⟩, listed⟩
    · rcases relaxes.allowed rule here name listed with ⟨other, otherMember, sameScope, listedToo⟩
      exact ⟨other, .inl (.inr otherMember), sameScope, listedToo⟩
    · exact ⟨rule, .inr last, ⟨rfl, rfl⟩, listed⟩

theorem restricts (relaxes : Relaxes rules others)
    (restricts : Restricts ctx others t dependency) : Restricts ctx rules t dependency := by
  rcases restricts with ⟨⟨rule, member, binds⟩, refused⟩
  constructor
  · rcases relaxes.restricted rule member with ⟨other, otherMember, sameScope⟩
    exact ⟨other, otherMember, sameScope.binds binds⟩
  · intro rule member binds name listed
    rcases relaxes.allowed rule member name listed with ⟨other, otherMember, sameScope, listedToo⟩
    exact refused other otherMember (sameScope.binds binds) name listedToo

theorem mem_allowedFor (relaxes : Relaxes rules others) {name : TypeName}
    (member : name ∈ allowedFor ctx rules t dependency) :
    name ∈ allowedFor ctx others t dependency := by
  rcases UsedOnly.mem_allowedFor.mp member with ⟨rule, ruleMember, binds, listed⟩
  rcases relaxes.allowed rule ruleMember name listed with ⟨other, otherMember, sameScope, listedToo⟩
  exact UsedOnly.mem_allowedFor.mpr ⟨other, otherMember, sameScope.binds binds, listedToo⟩

/-- Rules that relax each other find the same, down to the names that a violation lists. -/
theorem check_value_eq (forth : Relaxes rules others) (back : Relaxes others rules)
    (ctx : Context) : (check ctx rules).value = (check ctx others).value := by
  have sameRestricted : ∀ t dependency,
      Restricts ctx rules t dependency ↔ Restricts ctx others t dependency :=
    fun t dependency => ⟨back.restricts, forth.restricts⟩
  have sameAllowed : ∀ t dependency,
      allowedFor ctx rules t dependency = allowedFor ctx others t dependency := by
    intro t dependency
    apply sortedDistinct_congr
    intro name
    have both : name ∈ allowedFor ctx rules t dependency ↔
        name ∈ allowedFor ctx others t dependency := ⟨forth.mem_allowedFor, back.mem_allowedFor⟩
    simpa only [allowedFor, mem_sortedDistinct] using both
  simp only [check_value, sameRestricted, sameAllowed]

end Relaxes

theorem check_value_congr (ctx : Context) (same : ∀ rule, rule ∈ rules ↔ rule ∈ others) :
    (check ctx rules).value = (check ctx others).value := by
  have included : rules ⊆ others := fun rule => (same rule).mp
  have covered : others ⊆ rules := fun rule => (same rule).mpr
  exact Relaxes.check_value_eq (.of_subset included covered) (.of_subset covered included) ctx

/-- Two rules that share out what a rule allows may stand in its place. -/
theorem check_value_split {target : TypeName} {exclude : Bool} {all first second : List TypeName}
    (shared : ∀ name, name ∈ all ↔ name ∈ first ∨ name ∈ second) (ctx : Context)
    (before after : List UsedOnly) :
    (check ctx (before ++ ⟨target, all, exclude⟩ :: after)).value =
      (check ctx
        (before ++ ⟨target, first, exclude⟩ :: ⟨target, second, exclude⟩ :: after)).value := by
  have forth : Relaxes [⟨target, all, exclude⟩]
      [⟨target, first, exclude⟩, ⟨target, second, exclude⟩] := by
    constructor
    · simp [SameScope]
    · simp [SameScope, shared]
  have back : Relaxes [⟨target, first, exclude⟩, ⟨target, second, exclude⟩]
      [⟨target, all, exclude⟩] := by
    constructor
    · simp [SameScope]
    · suffices (∀ name ∈ first, name ∈ all) ∧ ∀ name ∈ second, name ∈ all by simpa [SameScope]
      exact ⟨fun name here => (shared name).mpr (.inl here),
        fun name there => (shared name).mpr (.inr there)⟩
  simpa using Relaxes.check_value_eq (forth.within before after) (back.within before after) ctx

theorem relaxes_of_allowed_subset {more : List TypeName} (included : rule.allowed ⊆ more) :
    Relaxes [rule] [{ rule with allowed := more }] := by
  constructor
  · simp [SameScope]
  · suffices ∀ name ∈ rule.allowed, name ∈ more by simpa [SameScope]
    exact fun name listed => included listed

/-- What is found depends on the set of rules only, to the last word of the messages: rules in
another order or repeated find the same, and so do two rules that share out what one rule
allows. Allowing more in a rule adds no pair of a type and a dependency to those that are
reported, one for one and in order. -/
theorem check_combines (earlier : List Analyzer) (ctx : Context) :
    let found := fun rules => ((check ctx rules).cached.run (Analyzer.cacheAfter earlier)).1
    let restricted := fun rules => (edges ctx).filter fun e => Restricts ctx rules e.1 e.2
    (∀ rules others, (∀ rule, rule ∈ rules ↔ rule ∈ others) → found rules = found others) ∧
      (∀ before after target exclude all first second,
        (∀ name, name ∈ all ↔ name ∈ first ∨ name ∈ second) →
          found (before ++ ⟨target, all, exclude⟩ :: after) =
            found (before ++ ⟨target, first, exclude⟩ :: ⟨target, second, exclude⟩ :: after)) ∧
      (∀ rules, found rules = (restricted rules).map fun e =>
        violation e.1 e.2 (allowedFor ctx rules e.1 e.2)) ∧
      ∀ before after rule more, rule.allowed ⊆ more →
        (restricted (before ++ { rule with allowed := more } :: after)).Sublist
          (restricted (before ++ rule :: after)) := by
  intro found restricted
  have found_eq : ∀ rules, found rules = (check ctx rules).value :=
    fun rules => Analyzer.cached_run_cacheAfter ..
  refine ⟨?_, ?_, ?_, ?_⟩
  · intro rules others same
    rw [found_eq, found_eq, check_value_congr ctx same]
  · intro before after target exclude all first second shared
    rw [found_eq, found_eq, check_value_split shared]
  · intro rules
    rw [found_eq, check_value]
  · intro before after rule more included
    have relaxes := (relaxes_of_allowed_subset included).within before after
    simp only [List.append_assoc, List.singleton_append] at relaxes
    apply List.monotone_filter_right
    intro e
    simpa using relaxes.restricts

end Architecture.UsedOnly
