import Architecture.Proofs.References
import Architecture.Proofs.Rule.Isolation

/-!
# Cut-offs of rules on namespaces

A rule goes through the types that it selects and stops in the middle of one once it has
found enough. What it finds is the beginning of the list that it would find if it never
stopped, in which each type contributes the first few of its offending references. The
count starts anew with every rule, so none is cut off because of another.
-/

namespace Architecture

/-- The same context under other cut-offs. -/
def Context.withCutoffs (ctx : Context) (perType perNamespace : Nat) : Context :=
  { ctx with
    options := { ctx.options with
      perTypeCutoff := perType, perNamespaceCutoff := perNamespace } }

namespace Isolation

open Analyzer

variable {ctx : Context} {d : Direction} {rule : Isolation} {perType perNamespace : Nat}

/-- All that a rule finds if at most so many references count for each type. -/
def uncut (ctx : Context) (d : Direction) (perType : Nat) (rule : Isolation) : List Violation :=
  (ctx.typesUnderTest.filter fun t => rule.selects d t.name.space).flatMap fun t =>
    ((rule.offences ctx d t).take perType).map (rule.violation d t)

theorem check_withCutoffs :
    (check (ctx.withCutoffs perType perNamespace) d rule).value =
      (uncut ctx d perType rule).take perNamespace :=
  check_value (ctx.withCutoffs perType perNamespace) rule d

theorem offences_pairwise (ctx : Context) (d : Direction) (rule : Isolation)
    (t : TypeDescriptor) : (rule.offences ctx d t).Pairwise fun a b => compare a b = .lt :=
  (t.references_pairwise _).2.filter _

theorem offences_eq_nil_iff {t : TypeDescriptor} :
    rule.offences ctx d t = [] ↔ ∀ r, t.RefersTo ctx.options.rootTypes r → r.owner = t.owner →
      rule.offends d r.name.space = false := by
  simp only [offences, List.filter_eq_nil_iff, TypeDescriptor.mem_internal_iff, and_imp,
    Bool.not_eq_true]

/-- What rules find under any two cut-offs, on a cache that any analyses have filled. One
rule finds the first violations of its uncut list, in which references come in order of
their keys. If neither cut-off is zero it finds nothing only where nothing offends. A
larger cut-off for the rule adds violations at the end. Several rules find one after the
other what each of them finds alone. -/
theorem check_cutoffs (earlier : List Analyzer) (ctx : Context) (d : Direction)
    (perType perNamespace : Nat) :
    let found := fun (limit : Nat) (rule : Isolation) =>
      ((check (ctx.withCutoffs perType limit) d rule).cached.run (cacheAfter earlier)).1
    (∀ rule, found perNamespace rule = (uncut ctx d perType rule).take perNamespace) ∧
      (∀ rule t, (offences ctx rule d t).Pairwise fun a b => compare a b = .lt) ∧
      (0 < perType → 0 < perNamespace → ∀ rule, found perNamespace rule = [] ↔
        ∀ t ∈ ctx.typesUnderTest, rule.selects d t.name.space = true →
          ∀ r, t.RefersTo ctx.options.rootTypes r → r.owner = t.owner →
            rule.offends d r.name.space = false) ∧
      (∀ larger, perNamespace ≤ larger →
        ∀ rule, found perNamespace rule <+: found larger rule) ∧
      ∀ rules, ((checkAll (ctx.withCutoffs perType perNamespace) d rules).cached.run
        (cacheAfter earlier)).1 = rules.flatMap (found perNamespace) := by
  intro found
  have alone : ∀ limit rule, found limit rule =
      (check (ctx.withCutoffs perType limit) d rule).value :=
    fun limit rule => cached_run_cacheAfter earlier _
  refine ⟨?_, offences_pairwise ctx d, ?_, ?_, ?_⟩
  · intro rule
    rw [alone, check_withCutoffs]
  · intro typeOpen ruleOpen rule
    have clean := @check_eq_nil_iff (ctx.withCutoffs perType perNamespace) rule d typeOpen ruleOpen
    simp only [offences_eq_nil_iff] at clean
    rw [alone]
    exact clean
  · intro larger raised rule
    rw [alone, alone, check_withCutoffs, check_withCutoffs]
    exact List.take_prefix_take_left raised
  · intro rules
    rw [cached_run_cacheAfter, checkAll_value, funext (alone perNamespace)]

end Isolation

end Architecture
