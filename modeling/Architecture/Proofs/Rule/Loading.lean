import Architecture.Proofs.Analyzer.Agreement
import Architecture.Proofs.Hierarchy.LoadingOrder
import Architecture.Proofs.Rule.Isolation
import Architecture.Proofs.Rule.Lookups

/-!
# Rules on modules loaded in another order

In contexts with the same lookups every rule judges a type or module alike, so what it
finds is moved about with the types and modules. A rule on a namespace stops at its
cut-off, and which violations it then leaves out depends on the order: below the cut-off
it leaves out none.
-/

namespace Architecture

open ModuleDescriptor

/-- Contexts that look up the same types and differ in the order of what they test. -/
structure Context.Reloaded (ctx other : Context) : Prop where
  lookups : ctx.index.SameLookups other.index
  modulesUnderTest : Rearranged ctx.modulesUnderTest other.modulesUnderTest
  options : ctx.options = other.options
  heuristic : ctx.heuristic = other.heuristic

namespace Context.Reloaded

variable {ctx other : Context}

theorem typesUnderTest (reloaded : ctx.Reloaded other) :
    ctx.typesUnderTest.Perm other.typesUnderTest :=
  reloaded.modulesUnderTest.types_perm

theorem agreesOn (reloaded : ctx.Reloaded other) : ctx.AgreesOn (fun _ => True) other where
  index := reloaded.lookups.agreesOn
  options := reloaded.options
  heuristic := reloaded.heuristic

theorem applicable (reloaded : ctx.Reloaded other) (target : TypeName) :
    (ctx.applicable target).Perm (other.applicable target) := by
  have assignable : ∀ t, ctx.index.isAssignable t target = other.index.isAssignable t target :=
    fun t => reloaded.lookups.agreesOn.isAssignable_eq t.within_true target
  simp only [Context.applicable, assignable]
  exact reloaded.typesUnderTest.filter _

end Context.Reloaded

section Families

variable {ctx other : Context}

theorem Isolation.check_perm (reloaded : ctx.Reloaded other) (d : Direction) (rule : Isolation)
    (below : (check ctx d rule).value.length < ctx.options.perNamespaceCutoff) :
    (check ctx d rule).value.Perm (check other d rule).value := by
  have contribution : rule.contribution ctx d = rule.contribution other d := by
    funext t
    rw [Isolation.contribution, Isolation.contribution, offences, offences, reloaded.options]
  have selected := reloaded.typesUnderTest.filter fun t => rule.selects d t.name.space
  have permuted := selected.flatMap_right (rule.contribution other d)
  rw [check_value, contribution, List.length_take] at below
  rw [check_value, check_value, contribution, ← reloaded.options]
  -- Fewer violations than the cut-off means that nothing was cut off, on either side.
  have sameLength := permuted.length_eq
  rw [List.take_of_length_le (by omega), List.take_of_length_le (by omega)]
  exact permuted

theorem ForbiddenModule.check_perm (reloaded : ctx.Reloaded other) (patterns : List Pattern) :
    (check ctx patterns).Perm (check other patterns) := by
  refine reloaded.modulesUnderTest.flatMap_perm ?_
  intro m again same
  have sameViolation : violation m = violation again := by
    funext r
    rw [violation, violation, same.name]
  rw [same.references, sameViolation]

theorem Solution.check_perm (reloaded : ctx.Reloaded other) (s : Solution) :
    (s.check ctx).Perm (s.check other) := by
  refine reloaded.modulesUnderTest.flatMap_perm ?_
  intro m again same
  have sameMessage : message m = message again := by
    funext r stance
    cases stance <;> simp only [message, same.name]
  rw [checkModule, checkModule, same.name, same.references, sameMessage]

theorem UsedOnly.check_perm (reloaded : ctx.Reloaded other) (rules : List UsedOnly) :
    (check ctx rules).value.Perm (check other rules).value := by
  have perType : ∀ t, (checkType ctx rules t).value = (checkType other rules t).value :=
    fun t => checkType_eq_of_agreesOn reloaded.agreesOn (fun _ _ => trivial) t.within_true
  simp only [check, Inquiry.value_bind, Inquiry.value_mapM, Inquiry.value_pure, perType]
  exact ((reloaded.typesUnderTest.filter _).map _).flatten

theorem TypeShape.check_perm (reloaded : ctx.Reloaded other) (shapes : List TypeShape) :
    (check ctx shapes).Perm (check other shapes) := by
  refine List.Perm.flatMap_left shapes ?_
  intro s _
  exact (reloaded.applicable s.target).flatMap_right _

theorem MethodMarker.check_perm (reloaded : ctx.Reloaded other) (rules : List MethodMarker) :
    (check ctx rules).Perm (check other rules) := by
  refine List.Perm.flatMap_left rules ?_
  intro rule _
  have perType : checkType ctx rule = checkType other rule :=
    funext fun t => checkType_eq_of_agreesOn reloaded.agreesOn rule t.within_true
  rw [perType]
  exact (reloaded.applicable rule.target).flatMap_right _

end Families

namespace Rule

/-- No entry on a namespace finds as many violations as it may. -/
def BelowCutoff (ctx : Context) : Rule → Prop
  | .isolations d rules => ∀ rule ∈ rules,
      (Isolation.check ctx d rule).value.length < ctx.options.perNamespaceCutoff
  | _ => True

theorem validator_matches_of_reloaded {ctx other : Context} (reloaded : ctx.Reloaded other)
    (rule : Rule) (below : rule.BelowCutoff ctx) :
    Validator.Matches ctx other rule.validator rule.validator where
  kind := rfl
  findings := by
    cases rule with
    | isolations d rules =>
        simp only [Validator.findings, validator, check, Isolation.checkAll_value]
        exact List.Perm.flatMap_left rules fun rule member =>
          Isolation.check_perm reloaded d rule (below rule member)
    | forbiddenModules patterns => exact ForbiddenModule.check_perm reloaded patterns
    | solution s => exact Solution.check_perm reloaded s
    | usedOnly rules => exact UsedOnly.check_perm reloaded rules
    | shapes rules => exact TypeShape.check_perm reloaded rules
    | methodMarkers rules => exact MethodMarker.check_perm reloaded rules

end Rule

end Architecture
