import Architecture.Proofs.Analyzer.Agreement
import Architecture.Proofs.Rule.Relaxation
import Architecture.Proofs.Rule.Solution

/-!
# Rules in another order

A rule that holds several entries finds the same whatever their order. Where entries are
checked one by one, what they find is moved about with them. Where they are checked
together, as restrictions on one dependency or patterns for one module are, the outcome
depends on nothing but which entries there are.
-/

namespace Architecture

namespace Rule

/-- Rules that hold the same in another order. -/
inductive Reordered : Rule → Rule → Prop where
  | isolations {d : Direction} {rules others : List Isolation} : rules.Perm others →
      Reordered (.isolations d rules) (.isolations d others)
  | forbiddenModules {patterns others : List Pattern} : patterns.Perm others →
      Reordered (.forbiddenModules patterns) (.forbiddenModules others)
  | solution {s other : Solution} : s.Agrees other → Reordered (.solution s) (.solution other)
  | usedOnly {rules others : List UsedOnly} : rules.Perm others →
      Reordered (.usedOnly rules) (.usedOnly others)
  | shapes {rules others : List TypeShape} : rules.Perm others →
      Reordered (.shapes rules) (.shapes others)
  | methodMarkers {rules others : List MethodMarker} : rules.Perm others →
      Reordered (.methodMarkers rules) (.methodMarkers others)

namespace Reordered

variable {rule other : Rule}

theorem isEmpty_eq (reordered : Reordered rule other) : rule.isEmpty = other.isEmpty := by
  cases reordered with
  | solution agrees => exact agrees.isEmpty_eq
  | isolations permuted | forbiddenModules permuted | usedOnly permuted | shapes permuted
  | methodMarkers permuted => exact permuted.isEmpty_eq

theorem info_eq (reordered : Reordered rule other) : rule.info = other.info := by
  cases reordered <;> rfl

theorem findings_perm (reordered : Reordered rule other) (ctx : Context) :
    (rule.check ctx).value.Perm (other.check ctx).value := by
  cases reordered with
  | isolations permuted =>
      rw [check, check, Isolation.checkAll_value, Isolation.checkAll_value]
      exact permuted.flatMap_right _
  | forbiddenModules permuted =>
      simp only [check, Inquiry.value_pure, ForbiddenModule.check, permuted.any_eq]
      exact .refl _
  | solution agrees =>
      simp only [check, Inquiry.value_pure, Solution.check, funext agrees.checkModule_eq]
      exact .refl _
  | usedOnly permuted =>
      rw [check, check, UsedOnly.check_value_congr ctx fun rule => permuted.mem_iff]
  | shapes permuted => exact permuted.flatMap_right _
  | methodMarkers permuted => exact permuted.flatMap_right _

theorem validator_matches (reordered : Reordered rule other) (ctx : Context) :
    Validator.Matches ctx ctx rule.validator other.validator where
  kind := congrArg RuleInfo.kind reordered.info_eq
  findings := reordered.findings_perm ctx

end Reordered

end Rule

end Architecture
