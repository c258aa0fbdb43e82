import Architecture.Proofs.Analyzer.Kinds
import Architecture.Proofs.Hierarchy.Lookups

/-!
# What rules look up

Rules on namespaces and modules read the modules under test and look up nothing. The other
rules walk through the hierarchy from the types under test, from the types that these
refer to and from their own targets. Where two contexts test the same modules and agree on
the names that can be met on the way, every rule finds the same in both.
-/

namespace Architecture

/-- Contexts that look up known names alike, under the same options. -/
structure Context.AgreesOn (known : TypeName → Prop) (ctx other : Context) : Prop where
  index : ctx.index.AgreesOn known other.index
  options : ctx.options = other.options
  heuristic : ctx.heuristic = other.heuristic

section Types

variable {known : TypeName → Prop} {ctx other : Context} {t : TypeDescriptor}

theorem Context.AgreesOn.isGenerated_eq (agrees : ctx.AgreesOn known other)
    (within : t.Within known) : ctx.isGenerated t = other.isGenerated t := by
  rw [isGenerated, isGenerated, GeneratedHeuristic.isGenerated, GeneratedHeuristic.isGenerated,
    agrees.heuristic, agrees.index.enclosingChain_eq within]

theorem UsedOnly.checkEdge_eq_of_agreesOn (agrees : ctx.AgreesOn known other)
    {rules : List UsedOnly} (targets : ∀ rule ∈ rules, known rule.target)
    (within : t.Within known) {dependency : TypeKey} (isKnown : known dependency.name) :
    checkEdge ctx rules t dependency = checkEdge other rules t dependency := by
  have covering : rules.filter (covers ctx.index dependency) =
      rules.filter (covers other.index dependency) := by
    apply List.filter_congr
    intro rule member
    rw [covers, covers, agrees.index.isInterface_eq (targets rule member),
      agrees.index.isKeyAssignable_eq isKnown]
  have assignable : ctx.index.isAssignable t = other.index.isAssignable t :=
    funext (agrees.index.isAssignable_eq within)
  have bound : binding ctx rules t dependency = binding other rules t dependency := by
    unfold binding
    rw [covering, agrees.isGenerated_eq within]
  unfold checkEdge
  rw [bound, assignable]

theorem UsedOnly.checkType_eq_of_agreesOn (agrees : ctx.AgreesOn known other)
    {rules : List UsedOnly} (targets : ∀ rule ∈ rules, known rule.target)
    (within : t.Within known) :
    (checkType ctx rules t).value = (checkType other rules t).value := by
  simp only [checkType, Inquiry.value_bind, Inquiry.value_pure, Context.references, agrees.options]
  apply List.filterMap_congr
  intro dependency member
  apply checkEdge_eq_of_agreesOn agrees targets within
  rcases List.mem_append.mp member with external | internal
  · exact within.of_refersTo (TypeDescriptor.mem_external_iff.mp external).1
  · exact within.of_refersTo (TypeDescriptor.mem_internal_iff.mp internal).1

theorem MethodMarker.checkType_eq_of_agreesOn (agrees : ctx.AgreesOn known other)
    (rule : MethodMarker) (within : t.Within known) :
    checkType ctx rule t = checkType other rule t := by
  rw [checkType, checkType, subject?, subject?, agrees.index.implementingMethod?_eq within,
    agrees.index.inheritedMethod?_eq within]

end Types

section Rules

variable {known : TypeName → Prop} {ctx other : Context}

theorem Isolation.check_eq (sameModules : ctx.modulesUnderTest = other.modulesUnderTest)
    (sameOptions : ctx.options = other.options) : Isolation.check ctx = Isolation.check other := by
  funext d rule
  rw [check, check, Context.typesUnderTest, Context.typesUnderTest, sameModules]
  apply scan_congr
  · funext t
    rw [Context.references, Context.references, sameOptions]
  · rw [sameOptions]
  · rw [sameOptions]

theorem Context.AgreesOn.applicable_eq (agrees : ctx.AgreesOn known other)
    (sameModules : ctx.modulesUnderTest = other.modulesUnderTest)
    (within : ∀ t ∈ ctx.typesUnderTest, t.Within known) (target : TypeName) :
    ctx.applicable target = other.applicable target := by
  rw [applicable, applicable, typesUnderTest, typesUnderTest, ← sameModules]
  apply List.filter_congr
  intro t member
  rw [agrees.index.isAssignable_eq (within t member)]

namespace Rule

/-- Rules on namespaces and modules look at the modules under test alone. -/
theorem findings_eq_of_early {rule : Rule} (early : rule.kind ∈ Analyzer.earlyKinds)
    (sameModules : ctx.modulesUnderTest = other.modulesUnderTest)
    (sameOptions : ctx.options = other.options) :
    rule.validator.findings ctx = rule.validator.findings other := by
  cases rule with
  | isolations d rules =>
      simp only [Validator.findings, validator, check, Isolation.checkAll,
        Isolation.check_eq sameModules sameOptions]
  | forbiddenModules patterns =>
      simp only [Validator.findings, validator, check, ForbiddenModule.check, sameModules]
  | solution s => simp only [Validator.findings, validator, check, Solution.check, sameModules]
  | usedOnly | shapes | methodMarkers =>
      simp [kind, info, UsedOnly.info, TypeShape.info, MethodMarker.info,
        Analyzer.earlyKinds] at early

/-- The names that the rule looks up whatever is tested. -/
def targets : Rule → List TypeName
  | .usedOnly rules => rules.map (·.target)
  | _ => []

theorem findings_eq_of_agreesOn (agrees : ctx.AgreesOn known other)
    (sameModules : ctx.modulesUnderTest = other.modulesUnderTest)
    (within : ∀ t ∈ ctx.typesUnderTest, t.Within known) {rule : Rule}
    (targetsKnown : ∀ n ∈ rule.targets, known n) :
    rule.validator.findings ctx = rule.validator.findings other := by
  cases rule with
  | isolations d rules =>
      apply findings_eq_of_early _ sameModules agrees.options
      cases d <;> exact .head _
  | forbiddenModules | solution =>
      exact findings_eq_of_early (.tail _ (.head _)) sameModules agrees.options
  | usedOnly rules =>
      simp only [Validator.findings, validator, check, UsedOnly.check, Inquiry.value_bind,
        Inquiry.value_mapM, Inquiry.value_pure, Context.typesUnderTest, ← sameModules]
      refine congrArg List.flatten (List.map_congr_left ?_)
      intro t member
      apply UsedOnly.checkType_eq_of_agreesOn agrees
      · exact fun rule isRule => targetsKnown _ (List.mem_map_of_mem isRule)
      · exact within t (List.mem_of_mem_filter member)
  | shapes rules =>
      simp only [Validator.findings, validator, check, TypeShape.check, Inquiry.value_pure]
      apply List.flatMap_congr
      intro s _
      rw [TypeShape.checkShape, TypeShape.checkShape, agrees.applicable_eq sameModules within]
  | methodMarkers rules =>
      simp only [Validator.findings, validator, check, MethodMarker.check, Inquiry.value_pure]
      apply List.flatMap_congr
      intro rule _
      rw [← agrees.applicable_eq sameModules within]
      apply List.flatMap_congr
      intro t member
      exact MethodMarker.checkType_eq_of_agreesOn agrees rule
        (within t (List.mem_of_mem_filter member))

end Rule

end Rules

end Architecture
