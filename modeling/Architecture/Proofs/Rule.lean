import Architecture.Proofs.Inquiry
import Architecture.Rule

/-!
# What the built-in rules find

Every violation that a rule finds is of the rule's own kind, and no rule looks at
the limit of violations, which only the evaluation as a whole obeys.
-/

namespace Architecture

/-- The same context under another limit of violations. -/
def Context.withLimit (ctx : Context) (limit : Nat) : Context :=
  { ctx with options := { ctx.options with maxViolations := limit } }

/-- The validator finds the same under every limit of violations. -/
def Validator.IgnoresLimit (v : Validator) : Prop :=
  ∀ (ctx : Context) (limit : Nat), v.check (ctx.withLimit limit) = v.check ctx

theorem Isolation.kind_of_mem_scan (ctx : Context) (rule : Isolation) (d : Direction)
    (found : Nat) (types : List TypeDescriptor) :
    ∀ v ∈ (rule.scan ctx d found types).value, v.kind = (info d).kind := by
  induction types generalizing found with
  | nil => simp [scan]
  | cons t rest inductionHypothesis =>
      intro v member
      simp only [scan, Inquiry.value_bind] at member
      split at member
      next =>
        rcases List.mem_map.mp member with ⟨r, _, rfl⟩
        rfl
      next =>
        simp only [Inquiry.value_bind, Inquiry.value_pure] at member
        rcases List.mem_append.mp member with here | later
        · rcases List.mem_map.mp here with ⟨r, _, rfl⟩
          rfl
        · exact inductionHypothesis _ v later

/-- A scan looks at nothing of its context but the references and the two cutoffs. -/
theorem Isolation.scan_congr {ctx other : Context} (references : ctx.references = other.references)
    (perType : ctx.options.perTypeCutoff = other.options.perTypeCutoff)
    (perNamespace : ctx.options.perNamespaceCutoff = other.options.perNamespaceCutoff)
    (rule : Isolation) (d : Direction) (found : Nat) (types : List TypeDescriptor) :
    rule.scan ctx d found types = rule.scan other d found types := by
  induction types generalizing found with
  | nil => rfl
  | cons t rest inductionHypothesis =>
      simp only [scan, inductionHypothesis, references, perType, perNamespace]

theorem Isolation.checkAll_value (ctx : Context) (d : Direction) (rules : List Isolation) :
    (checkAll ctx d rules).value = rules.flatMap fun rule => (check ctx d rule).value := by
  rw [checkAll, Inquiry.value_bind, Inquiry.value_mapM, Inquiry.value_pure, ← List.flatMap_def]

namespace Rule

theorem kind_of_mem_check (rule : Rule) (ctx : Context) :
    ∀ v ∈ (rule.check ctx).value, v.kind = rule.kind := by
  intro v member
  cases rule with
  | isolations d rules =>
      rw [check, Isolation.checkAll_value] at member
      rcases List.mem_flatMap.mp member with ⟨rule, _, member⟩
      exact Isolation.kind_of_mem_scan ctx rule d 0 _ v member
  | forbiddenModules patterns =>
      simp only [check, Inquiry.value_pure, ForbiddenModule.check, List.mem_flatMap,
        List.mem_map] at member
      rcases member with ⟨_, _, _, _, rfl⟩
      rfl
  | solution s =>
      simp only [check, Inquiry.value_pure, Solution.check, List.mem_flatMap] at member
      rcases member with ⟨m, _, member⟩
      unfold Solution.checkModule at member
      split at member
      next => simp at member
      next =>
        rcases List.mem_map.mp member with ⟨_, _, rfl⟩
        rfl
  | usedOnly rules =>
      simp only [check, UsedOnly.check, UsedOnly.checkType, Inquiry.value_bind,
        Inquiry.value_mapM, Inquiry.value_pure, List.mem_flatten, List.mem_map] at member
      rcases member with ⟨_, ⟨t, _, rfl⟩, member⟩
      rcases List.mem_filterMap.mp member with ⟨dependency, _, found⟩
      simp only [UsedOnly.checkEdge, Option.ite_none_left_eq_some, Option.some.injEq] at found
      rcases found with ⟨_, rfl⟩
      rfl
  | shapes rules =>
      simp only [check, Inquiry.value_pure, TypeShape.check, TypeShape.checkShape,
        List.mem_flatMap, List.mem_map] at member
      rcases member with ⟨_, _, _, _, _, _, rfl⟩
      rfl
  | methodMarkers rules =>
      simp only [check, Inquiry.value_pure, MethodMarker.check, List.mem_flatMap] at member
      rcases member with ⟨rule, _, t, _, member⟩
      unfold MethodMarker.checkType at member
      split at member
      next => simp at member
      next =>
        rcases List.mem_map.mp member with ⟨_, _, rfl⟩
        rfl

theorem ignoresLimit (rule : Rule) : rule.validator.IgnoresLimit := by
  intro ctx limit
  cases rule with
  | isolations d rules =>
      have checks : Isolation.check (ctx.withLimit limit) d = Isolation.check ctx d := by
        funext rule
        apply Isolation.scan_congr <;> rfl
      simp only [validator, check, Isolation.checkAll, checks]
  | forbiddenModules patterns => rfl
  | solution s => rfl
  | usedOnly rules => rfl
  | shapes rules => rfl
  | methodMarkers rules => rfl

end Rule

end Architecture
