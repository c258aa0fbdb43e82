import Architecture.Proofs.Plan.Content
import Architecture.RuleFile

/-!
# Rules from a file

The checks on a file refuse every entry that would come to nothing: an isolated namespace
without a direction, a shape without a constraint, a method without a marker. So each entry
that is left registers a step with content, and rules that were declared are evaluated.
-/

namespace Architecture.RuleFile

open Analyzer

/-- Items that pass their check do so one by one, each at some place. -/
theorem forall₂_of_eachFrom {α β : Type} {place : String}
    {check : String → α → Except LoadError β} {start : Nat} {xs : List α} {ys : List β}
    (checked : eachFrom place check start xs = .ok ys) :
    List.Forall₂ (fun x y => ∃ here, check here x = .ok y) xs ys := by
  induction xs generalizing start ys with
  | nil =>
      cases checked
      exact .nil
  | cons x rest inductionHypothesis =>
      simp only [eachFrom, bind_eq_ok_iff] at checked
      obtain ⟨first, checkedFirst, others, checkedOthers, made⟩ := checked
      cases made
      exact .cons ⟨_, checkedFirst⟩ (inductionHypothesis checkedOthers)

/-- Every entry says something. -/
structure Rules.Meaningful (r : Rules) : Prop where
  directed : ∀ e ∈ r.isolations, e.inbound = true ∨ e.outbound = true
  constrained : ∀ e ∈ r.shapes, e.isEmpty = false
  marked : ∀ e ∈ r.shapes, ∀ m ∈ e.methods, m.attributes ≠ []

section Entries

variable {place : String}

theorem directed_of_checkIsolation {d : IsolationDraft} {e : IsolationEntry}
    (checked : checkIsolation place d = .ok e) : e.inbound = true ∨ e.outbound = true := by
  simp only [checkIsolation, bind_eq_ok_iff] at checked
  obtain ⟨space, _, checked⟩ := checked
  split at checked
  next => cases checked
  next directed =>
    simp only [bind_eq_ok_iff] at checked
    obtain ⟨except, _, made⟩ := checked
    cases made
    cases inbound : d.inbound <;> simp_all

theorem marked_of_checkMethod {d : MethodDraft} {e : MethodEntry}
    (checked : checkMethod place d = .ok e) : e.attributes ≠ [] := by
  simp only [checkMethod, bind_eq_ok_iff] at checked
  obtain ⟨method, _, checked⟩ := checked
  split at checked
  next => cases checked
  next listed =>
    simp only [bind_eq_ok_iff] at checked
    obtain ⟨attributes, each, made⟩ := checked
    cases made
    have sameLength := (forall₂_of_eachFrom each).length_eq
    rw [← List.length_pos_iff, ← sameLength, List.length_pos_iff]
    simpa using listed

theorem constrained_of_checkShape [PatternNotation] {d : ShapeDraft} {e : ShapeEntry}
    (checked : checkShape place d = .ok e) :
    e.isEmpty = false ∧ ∀ m ∈ e.methods, m.attributes ≠ [] := by
  simp only [checkShape, bind_eq_ok_iff] at checked
  obtain ⟨target, _, access, _, name, _, space, _, suffix, _, methods, each, checked⟩ := checked
  split at checked
  next => cases checked
  next constrained =>
    cases checked
    refine ⟨by simpa using constrained, ?_⟩
    intro m member
    obtain ⟨_, _, _, checkedMethod⟩ := exists_left_of_forall₂ (forall₂_of_eachFrom each) member
    exact marked_of_checkMethod checkedMethod

end Entries

theorem meaningful_of_load [PatternNotation] [DataNotations] {text : String} {rules : Rules}
    (loaded : load text = .ok rules) :
    rules.Meaningful := by
  unfold load at loaded
  split at loaded
  next draft _ =>
    simp only [check, bind_eq_ok_iff] at loaded
    obtain ⟨isolations, eachIsolation, _, _, _, _, shapes, eachShape, _, _, made⟩ := loaded
    cases made
    refine ⟨?_, ?_, ?_⟩
    · intro e member
      rcases exists_left_of_forall₂ (forall₂_of_eachFrom eachIsolation) member with
        ⟨_, _, _, checked⟩
      exact directed_of_checkIsolation checked
    · intro e member
      obtain ⟨_, _, _, checked⟩ := exists_left_of_forall₂ (forall₂_of_eachFrom eachShape) member
      exact (constrained_of_checkShape checked).1
    · intro e member
      obtain ⟨_, _, _, checked⟩ := exists_left_of_forall₂ (forall₂_of_eachFrom eachShape) member
      exact (constrained_of_checkShape checked).2
  next => cases loaded

theorem IsolationEntry.asks_of_mem_registrations {e : IsolationEntry} {step : Registration}
    (member : step ∈ e.registrations) : step.Asks := by
  simp only [registrations, List.mem_append, List.mem_ite_nil_right, List.mem_singleton] at member
  rcases member with ⟨_, rfl⟩ | ⟨_, rfl⟩ <;> trivial

theorem IsolationEntry.registrations_ne_nil {e : IsolationEntry}
    (directed : e.inbound = true ∨ e.outbound = true) : e.registrations ≠ [] := by
  rcases directed with inbound | outbound
  · simp [registrations, inbound]
  · simp [registrations, outbound]

theorem PolicyEntry.asks_registration (e : PolicyEntry) : e.registration.Asks := by
  cases stance : e.policy.stance <;>
    simp [registration, Registration.Asks, SolutionEntry.list, SolutionEntry.policies, stance]

theorem ShapeEntry.asks_of_mem_constraints {e : ShapeEntry}
    (marked : ∀ m ∈ e.methods, m.attributes ≠ []) {c : Constraint} (member : c ∈ e.constraints) :
    c.Asks := by
  cases c with
  | method selector required =>
      simp only [constraints, List.mem_append, List.mem_map, Option.mem_toList, reduceCtorEq,
        and_false, exists_false, false_or, Constraint.method.injEq] at member
      obtain ⟨m, member, _, rfl⟩ := member
      simpa [Constraint.Asks] using marked m member
  | _ => trivial

theorem ShapeEntry.constraints_ne_nil {e : ShapeEntry} (constrained : e.isEmpty = false) :
    e.constraints ≠ [] := by
  intro none
  simp only [constraints, List.append_eq_nil_iff, List.map_eq_nil_iff, Option.toList_eq_nil_iff]
    at none
  simp [isEmpty, none] at constrained

namespace Rules.Meaningful

variable {rules : Rules}

theorem asks_of_mem_registrations (meaningful : rules.Meaningful) {step : Registration}
    (member : step ∈ rules.registrations) : step.Asks := by
  simp only [registrations, List.mem_append, List.mem_flatMap, List.mem_map] at member
  rcases member with
    (((⟨e, _, member⟩ | ⟨_, _, rfl⟩) | ⟨_, _, rfl⟩) | ⟨e, shape, rfl⟩) | ⟨e, _, rfl⟩
  · exact IsolationEntry.asks_of_mem_registrations member
  · trivial
  · trivial
  · obtain ⟨c, constraint⟩ :=
      List.exists_mem_of_ne_nil _ (ShapeEntry.constraints_ne_nil (meaningful.constrained e shape))
    exact ⟨c, constraint, ShapeEntry.asks_of_mem_constraints (meaningful.marked e shape) constraint⟩
  · exact e.asks_registration

theorem registrations_ne_nil (meaningful : rules.Meaningful) (declared : 0 < rules.count) :
    rules.registrations ≠ [] := by
  intro none
  simp only [registrations, List.append_eq_nil_iff, List.map_eq_nil_iff,
    List.flatMap_eq_nil_iff] at none
  obtain ⟨⟨⟨⟨isolations, forbiddenModules⟩, usedOnly⟩, shapes⟩, solution⟩ := none
  have noIsolations : rules.isolations = [] := by
    rw [List.eq_nil_iff_forall_not_mem]
    intro e member
    exact IsolationEntry.registrations_ne_nil (meaningful.directed e member) (isolations e member)
  simp [count, noIsolations, forbiddenModules, usedOnly, shapes, solution] at declared

end Rules.Meaningful

theorem registrations_of_count_eq_zero {rules : Rules} (none : rules.count = 0) :
    rules.registrations = [] := by
  simp only [Rules.count, Nat.add_eq_zero_iff, List.length_eq_zero_iff] at none
  simp [Rules.registrations, none]

/-- On a plan without other rules, an analyzer has a validator exactly when the file
declares a rule. -/
theorem validators_ne_nil_iff [PatternNotation] [DataNotations] {text : String} {rules : Rules}
    {plan : Plan} {a : Analyzer} (loaded : load text = .ok rules) (bare : plan.settings = plan)
    (built : (plan.registerAll rules.registrations).build = .ok a) :
    a.validators ≠ [] ↔ 0 < rules.count := by
  rw [Plan.validators_ne_nil_iff built]
  constructor
  · intro asks
    by_contra none
    rw [registrations_of_count_eq_zero (by omega), Plan.registerAll, List.foldl_nil, ← bare] at asks
    exact plan.not_asks_settings asks
  · intro declared
    have meaningful := meaningful_of_load loaded
    obtain ⟨step, member⟩ :=
      List.exists_mem_of_ne_nil _ (meaningful.registrations_ne_nil declared)
    exact Plan.asks_registerAll (.inr ⟨step, member, meaningful.asks_of_mem_registrations member⟩)

end Architecture.RuleFile
