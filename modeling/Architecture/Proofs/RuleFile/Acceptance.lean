import Architecture.Proofs.Plan.Registration
import Architecture.Proofs.RuleFile.Requirements
import Architecture.Standard

/-!
# Files of rules that are accepted

A file is accepted exactly when all its entries are valid. The rules that are taken from it
have trimmed names, and a plan can take over each of them: the patterns that a plan would
refuse have been read before.
-/

namespace Architecture

namespace RuleFile

open Text

/-! ### Valid entries -/

/-- The text is a pattern that can be read. -/
def IsReadable [PatternNotation] (pattern : String) : Prop :=
    (Pattern.compile? pattern).isSome = true

@[mk_iff]
structure IsolationDraft.Valid (d : IsolationDraft) : Prop where
  space : NotBlank d.space
  directed : d.inbound = true ∨ d.outbound = true
  except : ∀ name ∈ d.except, NotBlank name

@[mk_iff]
structure UsedOnlyDraft.Valid (d : UsedOnlyDraft) : Prop where
  target : NotBlank d.target
  allowed : ∀ name ∈ d.allowed, NotBlank name

@[mk_iff]
structure MethodDraft.Valid (d : MethodDraft) : Prop where
  method : NotBlank d.method
  marked : d.attributes ≠ []
  attributes : ∀ name ∈ d.attributes, NotBlank name

@[mk_iff]
structure ShapeDraft.Valid [PatternNotation] (d : ShapeDraft) : Prop where
  target : NotBlank d.target
  access : ∀ level ∈ d.access, (AccessLevel.parse? level).isSome = true
  name : ∀ pattern ∈ d.name, IsReadable pattern
  space : ∀ pattern ∈ d.space, IsReadable pattern
  nameEndsWith : ∀ suffix ∈ d.nameEndsWith, NotBlank suffix
  methods : ∀ m ∈ d.methods, m.Valid
  constrained : d.record ≠ none ∨ d.access ≠ [] ∨ d.name ≠ none ∨ d.nameEndsWith ≠ none ∨
    d.space ≠ none ∨ d.methods ≠ []

@[mk_iff]
structure SolutionDraft.Valid (d : SolutionDraft) : Prop where
  name : NotBlank d.name
  unambiguous : d.allow ≠ none ∧ d.forbid = none ∨ d.allow = none ∧ d.forbid ≠ none
  allow : ∀ names ∈ d.allow, ∀ name ∈ names, NotBlank name
  forbid : ∀ names ∈ d.forbid, ∀ name ∈ names, NotBlank name

@[mk_iff]
structure Draft.Valid [PatternNotation] (d : Draft) : Prop where
  isolations : ∀ e ∈ d.isolations, e.Valid
  forbiddenModules : ∀ pattern ∈ d.forbiddenModules, IsReadable pattern
  usedOnly : ∀ e ∈ d.usedOnly, e.Valid
  shapes : ∀ e ∈ d.shapes, e.Valid
  solution : ∀ e ∈ d.solution, e.Valid

section Met

variable (place : String)

theorem IsolationDraft.met_iff (d : IsolationDraft) :
    (∀ r ∈ d.requirements place, r.met = true) ↔ d.Valid := by
  simp only [requirements, List.forall_mem_cons, forall_met_allNamed_iff, named,
    decide_eq_true_eq, Bool.or_eq_true, valid_iff]

theorem UsedOnlyDraft.met_iff (d : UsedOnlyDraft) :
    (∀ r ∈ d.requirements place, r.met = true) ↔ d.Valid := by
  simp only [requirements, List.forall_mem_cons, forall_met_allNamed_iff, named,
    decide_eq_true_eq, valid_iff]

theorem MethodDraft.met_iff (d : MethodDraft) :
    (∀ r ∈ d.requirements place, r.met = true) ↔ d.Valid := by
  simp only [requirements, List.forall_mem_cons, forall_met_allNamed_iff, named,
    decide_eq_true_eq, Bool.not_eq_true', List.isEmpty_eq_false_iff, valid_iff, ne_eq]

theorem ShapeDraft.constrains_iff (d : ShapeDraft) :
    d.constrains = true ↔ d.record ≠ none ∨ d.access ≠ [] ∨ d.name ≠ none ∨
      d.nameEndsWith ≠ none ∨ d.space ≠ none ∨ d.methods ≠ [] := by
  simp [constrains, Option.isSome_iff_ne_none, or_assoc]

theorem ShapeDraft.met_iff [PatternNotation] (d : ShapeDraft) :
    (∀ r ∈ d.requirements place, r.met = true) ↔ d.Valid := by
  simp only [requirements, List.forall_mem_cons, List.forall_mem_append, List.forall_mem_map,
    List.not_mem_nil, false_implies, implies_true, and_true, Option.mem_toList, Option.mem_def,
    forall_met_access_iff, forall_met_numbered_iff MethodDraft.met_iff, named, readable,
    decide_eq_true_eq, constrains_iff, and_assoc, valid_iff, IsReadable]

theorem SolutionDraft.met_iff (d : SolutionDraft) :
    (∀ r ∈ d.requirements place, r.met = true) ↔ d.Valid := by
  simp only [requirements, List.forall_mem_cons, List.forall_mem_append, forall_met_allNamed_iff,
    named, decide_eq_true_eq, valid_iff]
  cases d.allow <;> cases d.forbid <;> simp

end Met

theorem Draft.met_iff [PatternNotation] (d : Draft) :
    (∀ r ∈ d.requirements, r.met = true) ↔ d.Valid := by
  have readable_iff : ∀ here pattern,
      (∀ r ∈ [readable (here ++ ".pattern") pattern], r.met = true) ↔ IsReadable pattern := by
    simp [readable, IsReadable]
  simp only [requirements, List.forall_mem_append, forall_met_numbered_iff IsolationDraft.met_iff,
    forall_met_numbered_iff readable_iff, forall_met_numbered_iff UsedOnlyDraft.met_iff,
    forall_met_numbered_iff (ShapeDraft.met_iff ·), forall_met_numbered_iff SolutionDraft.met_iff,
    and_assoc, valid_iff]

/-! ### Names -/

def IsolationEntry.names (e : IsolationEntry) : List String := e.space :: e.except

def UsedOnlyEntry.names (e : UsedOnlyEntry) : List String := e.target :: e.allowed

def MethodEntry.names (e : MethodEntry) : List String := e.method :: e.attributes

def ShapeEntry.names (e : ShapeEntry) : List String :=
  e.target :: (e.nameEndsWith.toList ++ e.methods.flatMap (·.names))

def PolicyEntry.names (e : PolicyEntry) : List String := e.name :: e.policy.names

/-- All names in the rules. Patterns are not among them. -/
def Rules.names (rules : Rules) : List String :=
  rules.isolations.flatMap (·.names) ++ rules.usedOnly.flatMap (·.names) ++
    rules.shapes.flatMap (·.names) ++ rules.solution.flatMap (·.names)

theorem isTrimmed_of_mem_map_trim {names : List String} (visible : ∀ name ∈ names, NotBlank name) :
    ∀ name ∈ names.map trim, IsTrimmed name :=
  List.forall_mem_map.mpr fun name member => isTrimmed_trim (visible name member)

theorem IsolationDraft.Valid.isTrimmed {d : IsolationDraft} (valid : d.Valid) :
    ∀ name ∈ d.entry.names, IsTrimmed name :=
  List.forall_mem_cons.mpr ⟨isTrimmed_trim valid.space, isTrimmed_of_mem_map_trim valid.except⟩

theorem UsedOnlyDraft.Valid.isTrimmed {d : UsedOnlyDraft} (valid : d.Valid) :
    ∀ name ∈ d.entry.names, IsTrimmed name :=
  List.forall_mem_cons.mpr ⟨isTrimmed_trim valid.target, isTrimmed_of_mem_map_trim valid.allowed⟩

theorem MethodDraft.Valid.isTrimmed {d : MethodDraft} (valid : d.Valid) :
    ∀ name ∈ d.entry.names, IsTrimmed name :=
  List.forall_mem_cons.mpr
    ⟨isTrimmed_trim valid.method, isTrimmed_of_mem_map_trim valid.attributes⟩

/-- Entries that have trimmed names have trimmed names together. -/
theorem isTrimmed_of_mem_flatMap {α β : Type} {valid : α → Prop} {entry : α → β}
    {names : β → List String} (each : ∀ {a}, valid a → ∀ name ∈ names (entry a), IsTrimmed name)
    {xs : List α} (allValid : ∀ a ∈ xs, valid a) :
    ∀ name ∈ (xs.map entry).flatMap names, IsTrimmed name := by
  intro name member
  rw [List.flatMap_map, List.mem_flatMap] at member
  obtain ⟨a, listed, member⟩ := member
  exact each (allValid a listed) name member

theorem ShapeDraft.Valid.isTrimmed [PatternNotation] {d : ShapeDraft} (valid : d.Valid) :
    ∀ name ∈ d.entry.names, IsTrimmed name := by
  refine List.forall_mem_cons.mpr ⟨isTrimmed_trim valid.target, ?_⟩
  refine List.forall_mem_append.mpr ⟨?_, ?_⟩
  · simp only [entry, Option.toList_map]
    refine isTrimmed_of_mem_map_trim ?_
    intro name member
    exact valid.nameEndsWith name (Option.mem_toList.mp member)
  · exact isTrimmed_of_mem_flatMap MethodDraft.Valid.isTrimmed valid.methods

theorem SolutionDraft.Valid.isTrimmed {d : SolutionDraft} (valid : d.Valid) :
    ∀ name ∈ d.entry.names, IsTrimmed name := by
  refine List.forall_mem_cons.mpr ⟨isTrimmed_trim valid.name, ?_⟩
  cases allow : d.allow with
  | some names =>
      simp only [entry, allow, mem_sortedDistinct]
      exact isTrimmed_of_mem_map_trim (valid.allow names allow)
  | none =>
      simp only [entry, allow, mem_sortedDistinct]
      cases forbid : d.forbid with
      | some names => exact isTrimmed_of_mem_map_trim (valid.forbid names forbid)
      | none => exact isTrimmed_of_mem_map_trim (by simp)

theorem Draft.Valid.isTrimmed [PatternNotation] {d : Draft} (valid : d.Valid) :
    ∀ name ∈ d.rules.names, IsTrimmed name := by
  simp only [Rules.names, List.forall_mem_append]
  exact ⟨⟨⟨isTrimmed_of_mem_flatMap IsolationDraft.Valid.isTrimmed valid.isolations,
    isTrimmed_of_mem_flatMap UsedOnlyDraft.Valid.isTrimmed valid.usedOnly⟩,
    isTrimmed_of_mem_flatMap ShapeDraft.Valid.isTrimmed valid.shapes⟩,
    isTrimmed_of_mem_flatMap SolutionDraft.Valid.isTrimmed valid.solution⟩

end RuleFile

/-! ### Registration -/

def Constraint.pattern? : Constraint → Option String
  | .nameMatches pattern | .namespaceMatches pattern => some pattern
  | _ => none

/-- The patterns that a plan has to read for a step. -/
def Registration.patterns : Registration → List String
  | .forbidModule pattern => [pattern]
  | .type _ constraints => constraints.filterMap (·.pattern?)
  | _ => []

open RuleFile

section Reading

variable [PatternNotation]

theorem exists_compilePattern_eq_ok {pattern : String} (readable : IsReadable pattern) :
    ∃ compiled, compilePattern pattern = .ok compiled := by
  rcases Option.isSome_iff_exists.mp readable with ⟨compiled, found⟩
  exact ⟨compiled, by simp only [compilePattern, found]⟩

theorem TypeRule.errors_constrain (rule : TypeRule) {c : Constraint}
    (readable : ∀ pattern ∈ c.pattern?, IsReadable pattern) :
    (rule.constrain c).errors = rule.errors := by
  cases c with
  | nameMatches text | namespaceMatches text =>
      rcases exists_compilePattern_eq_ok (readable text rfl) with ⟨compiled, found⟩
      simp [constrain, found]
  | record | nameEndsWith | access | method => rfl

theorem TypeRule.errors_foldl_constrain (rule : TypeRule) {constraints : List Constraint}
    (readable : ∀ c ∈ constraints, ∀ pattern ∈ c.pattern?, IsReadable pattern) :
    (constraints.foldl constrain rule).errors = rule.errors := by
  induction constraints generalizing rule with
  | nil => rfl
  | cons c rest inductionHypothesis =>
      rw [List.forall_mem_cons] at readable
      rw [List.foldl_cons, inductionHypothesis _ readable.2, errors_constrain rule readable.1]

theorem Registration.errors_alone {step : Registration}
    (readable : ∀ pattern ∈ step.patterns, IsReadable pattern) : step.alone.errors = [] := by
  cases step with
  | isolation direction rule => cases direction <;> rfl
  | forbidModule text =>
      rcases exists_compilePattern_eq_ok (readable text (List.mem_singleton_self text)) with
        ⟨compiled, found⟩
      simp [alone, Plan.register, found]
  | type target constraints =>
      refine TypeRule.errors_foldl_constrain { shape := { target } } ?_
      intro c member pattern asked
      exact readable pattern (List.mem_filterMap.mpr ⟨c, member, asked⟩)
  | module | referenceModule | options | usedOnly | solutionModule => rfl

/-- A plan that can read all patterns has nothing to refuse. -/
theorem Plan.errors_registerAll (plan : Plan) {steps : List Registration}
    (readable : ∀ step ∈ steps, ∀ pattern ∈ step.patterns, IsReadable pattern) :
    (plan.registerAll steps).errors = plan.errors := by
  have none : (steps.flatMap fun step => step.alone.errors) = [] :=
    List.flatMap_eq_nil_iff.mpr fun step member =>
      Registration.errors_alone (readable step member)
  rw [Plan.accumulates_errors.registerAll plan steps, none, List.append_nil]

end Reading

namespace RuleFile

open Text

theorem ShapeDraft.Valid.isReadable [PatternNotation] {d : ShapeDraft} (valid : d.Valid) :
    ∀ pattern ∈ d.entry.registration.patterns, IsReadable pattern := by
  intro pattern member
  simp only [ShapeEntry.registration, Registration.patterns, List.mem_filterMap] at member
  obtain ⟨c, member, asked⟩ := member
  simp only [ShapeEntry.constraints, List.mem_append, List.mem_map, Option.mem_toList] at member
  rcases member with
    ((((⟨_, _, rfl⟩ | ⟨_, _, rfl⟩) | ⟨_, given, rfl⟩) | ⟨_, _, rfl⟩) |
      ⟨_, given, rfl⟩) | ⟨_, _, rfl⟩ <;> cases asked
  · exact valid.name pattern given
  · exact valid.space pattern given

theorem Draft.Valid.isReadable [PatternNotation] {d : Draft} (valid : d.Valid) :
    ∀ step ∈ d.rules.registrations, ∀ pattern ∈ step.patterns, IsReadable pattern := by
  simp only [Rules.registrations, List.forall_mem_append, List.forall_mem_map]
  refine ⟨⟨⟨⟨?_, ?_⟩, ?_⟩, ?_⟩, ?_⟩
  · intro step member
    simp only [List.mem_flatMap, IsolationEntry.registrations, List.mem_append,
      List.mem_ite_nil_right, List.mem_singleton] at member
    rcases member with ⟨_, _, ⟨_, rfl⟩ | ⟨_, rfl⟩⟩ <;> simp [Registration.patterns]
  · intro pattern member
    exact List.forall_mem_singleton.mpr (valid.forbiddenModules pattern member)
  · intro e _
    simp [UsedOnlyEntry.registration, Registration.patterns]
  · simp only [Draft.rules, List.forall_mem_map]
    intro e member
    exact (valid.shapes e member).isReadable
  · intro e _
    simp [PolicyEntry.registration, Registration.patterns]

/-! ### Loading -/

theorem Requirement.place?_error (r : Requirement) : r.error.place? = some r.place := by
  unfold error
  cases r.fault <;> rfl

/-- A file is accepted exactly when it is valid. Otherwise the first requirement that is not met
is reported, with its place; and the rules of a file that is accepted have trimmed names and
make no plan refuse a pattern. -/
theorem check_accepts_exactly [PatternNotation] (d : Draft) :
    ((∃ rules, check d = .ok rules) ↔ d.Valid) ∧
      (∀ error, check d = .error error ↔
        ∃ r, IsFirst (fun r => r.met = false) d.requirements r ∧ r.error = error ∧
          error.place? = some r.place) ∧
      ∀ rules, check d = .ok rules →
        rules = d.rules ∧ (∀ name ∈ rules.names, IsTrimmed name) ∧
          ∀ plan : Plan, (plan.registerAll rules.registrations).errors = plan.errors := by
  simp only [check_eq, outcome_eq_ok_iff, Draft.met_iff]
  refine ⟨by simp, fun error => ?_, ?_⟩
  · rw [outcome_eq_error_iff]
    constructor
    · rintro ⟨r, first, rfl⟩
      exact ⟨r, first, rfl, r.place?_error⟩
    · rintro ⟨r, first, reported, _⟩
      exact ⟨r, first, reported⟩
  · rintro rules ⟨valid, rfl⟩
    exact ⟨rfl, valid.isTrimmed, fun plan => plan.errors_registerAll valid.isReadable⟩

def ordersDraft : Draft where
  isolations := [{ space := " App.Orders ", outbound := false, except := ["App.Shared "] }]
  forbiddenModules := ["^Legacy"]
  usedOnly := [{ target := "App.Order" }]
  shapes := [{
    target := "App.Command"
    access := ["PUBLIC"]
    name := some "Command$"
    nameEndsWith := some " Command" }]
  solution := [{ name := "App", allow := some [" Core"] }]

open scoped Standard

theorem check_accepts_exactly_ordersDraft :
    check ordersDraft = .ok ordersDraft.rules ∧
      ordersDraft.rules.names =
        ["App.Orders", "App.Shared", "App.Order", "App.Command", "Command", "App", "Core"] ∧
      (({} : Plan).registerAll ordersDraft.rules.registrations).errors = [] := by
  have valid : ordersDraft.Valid := (Draft.met_iff ordersDraft).mp (by decide +kernel)
  rcases check_accepts_exactly ordersDraft with ⟨accepted, _, taken⟩
  rcases accepted.mpr valid with ⟨rules, checked⟩
  rcases taken rules checked with ⟨rfl, _, noErrors⟩
  exact ⟨checked, by decide +kernel, noErrors {}⟩

-- The unknown level stands before the entry without a policy.
example :
    check { ordersDraft with
      shapes := [{ target := "App.Command", access := ["internal", "friend"] }]
      solution := [{ name := "App" }] } =
    .error (.unknownAccess "type-shape[0].access[1]" "friend") := by decide +kernel

end RuleFile

end Architecture
