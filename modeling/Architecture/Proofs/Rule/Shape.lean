import Architecture.Proofs.Hierarchy.Instantiation
import Architecture.Rule.Shape
import Mathlib.Data.List.Basic
import Mathlib.Data.List.Flatten

/-!
# Shapes of types

A shape asks a type for up to five things, and each that is missing gives a violation of its
own. The types in question are those under test that derive from the target in any number of
steps. They are looked for by the walk through the supertypes, which follows up one reference
of each name: what the shape asks of a type that is reached through another reference of the
name only is not checked.
-/

namespace Architecture

section Lists

variable {α β : Type} {f g : α → List β} {xs : List α}

/-- Parts that may lack something make up the same list only if none of them does. -/
theorem flatMap_eq_flatMap_iff (parts : ∀ x ∈ xs, (f x).Sublist (g x)) :
    xs.flatMap f = xs.flatMap g ↔ ∀ x ∈ xs, f x = g x := by
  constructor
  · intro same
    induction xs with
    | nil => simp
    | cons x rest inductionHypothesis =>
        rw [List.forall_mem_cons] at parts ⊢
        rw [List.flatMap_cons, List.flatMap_cons] at same
        -- No part is longer than its counterpart, so a shorter one would not be made up for.
        have shorter := parts.1.length_le
        have restShorter := (List.Sublist.flatMap_right rest parts.2).length_le
        have lengths := congrArg List.length same
        simp only [List.length_append] at lengths
        obtain ⟨first, others⟩ := List.append_inj same (by omega)
        exact ⟨first, inductionHypothesis parts.2 others⟩
  · intro same
    rw [List.flatMap, List.flatMap, List.map_congr_left same]

theorem flatMap_filter (p : α → Bool) (f : α → List β) (xs : List α) :
    (xs.filter p).flatMap f = xs.flatMap fun x => if p x then f x else [] := by
  induction xs with
  | nil => rfl
  | cons x rest inductionHypothesis =>
      cases holds : p x <;> simp [holds, inductionHypothesis]

/-- Under a stronger condition the list stays the same exactly if what no longer counts added
nothing to it. -/
theorem flatMap_filter_eq_iff {p q : α → Bool} (stronger : ∀ x, p x = true → q x = true) :
    (xs.filter p).flatMap f = (xs.filter q).flatMap f ↔
      ∀ x ∈ xs, q x = true → p x = false → f x = [] := by
  have parts : ∀ x ∈ xs, (if p x then f x else []).Sublist (if q x then f x else []) := by
    intro x _
    cases holds : p x with
    | false => exact List.nil_sublist _
    | true => simp [stronger x holds]
  rw [flatMap_filter, flatMap_filter, flatMap_eq_flatMap_iff parts]
  refine forall₂_congr fun x _ => ?_
  cases holds : p x with
  | false => cases q x <;> simp [eq_comm]
  | true => simp [stronger x holds]

end Lists

namespace TypeIndex

/-- A type has the name of the target or derives from a type of this name, through base types
and interfaces and in any number of steps. -/
def Reaches (ix : TypeIndex) (t : TypeDescriptor) (target : TypeName) : Prop :=
  t.name = target ∨ ∃ ref, ix.Meets t ref ∧ ref.name = target

theorem reaches_of_isAssignable {ix : TypeIndex} {t : TypeDescriptor} {target : TypeName}
    (assignable : ix.isAssignable t target = true) : ix.Reaches t target := by
  rcases isAssignable_iff.mp assignable with same | above
  · exact .inl same
  · rcases exists_followed_of_mem_supertypes above with ⟨ref, met, named, _⟩
    exact .inr ⟨ref, met, named⟩

theorem isAssignable_iff_reaches {ix : TypeIndex} {t : TypeDescriptor} {target : TypeName}
    (unambiguous : ix.Unambiguous t) : ix.isAssignable t target = true ↔ ix.Reaches t target := by
  rw [isAssignable_iff, mem_supertypes_iff unambiguous, Reaches]

end TypeIndex

namespace TypeShape

/-- One thing that a shape asks for. -/
inductive Predicate where
  | record (expected : Bool)
  | access (levels : List AccessLevel)
  | name (pattern : Pattern)
  | suffix (ending : String)
  | space (pattern : Pattern)

namespace Predicate

/-- A type is a record if it is declared as one or has an equality contract, a type that is not
nested is public or internal, and a type without a space lies in the empty text. -/
def Holds (t : TypeDescriptor) : Predicate → Prop
  | .record expected =>
    (t.kind = .record ∨ ∃ m ∈ t.members, m.kind = .property ∧ m.name = "EqualityContract") ↔
      expected = true
  | .access levels =>
    (t.enclosing ≠ none ∧ t.access ∈ levels) ∨
      (t.enclosing = none ∧ t.access = .public ∧ .public ∈ levels) ∨
      (t.enclosing = none ∧ t.access ≠ .public ∧ .internal ∈ levels)
  | .name pattern => pattern.occursIn t.name.simple = true
  | .suffix ending => ending.toList <:+ t.name.simple.toList
  | .space pattern => pattern.occursIn (t.name.space.getD "") = true

instance (t : TypeDescriptor) : (p : Predicate) → Decidable (p.Holds t)
  | .record _ => inferInstanceAs (Decidable (_ ↔ _))
  | .access _ => inferInstanceAs (Decidable (_ ∨ _))
  | .name _ | .space _ => inferInstanceAs (Decidable (_ = _))
  | .suffix _ => inferInstanceAs (Decidable (_ <:+ _))

/-- What is said about a type for which the predicate does not hold. -/
def message (t : TypeDescriptor) : Predicate → String
  | .record true => s!"Type '{t.name.full}' is not a record, expected a record"
  | .record false => s!"Type '{t.name.full}' is a record, expected a non-record type"
  | .access levels =>
    let expected := Text.join ", " (levels.map (·.name))
    s!"Type '{t.name.full}' has access level '{t.effectiveAccess.name}', " ++
      s!"expected one of [{expected}]"
  | .name pattern =>
    s!"Type '{t.name.full}' name '{t.name.simple}' does not match pattern '{pattern.source}'"
  | .suffix ending => s!"Type '{t.name.full}' name does not end with '{ending}'"
  | .space pattern =>
    let space := t.name.space.getD ""
    s!"Type '{t.name.full}' namespace '{space}' does not match pattern '{pattern.source}'"

end Predicate

/-- The predicates that are set, each at most once. -/
def predicates (s : TypeShape) : List Predicate :=
  s.record.toList.map .record ++ (if s.access = [] then [] else [.access s.access]) ++
    s.namePattern.toList.map .name ++ s.nameSuffix.toList.map .suffix ++
    s.namespacePattern.toList.map .space

section Problems

variable (s : TypeShape) (t : TypeDescriptor)

/-- What is said about a type for several predicates: something for each that does not hold. -/
def failures (asked : List Predicate) : List String :=
  (asked.filter fun p => ¬ p.Holds t).map (·.message t)

theorem failures_append (asked more : List Predicate) :
    failures t (asked ++ more) = failures t asked ++ failures t more := by
  simp [failures]

/-- A check that finds no problem if the predicate holds, and else its message. -/
theorem failures_singleton {p : Predicate} {holds : Bool} (same : holds = true ↔ p.Holds t) :
    failures t [p] = (if holds then none else some (p.message t)).toList := by
  cases holds <;> simp_all [failures]

theorem recordProblem_toList :
    (s.recordProblem t).toList = failures t (s.record.toList.map .record) := by
  cases asked : s.record with
  | none => simp [recordProblem, asked, failures]
  | some expected =>
      have same : decide (t.isRecord = expected) = true ↔ (Predicate.record expected).Holds t := by
        cases expected <;> simp [Predicate.Holds, TypeDescriptor.isRecord]
      rw [Option.toList_some, List.map_singleton, failures_singleton t same]
      cases expected <;> simp [recordProblem, asked, Predicate.message]

theorem accessProblem_toList :
    (s.accessProblem t).toList =
      failures t (if s.access = [] then [] else [.access s.access]) := by
  by_cases asked : s.access = []
  · simp [accessProblem, asked, failures]
  · have same : s.access.contains t.effectiveAccess = true ↔
        (Predicate.access s.access).Holds t := by
      rw [List.contains_iff_mem, TypeDescriptor.effectiveAccess, TypeDescriptor.isNested]
      cases nested : t.enclosing with
      | some outer => simp [Predicate.Holds, nested]
      | none =>
          by_cases isPublic : t.access = .public <;> simp [Predicate.Holds, nested, isPublic]
    rw [if_neg asked, failures_singleton t same]
    simp [accessProblem, asked, Predicate.message]

theorem nameProblem_toList :
    (s.nameProblem t).toList = failures t (s.namePattern.toList.map .name) := by
  cases asked : s.namePattern with
  | none => simp [nameProblem, asked, failures]
  | some pattern =>
      have same : pattern.occursIn t.name.simple = true ↔ (Predicate.name pattern).Holds t := .rfl
      rw [Option.toList_some, List.map_singleton, failures_singleton t same]
      simp [nameProblem, asked, Predicate.message]

theorem suffixProblem_toList :
    (s.suffixProblem t).toList = failures t (s.nameSuffix.toList.map .suffix) := by
  cases asked : s.nameSuffix with
  | none => simp [suffixProblem, asked, failures]
  | some ending =>
      have same : ending.toList.isSuffixOf t.name.simple.toList = true ↔
          (Predicate.suffix ending).Holds t := List.isSuffixOf_iff_suffix
      rw [Option.toList_some, List.map_singleton, failures_singleton t same]
      simp [suffixProblem, asked, Predicate.message]

theorem namespaceProblem_toList :
    (s.namespaceProblem t).toList = failures t (s.namespacePattern.toList.map .space) := by
  cases asked : s.namespacePattern with
  | none => simp [namespaceProblem, asked, failures]
  | some pattern =>
      have same : pattern.occursIn (t.name.space.getD "") = true ↔
          (Predicate.space pattern).Holds t := .rfl
      rw [Option.toList_some, List.map_singleton, failures_singleton t same]
      simp [namespaceProblem, asked, Predicate.message]

/-- Every predicate that is set is checked, whatever comes of the others. -/
theorem problems_eq : s.problems t = failures t s.predicates := by
  have parts : s.problems t = (s.recordProblem t).toList ++ (s.accessProblem t).toList ++
      (s.nameProblem t).toList ++ (s.suffixProblem t).toList ++
      (s.namespaceProblem t).toList := by
    simp [problems, List.filterMap_eq_flatMap_toList]
  rw [parts, recordProblem_toList, accessProblem_toList, nameProblem_toList,
    suffixProblem_toList, namespaceProblem_toList]
  simp only [predicates, failures_append]

end Problems

theorem isEmpty_iff (s : TypeShape) : s.isEmpty = true ↔ s.predicates = [] := by
  simp [isEmpty, predicates, and_assoc]

theorem nodup_predicates (s : TypeShape) : s.predicates.Nodup := by
  have single : ∀ {α : Type} (o : Option α) (f : α → Predicate), (o.toList.map f).Nodup := by
    intro α o f
    cases o <;> simp
  have access : (if s.access = [] then [] else [Predicate.access s.access]).Nodup := by
    split <;> simp
  -- The predicates of different parts have different constructors.
  simp only [predicates, List.nodup_append, single, access, true_and, List.mem_append,
    List.mem_map, Option.mem_toList]
  grind

/-- What a shape has to say about several types: something for each predicate that is set and
does not hold, one type after the other. -/
def findings (s : TypeShape) (types : List TypeDescriptor) : List Violation :=
  types.flatMap fun t =>
    (s.predicates.filter fun p => ¬ p.Holds t).map fun p =>
      info.violation t.name.full .nothing (p.message t)

theorem checkShape_eq (ctx : Context) (s : TypeShape) :
    checkShape ctx s = s.findings (ctx.applicable s.target) := by
  simp only [checkShape, findings, problems_eq, failures, List.map_map, Function.comp_def]

open Classical in
/-- What is to be said about all types under test, interfaces apart, that derive from the
targets of shapes. -/
noncomputable def expected (ctx : Context) (shapes : List TypeShape) : List Violation :=
  shapes.flatMap fun s => s.findings
    (ctx.typesUnderTest.filter fun t => !t.isInterface && ctx.index.Reaches t s.target)

theorem check_eq_expected_iff (ctx : Context) (shapes : List TypeShape) :
    check ctx shapes = expected ctx shapes ↔
      ∀ s ∈ shapes, ∀ t ∈ ctx.typesUnderTest, t.isInterface = false →
        ctx.index.Reaches t s.target → ctx.index.isAssignable t s.target = false →
          ∀ p ∈ s.predicates, p.Holds t := by
  classical
  have reaches : ∀ s : TypeShape, ∀ t : TypeDescriptor,
      (!t.isInterface && ctx.index.isAssignable t s.target) = true →
        (!t.isInterface && decide (ctx.index.Reaches t s.target)) = true := by
    intro s t
    simp only [Bool.and_eq_true, decide_eq_true_eq]
    exact And.imp_right TypeIndex.reaches_of_isAssignable
  have parts : ∀ s ∈ shapes, (checkShape ctx s).Sublist (s.findings
      (ctx.typesUnderTest.filter fun t => !t.isInterface && ctx.index.Reaches t s.target)) := by
    intro s _
    rw [checkShape_eq]
    exact (List.monotone_filter_right _ (reaches s)).flatMap _
  rw [check, expected, flatMap_eq_flatMap_iff parts]
  refine forall₂_congr fun s _ => ?_
  rw [checkShape_eq, findings, findings, Context.applicable, flatMap_filter_eq_iff (reaches s)]
  refine forall₂_congr fun t _ => ?_
  cases t.isInterface <;> simp

/-- Shapes that ask for nothing are dropped, and every other one is checked, predicate by
predicate, on the types under test that are assignable to its target. These all derive from
the target. What is found is what is to be said about the types that do exactly if a type
that derives from the target and is not assignable to it fails none of the predicates, as it
is where references of one name that are met from the types under test lead on to the same
names. -/
theorem check_exact_iff (ctx : Context) (shapes : List TypeShape) :
    let registered := shapes.filter (!·.isEmpty)
    (∀ s : TypeShape, (s.isEmpty = true ↔ s.predicates = []) ∧ s.predicates.Nodup) ∧
      check ctx registered = registered.flatMap (fun s => s.findings
        (ctx.typesUnderTest.filter fun t =>
          !t.isInterface && ctx.index.isAssignable t s.target)) ∧
      (∀ t target, ctx.index.isAssignable t target = true → ctx.index.Reaches t target) ∧
      (check ctx registered = expected ctx registered ↔
        ∀ s ∈ registered, ∀ t ∈ ctx.typesUnderTest, t.isInterface = false →
          ctx.index.Reaches t s.target → ctx.index.isAssignable t s.target = false →
            ∀ p ∈ s.predicates, p.Holds t) ∧
      ((∀ t ∈ ctx.typesUnderTest, ctx.index.Unambiguous t) →
        check ctx registered = expected ctx registered) := by
  intro registered
  have exact_iff := check_eq_expected_iff ctx registered
  refine ⟨fun s => ⟨s.isEmpty_iff, s.nodup_predicates⟩, ?_,
    fun t target => TypeIndex.reaches_of_isAssignable, exact_iff, ?_⟩
  · rw [check, funext (checkShape_eq ctx)]
    rfl
  · intro unambiguous
    rw [exact_iff]
    intro s _ t tested _ reaches missed p _
    rw [← TypeIndex.isAssignable_iff_reaches (unambiguous t tested), missed] at reaches
    cases reaches

/-- Audited types have to be named so. -/
def auditedShape : TypeShape where
  target := ⟨some "Shared", "Audited"⟩
  nameSuffix := some "AuditedJob"

def jobContext : Context where
  index := .ofModules (TypeIndex.jobModules [])
  options := {}
  heuristic := ⟨[], []⟩
  underTest := ["App"]

theorem supertypes_job : jobContext.index.supertypes TypeIndex.job = [⟨some "Shared", "Step"⟩] := by
  have barren : jobContext.index.parents ⟨⟨some "Shared", "Step"⟩, "Alpha", []⟩ = [] := by
    decide +kernel
  have refs : TypeIndex.job.supertypeRefs =
      [⟨⟨some "Shared", "Step"⟩, "Alpha", []⟩, ⟨⟨some "Shared", "Step"⟩, "Beta", []⟩] := rfl
  rw [TypeIndex.supertypes, refs, TypeIndex.supertypesFrom_cons, if_neg List.not_mem_nil, barren,
    List.append_nil, TypeIndex.supertypesFrom_cons, if_pos List.mem_cons_self,
    TypeIndex.supertypesFrom]
  decide +kernel

/-- A job whose second step is audited derives from what is audited and is not named so, but
nothing is reported: the first step of the same name was followed up in its place. -/
theorem check_secondStep :
    TypeIndex.job ∈ jobContext.typesUnderTest ∧ TypeIndex.job.isInterface = false ∧
      jobContext.index.Reaches TypeIndex.job auditedShape.target ∧
      (∃ p ∈ auditedShape.predicates, ¬ p.Holds TypeIndex.job) ∧
      check jobContext [auditedShape] = [] ∧ expected jobContext [auditedShape] ≠ [] := by
  have tested : jobContext.typesUnderTest = [TypeIndex.job] := by decide +kernel
  have reaches : jobContext.index.Reaches TypeIndex.job auditedShape.target := by
    have parent : ⟨⟨some "Shared", "Audited"⟩, "Beta", []⟩ ∈
        jobContext.index.parents ⟨⟨some "Shared", "Step"⟩, "Beta", []⟩ := by decide +kernel
    exact .inr ⟨_, .step (.queued (by decide +kernel)) parent, rfl⟩
  have missed : jobContext.index.isAssignable TypeIndex.job auditedShape.target = false := by
    rw [TypeIndex.isAssignable, supertypes_job]
    decide +kernel
  have misnamed : Predicate.suffix "AuditedJob" ∈ auditedShape.predicates ∧
      ¬ (Predicate.suffix "AuditedJob").Holds TypeIndex.job :=
    ⟨List.mem_cons_self, by decide +kernel⟩
  have clean : check jobContext [auditedShape] = [] := by
    simp [check, checkShape, Context.applicable, tested, missed]
  refine ⟨by simp [tested], rfl, reaches, ⟨_, misnamed⟩, clean, ?_⟩
  intro silent
  have agree := (check_eq_expected_iff jobContext [auditedShape]).mp (clean.trans silent.symm)
  exact misnamed.2 (agree _ List.mem_cons_self _ (by simp [tested]) rfl reaches missed _ misnamed.1)

end TypeShape

end Architecture
