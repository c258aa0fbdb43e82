import Architecture.Proofs.RuleFile
import Architecture.Proofs.Text.Blank

/-!
# What a file of rules has to satisfy

A file of rules is subject to a list of requirements, one for each check of a field, in the
order of sections, entries and fields. Checking the file is to look for the first requirement
that is not met: if there is one it is reported with its place, and else the entries are taken
over with their names trimmed.
-/

namespace Architecture.RuleFile

open Text

/-- What is wrong where a requirement is not met. -/
inductive Fault where
  | problem (problem : Problem)
  | ambiguousPolicy
  | unknownAccess (level : String)

/-- A check of a field or an entry at some place. -/
structure Requirement where
  place : String
  met : Bool
  fault : Fault

def Requirement.error (r : Requirement) : LoadError :=
  match r.fault with
  | .problem problem => .invalid r.place problem
  | .ambiguousPolicy => .ambiguousPolicy r.place
  | .unknownAccess level => .unknownAccess r.place level

/-- The place that an error tells the reader. -/
def LoadError.place? : LoadError → Option String
  | .unreadable => none
  | .invalid place _ => some place
  | .ambiguousPolicy place => some place
  | .unknownAccess place _ => some place

/-- What comes of requirements that are looked at in order. -/
def outcome {α : Type} (requirements : List Requirement) (result : α) : Except LoadError α :=
  match requirements.find? (!·.met) with
  | some failed => .error failed.error
  | none => .ok result

section Outcome

variable {α β : Type} {requirements further : List Requirement} {a : α} {b : β}

theorem outcome_bind {f : α → Except LoadError β}
    (follows : (∀ r ∈ requirements, r.met = true) → f a = outcome further b) :
    (outcome requirements a >>= f) = outcome (requirements ++ further) b := by
  unfold outcome
  rw [List.find?_append]
  cases found : requirements.find? (!·.met) with
  | some failed => rfl
  | none => exact follows (by simpa using found)

theorem outcome_map (f : α → β) :
    (outcome requirements a >>= fun x => pure (f x)) = outcome requirements (f a) := by
  unfold outcome
  cases requirements.find? (!·.met) <;> rfl

theorem outcome_congr {c : α} (same : (∀ r ∈ requirements, r.met = true) → a = c) :
    outcome requirements a = outcome requirements c := by
  unfold outcome
  cases found : requirements.find? (!·.met) with
  | some failed => rfl
  | none => exact congrArg Except.ok (same (by simpa using found))

theorem outcome_cons_of_met {r : Requirement} (met : r.met = true) :
    outcome (r :: requirements) a = outcome requirements a := by
  simp [outcome, met]

theorem outcome_eq_ok_iff {c : α} :
    outcome requirements a = .ok c ↔ (∀ r ∈ requirements, r.met = true) ∧ a = c := by
  unfold outcome
  cases found : requirements.find? (!·.met) with
  | some failed =>
      have unmet : ¬ ∀ r ∈ requirements, r.met = true := by
        intro met
        have failure := List.find?_some found
        rw [met failed (List.mem_of_find?_eq_some found)] at failure
        cases failure
      simp [unmet]
  | none =>
      have met : ∀ r ∈ requirements, r.met = true := by simpa using found
      simp [and_iff_right met]

theorem outcome_eq_error_iff {error : LoadError} :
    outcome requirements a = .error error ↔
      ∃ r, IsFirst (fun r => r.met = false) requirements r ∧ r.error = error := by
  have unmet : ∀ r : Requirement, (!r.met) = true ↔ r.met = false := by simp
  unfold outcome
  simp only [← find?_eq_some_iff_isFirst unmet]
  cases requirements.find? (!·.met) <;> simp

end Outcome

/-! ### The requirements -/

/-- A name may not be blank. -/
def named (place text : String) : Requirement := ⟨place, decide (NotBlank text), .problem .empty⟩

/-- A pattern has to be readable. -/
def readable [PatternNotation] (place pattern : String) : Requirement :=
  ⟨place, (Pattern.compile? pattern).isSome, .problem (.invalidPattern pattern)⟩

def knownAccess (place text : String) : Requirement :=
  ⟨place, (AccessLevel.parse? text).isSome, .unknownAccess text⟩

/-- The requirements on the items of a list, each at its own place. -/
def numbered {α : Type} (place : String) (requirements : String → α → List Requirement)
    (xs : List α) : List Requirement :=
  xs.zipIdx.flatMap fun e => requirements (indexed place e.2) e.1

def allNamed (place : String) (names : List String) : List Requirement :=
  numbered place (fun here name => [named here name]) names

theorem allNamed_nil (place : String) : allNamed place [] = [] := rfl

def IsolationDraft.requirements (place : String) (d : IsolationDraft) : List Requirement :=
  named (place ++ ".namespace") d.space ::
  ⟨place, d.inbound || d.outbound, .problem .noDirection⟩ ::
  allNamed (place ++ ".except") d.except

def UsedOnlyDraft.requirements (place : String) (d : UsedOnlyDraft) : List Requirement :=
  named (place ++ ".target") d.target :: allNamed (place ++ ".allowed") d.allowed

def MethodDraft.requirements (place : String) (d : MethodDraft) : List Requirement :=
  named (place ++ ".method") d.method ::
  ⟨place, !d.attributes.isEmpty, .problem (.noAttributes (trim d.method))⟩ ::
  allNamed (place ++ ".attributes") d.attributes

/-- The draft asks for something. -/
def ShapeDraft.constrains (d : ShapeDraft) : Bool :=
  d.record.isSome || !d.access.isEmpty || d.name.isSome || d.nameEndsWith.isSome ||
    d.space.isSome || !d.methods.isEmpty

def ShapeDraft.requirements [PatternNotation] (place : String) (d : ShapeDraft) :
    List Requirement :=
  named (place ++ ".target") d.target ::
  (numbered (place ++ ".access") (fun here level => [knownAccess here level]) d.access ++
    d.name.toList.map (readable (place ++ ".name")) ++
    d.space.toList.map (readable (place ++ ".namespace")) ++
    d.nameEndsWith.toList.map (named (place ++ ".name-ends-with")) ++
    numbered (place ++ ".methods") MethodDraft.requirements d.methods ++
    [⟨place, d.constrains, .problem (.emptyShape (trim d.target))⟩])

def SolutionDraft.requirements (place : String) (d : SolutionDraft) : List Requirement :=
  named (place ++ ".module") d.name ::
  ⟨place, d.allow.isSome != d.forbid.isSome, .ambiguousPolicy⟩ ::
  (allNamed (place ++ ".allow") (d.allow.getD []) ++
    allNamed (place ++ ".forbid") (d.forbid.getD []))

/-- All requirements on a file, in the order in which they are looked at. -/
def Draft.requirements [PatternNotation] (d : Draft) : List Requirement :=
  numbered "isolate-namespace" IsolationDraft.requirements d.isolations ++
  numbered "forbid-module-dependency"
    (fun here pattern => [readable (here ++ ".pattern") pattern]) d.forbiddenModules ++
  numbered "used-only-by" UsedOnlyDraft.requirements d.usedOnly ++
  numbered "type-shape" ShapeDraft.requirements d.shapes ++
  numbered "solution-module" SolutionDraft.requirements d.solution

/-- Requirements on items that come to one condition are met if all items satisfy it. -/
theorem forall_met_numbered_iff {α : Type} {requirements : String → α → List Requirement}
    {p : α → Prop} (same : ∀ here x, (∀ r ∈ requirements here x, r.met = true) ↔ p x)
    (place : String) (xs : List α) :
    (∀ r ∈ numbered place requirements xs, r.met = true) ↔ ∀ x ∈ xs, p x := by
  simp only [numbered, List.mem_flatMap, forall_exists_index, and_imp]
  constructor
  · intro met x member
    rcases List.mem_iff_getElem?.mp member with ⟨i, isAt⟩
    rw [← same (indexed place i)]
    intro r required
    exact met r (x, i) (List.mem_zipIdx_iff_getElem?.mpr isAt) required
  · intro holds r e member required
    have inside := List.mem_of_getElem? (List.mem_zipIdx_iff_getElem?.mp member)
    exact (same _ _).mpr (holds e.1 inside) r required

theorem forall_met_allNamed_iff (place : String) (names : List String) :
    (∀ r ∈ allNamed place names, r.met = true) ↔ ∀ name ∈ names, NotBlank name :=
  forall_met_numbered_iff (fun here name => by simp [named]) place names

/-! ### The entries -/

def IsolationDraft.entry (d : IsolationDraft) : IsolationEntry where
  space := trim d.space
  inbound := d.inbound
  outbound := d.outbound
  except := d.except.map trim

def UsedOnlyDraft.entry (d : UsedOnlyDraft) : UsedOnlyEntry where
  target := trim d.target
  allowed := d.allowed.map trim
  excludeGenerated := d.excludeGenerated

def MethodDraft.entry (d : MethodDraft) : MethodEntry where
  method := trim d.method
  attributes := d.attributes.map trim

def ShapeDraft.entry (d : ShapeDraft) : ShapeEntry where
  target := trim d.target
  record := d.record
  access := d.access.filterMap AccessLevel.parse?
  name := d.name
  nameEndsWith := d.nameEndsWith.map trim
  space := d.space
  methods := d.methods.map (·.entry)

def SolutionDraft.entry (d : SolutionDraft) : PolicyEntry where
  name := trim d.name
  policy :=
    match d.allow with
    | some names => ⟨.allow, sortedDistinct (names.map trim)⟩
    | none => ⟨.forbid, sortedDistinct ((d.forbid.getD []).map trim)⟩

/-- The rules that a file states, with their names trimmed. -/
def Draft.rules (d : Draft) : Rules where
  isolations := d.isolations.map (·.entry)
  forbiddenModules := d.forbiddenModules
  usedOnly := d.usedOnly.map (·.entry)
  shapes := d.shapes.map (·.entry)
  solution := d.solution.map (·.entry)

/-! ### Checking -/

section Checking

variable {α β : Type} (place : String)

theorem nonEmpty_eq (text : String) :
    nonEmpty place text = outcome [named place text] (trim text) := by
  by_cases visible : NotBlank text
  · simp [nonEmpty, outcome, named, visible, trim_ne_empty_iff.mpr visible]
  · have empty : trim text = "" := not_ne_iff.mp (mt trim_ne_empty_iff.mp visible)
    simp [nonEmpty, outcome, named, visible, empty, Requirement.error]

theorem validPattern_eq [PatternNotation] (text : String) :
    validPattern place text = outcome [readable place text] text := by
  unfold validPattern
  cases compiled : Pattern.compile? text <;>
    simp [outcome, readable, compiled, Requirement.error]

theorem checkAccess_eq (text : String) :
    checkAccess place text =
      outcome [knownAccess place text] ((AccessLevel.parse? text).getD .public) := by
  unfold checkAccess
  cases parsed : AccessLevel.parse? text <;>
    simp [outcome, knownAccess, parsed, Requirement.error]

theorem optionally_eq {check : α → Except LoadError β} {requirement : α → Requirement}
    {entry : α → β} (each : ∀ a, check a = outcome [requirement a] (entry a)) (value : Option α) :
    optionally check value = outcome (value.toList.map requirement) (value.map entry) := by
  cases value with
  | none => rfl
  | some a =>
      rw [optionally, each]
      exact outcome_map some

theorem eachFrom_eq {check : String → α → Except LoadError β}
    {requirements : String → α → List Requirement} {entry : α → β}
    (each : ∀ here a, check here a = outcome (requirements here a) (entry a)) (start : Nat)
    (xs : List α) :
    eachFrom place check start xs = outcome
      ((xs.zipIdx start).flatMap fun e => requirements (indexed place e.2) e.1)
      (xs.map entry) := by
  induction xs generalizing start with
  | nil => rfl
  | cons x rest inductionHypothesis =>
      rw [eachFrom, each, List.zipIdx_cons, List.flatMap_cons, List.map_cons]
      refine outcome_bind fun _ => ?_
      rw [inductionHypothesis]
      exact outcome_map _

theorem each_eq {check : String → α → Except LoadError β}
    {requirements : String → α → List Requirement} {entry : α → β}
    (each : ∀ here a, check here a = outcome (requirements here a) (entry a)) (xs : List α) :
    RuleFile.each place check xs = outcome (numbered place requirements xs) (xs.map entry) :=
  eachFrom_eq place each 0 xs

theorem each_nonEmpty_eq (names : List String) :
    each place nonEmpty names = outcome (allNamed place names) (names.map trim) :=
  each_eq place nonEmpty_eq names

theorem forall_met_access_iff (levels : List String) :
    (∀ r ∈ numbered place (fun here level => [knownAccess here level]) levels, r.met = true) ↔
      ∀ level ∈ levels, (AccessLevel.parse? level).isSome = true :=
  forall_met_numbered_iff (fun here level => by simp [knownAccess]) place levels

theorem each_checkAccess_eq (levels : List String) :
    each place checkAccess levels =
      outcome (numbered place (fun here level => [knownAccess here level]) levels)
        (levels.filterMap AccessLevel.parse?) := by
  rw [each_eq place checkAccess_eq]
  refine outcome_congr fun met => ?_
  rw [forall_met_access_iff] at met
  rw [← List.filterMap_eq_map]
  refine List.filterMap_congr fun level member => ?_
  rcases Option.isSome_iff_exists.mp (met level member) with ⟨known, parsed⟩
  simp [parsed]

/-- A check of the whole entry, after which the checks go on. -/
theorem guard_eq {fails : Bool} {error : LoadError} {next : Unit → Except LoadError β}
    {r : Requirement} {further : List Requirement} {b : β} (unmet : fails = !r.met)
    (reported : error = r.error) (follows : next () = outcome further b) :
    (if fails = true then (throw error >>= next) else next ()) = outcome (r :: further) b := by
  subst unmet reported
  cases met : r.met with
  | false => simp [outcome, met]; rfl
  | true => simp [outcome_cons_of_met met, follows]

theorem checkIsolation_eq (d : IsolationDraft) :
    checkIsolation place d = outcome (d.requirements place) d.entry := by
  unfold checkIsolation
  rw [nonEmpty_eq, each_nonEmpty_eq]
  refine outcome_bind fun _ => ?_
  refine guard_eq ?_ rfl ?_
  · simp
  · exact outcome_map _

theorem checkForbidden_eq [PatternNotation] (pattern : String) :
    checkForbidden place pattern = outcome [readable (place ++ ".pattern") pattern] pattern :=
  validPattern_eq _ pattern

theorem checkUsedOnly_eq (d : UsedOnlyDraft) :
    checkUsedOnly place d = outcome (d.requirements place) d.entry := by
  unfold checkUsedOnly
  rw [nonEmpty_eq, each_nonEmpty_eq]
  refine outcome_bind fun _ => ?_
  exact outcome_map _

theorem checkMethod_eq (d : MethodDraft) :
    checkMethod place d = outcome (d.requirements place) d.entry := by
  unfold checkMethod
  rw [nonEmpty_eq, each_nonEmpty_eq]
  refine outcome_bind fun _ => ?_
  refine guard_eq ?_ rfl ?_
  · simp
  · exact outcome_map _

theorem isEmpty_entry (d : ShapeDraft)
    (known : ∀ level ∈ d.access, (AccessLevel.parse? level).isSome = true) :
    d.entry.isEmpty = !d.constrains := by
  have sameAccess : (d.access.filterMap AccessLevel.parse?).isEmpty = d.access.isEmpty := by
    cases listed : d.access with
    | nil => rfl
    | cons level rest =>
        rcases Option.isSome_iff_exists.mp (known level (by simp [listed])) with ⟨_, parsed⟩
        simp [parsed]
  simp [ShapeEntry.isEmpty, ShapeDraft.entry, ShapeDraft.constrains, sameAccess]

theorem checkShape_eq [PatternNotation] (d : ShapeDraft) :
    checkShape place d = outcome (d.requirements place) d.entry := by
  unfold checkShape
  rw [nonEmpty_eq, each_checkAccess_eq, optionally_eq (validPattern_eq _),
    optionally_eq (validPattern_eq _), optionally_eq (nonEmpty_eq _), each_eq _ checkMethod_eq]
  simp only [ShapeDraft.requirements, List.append_assoc, Option.map_id']
  refine outcome_bind fun _ => ?_
  refine outcome_bind fun known => ?_
  refine outcome_bind fun _ => ?_
  refine outcome_bind fun _ => ?_
  refine outcome_bind fun _ => ?_
  refine outcome_bind fun _ => ?_
  refine guard_eq ?_ rfl rfl
  exact isEmpty_entry d ((forall_met_access_iff _ _).mp known)

theorem checkSolution_eq (d : SolutionDraft) :
    checkSolution place d = outcome (d.requirements place) d.entry := by
  unfold checkSolution
  rw [nonEmpty_eq]
  refine outcome_bind fun _ => ?_
  -- Names are looked at only where one of the lists is there and the other is not.
  cases allow : d.allow with
  | none =>
      cases forbid : d.forbid with
      | none => rfl
      | some names =>
          have entry : d.entry = ⟨trim d.name, .forbid, sortedDistinct (names.map trim)⟩ := by
            simp [SolutionDraft.entry, allow, forbid]
          rw [outcome_cons_of_met rfl, entry]
          simp only [Option.getD_none, Option.getD_some, allNamed_nil, List.nil_append,
            each_nonEmpty_eq]
          exact outcome_map _
  | some names =>
      cases forbid : d.forbid with
      | none =>
          have entry : d.entry = ⟨trim d.name, .allow, sortedDistinct (names.map trim)⟩ := by
            simp [SolutionDraft.entry, allow]
          rw [outcome_cons_of_met rfl, entry]
          simp only [Option.getD_none, Option.getD_some, allNamed_nil, List.append_nil,
            each_nonEmpty_eq]
          exact outcome_map _
      | some others => rfl

end Checking

theorem check_eq [PatternNotation] (d : Draft) : check d = outcome d.requirements d.rules := by
  unfold check
  rw [each_eq _ checkIsolation_eq, each_eq _ (checkForbidden_eq ·), each_eq _ checkUsedOnly_eq,
    each_eq _ (checkShape_eq ·), each_eq _ checkSolution_eq]
  simp only [Draft.requirements, List.append_assoc, List.map_id']
  refine outcome_bind fun _ => ?_
  refine outcome_bind fun _ => ?_
  refine outcome_bind fun _ => ?_
  refine outcome_bind fun _ => ?_
  exact outcome_map _

end Architecture.RuleFile
