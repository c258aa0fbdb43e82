import Architecture.Plan
import Architecture.Proofs.Fallible
import Architecture.Proofs.Name

/-!
# Policies of a solution

Policies are asked for one after another, and a request adds to the policy that its
module has already. Requests are granted as long as they name modules of the solution
and no module is asked to both allow and forbid. The policies that come out say what all
requests together say, so neither they nor whether they are granted depends on the order
of the requests.
-/

namespace Architecture

namespace Solution

/-- A policy that is asked for, with the name of the module it is for. -/
abbrev Request := String × Policy

/-- The request names modules of the solution only. -/
structure Admits (s : Solution) (r : Request) : Prop where
  subject : normalize r.1 ∈ s.modules
  listed : ∀ name ∈ r.2.names, normalize name ∈ s.modules

theorem admits_iff {s : Solution} {r : Request} :
    s.Admits r ↔ normalize r.1 ∈ s.modules ∧ ∀ name ∈ r.2.names, normalize name ∈ s.modules :=
  ⟨fun admits => ⟨admits.subject, admits.listed⟩, fun both => ⟨both.1, both.2⟩⟩

/-- Requests for one module ask for the same stance. -/
def Consistent (requests : List Request) : Prop :=
  ∀ r ∈ requests, ∀ other ∈ requests, normalize r.1 = normalize other.1 →
    r.2.stance = other.2.stance

theorem Consistent.subset {requests fewer : List Request} (consistent : Consistent requests)
    (included : fewer ⊆ requests) : Consistent fewer :=
  fun r member other otherMember => consistent r (included member) other (included otherMember)

def request (s : Solution) (r : Request) : Except SetupError Solution := s.addPolicy r.1 r.2

def stanceFor (s : Solution) (name : String) : Option Stance :=
  (s.policies.lookup name).map (·.stance)

def listedFor (s : Solution) (name : String) : List String :=
  (s.policies.lookup name).elim [] (·.names)

/-- The policies with what a request asks for added. -/
def granted (s : Solution) (r : Request) : Solution :=
  let names := sortedDistinct (s.listedFor (normalize r.1) ++ r.2.names.map normalize)
  { s with policies := setPolicy (normalize r.1) { r.2 with names } s.policies }

variable {s next final other : Solution} {r : Request} {requests before : List Request}

theorem member_eq_ok_iff {name known : String} :
    s.member name = .ok known ↔ normalize name ∈ s.modules ∧ normalize name = known := by
  unfold member
  split
  next present => simp_all
  next absent => simp_all

theorem mapM_member_eq_ok_iff {names known : List String} :
    names.mapM s.member = .ok known ↔
      (∀ name ∈ names, normalize name ∈ s.modules) ∧ names.map normalize = known := by
  simp only [mapM_eq_ok_iff, member_eq_ok_iff, List.forall₂_and_left]
  rw [← List.forall₂_map_left_iff (R := Eq), List.forall₂_eq_eq_eq]

theorem lookup_setPolicy (name m : String) (policy : Policy) (known : List (String × Policy)) :
    (setPolicy name policy known).lookup m = if m = name then some policy else known.lookup m := by
  induction known with
  | nil =>
      by_cases same : m = name
      · simp [setPolicy, same]
      · simp [setPolicy, List.lookup_cons, beq_eq_false_iff_ne.mpr same, same]
  | cons entry rest inductionHypothesis =>
      rcases entry with ⟨first, existing⟩
      simp only [setPolicy]
      by_cases same : m = first
      · subst same
        by_cases here : m = name <;> simp [here]
      · have differs : (m == first) = false := beq_eq_false_iff_ne.mpr same
        by_cases here : first = name
        · subst here
          simp [List.lookup_cons, differs, same]
        · simp [List.lookup_cons, differs, here, inductionHypothesis]

@[simp]
theorem modules_granted (s : Solution) (r : Request) : (s.granted r).modules = s.modules := rfl

@[simp]
theorem stanceFor_granted (s : Solution) (r : Request) (name : String) :
    (s.granted r).stanceFor name =
      if name = normalize r.1 then some r.2.stance else s.stanceFor name := by
  simp only [stanceFor, granted, lookup_setPolicy]
  split <;> rfl

@[simp]
theorem mem_listedFor_granted (s : Solution) (r : Request) (name listed : String) :
    listed ∈ (s.granted r).listedFor name ↔
      listed ∈ s.listedFor name ∨ name = normalize r.1 ∧ listed ∈ r.2.names.map normalize := by
  rw [listedFor, granted, lookup_setPolicy]
  split
  next same => simp [same]
  next differs => simp [differs, listedFor]

theorem isEmpty_iff_stanceFor : s.isEmpty = true ↔ ∀ name, s.stanceFor name = none := by
  rw [isEmpty, List.isEmpty_iff]
  refine ⟨fun none name => by simp [stanceFor, none], ?_⟩
  intro absent
  cases policies : s.policies with
  | nil => rfl
  | cons entry rest =>
      have present := absent entry.1
      simp [stanceFor, policies] at present

/-- A request is granted if it is admitted and does not turn a policy round. -/
theorem request_eq_ok_iff :
    s.request r = .ok next ↔
      s.Admits r ∧ (∀ stance, s.stanceFor (normalize r.1) = some stance → stance = r.2.stance) ∧
        s.granted r = next := by
  rcases r with ⟨name, policy⟩
  have admits : s.Admits (name, policy) ↔ normalize name ∈ s.modules ∧
      ∀ listed ∈ sortedDistinct policy.names, normalize listed ∈ s.modules := by
    simp only [admits_iff, mem_sortedDistinct]
  -- Names are sorted both before and after they are brought into normal form.
  have sameNames : ∀ known : List String,
      sortedDistinct (known ++ (sortedDistinct policy.names).map normalize) =
        sortedDistinct (known ++ policy.names.map normalize) :=
    fun known => sortedDistinct_congr (by simp)
  have sameAlone := sameNames []
  rw [List.nil_append, List.nil_append] at sameAlone
  simp only [request, addPolicy, bind_eq_ok_iff, member_eq_ok_iff, mapM_member_eq_ok_iff]
  rw [admits]
  constructor
  · rintro ⟨_, ⟨subject, rfl⟩, _, ⟨listed, rfl⟩, added⟩
    refine ⟨⟨subject, listed⟩, ?_⟩
    cases known : s.policies.lookup (normalize name) with
    | none =>
        rw [known] at added
        cases added
        simp [granted, listedFor, stanceFor, known, sameAlone]
    | some existing =>
        simp only [known] at added
        split at added
        next same =>
          cases added
          simp [granted, listedFor, stanceFor, known, same, sameNames]
        next => cases added
  · rintro ⟨⟨subject, listed⟩, agreed, rfl⟩
    refine ⟨_, ⟨subject, rfl⟩, _, ⟨listed, rfl⟩, ?_⟩
    cases known : s.policies.lookup (normalize name) with
    | none => simp [granted, listedFor, known, sameAlone, pure, Except.pure]
    | some existing =>
        have same : existing.stance = policy.stance := agreed _ (by simp [stanceFor, known])
        simp [granted, listedFor, known, sameNames, same, pure, Except.pure]

/-- The policies say what the requests say together. -/
structure Grants (s : Solution) (requests : List Request) : Prop where
  admitted : ∀ r ∈ requests, s.Admits r
  stance : ∀ name stance, s.stanceFor name = some stance ↔
    ∃ r ∈ requests, normalize r.1 = name ∧ r.2.stance = stance
  listed : ∀ name listed, listed ∈ s.listedFor name ↔
    ∃ r ∈ requests, normalize r.1 = name ∧ listed ∈ r.2.names.map normalize

namespace Grants

theorem ofModules (names : List String) : (ofModules names).Grants [] := by
  constructor <;> simp [Solution.ofModules, stanceFor, listedFor]

theorem consistent (grants : s.Grants requests) : Consistent requests := by
  intro r member other otherMember same
  have first := (grants.stance (normalize r.1) r.2.stance).mpr ⟨r, member, rfl, rfl⟩
  have second := (grants.stance (normalize r.1) other.2.stance).mpr
    ⟨other, otherMember, same.symm, rfl⟩
  exact Option.some.inj (first.symm.trans second)

theorem congr (grants : s.Grants requests) (same : ∀ r, r ∈ requests ↔ r ∈ before) :
    s.Grants before where
  admitted := fun r member => grants.admitted r ((same r).mpr member)
  stance := by simpa only [same] using grants.stance
  listed := by simpa only [same] using grants.listed

theorem request (grants : s.Grants before) (added : s.request r = .ok next) :
    next.modules = s.modules ∧ next.Grants (before ++ [r]) := by
  rcases request_eq_ok_iff.mp added with ⟨admits, agreed, rfl⟩
  refine ⟨modules_granted s r, ?_, ?_, ?_⟩
  · intro other member
    rcases List.mem_append.mp member with known | new
    · exact ⟨(grants.admitted other known).subject, (grants.admitted other known).listed⟩
    · cases List.mem_singleton.mp new
      exact ⟨admits.subject, admits.listed⟩
  · intro name stance
    simp only [stanceFor_granted, List.mem_append, List.mem_singleton, or_and_right, exists_or,
      exists_eq_left, ← grants.stance]
    by_cases same : name = normalize r.1
    · subst same
      rw [if_pos rfl, Option.some.injEq]
      refine ⟨fun here => .inr ⟨rfl, here⟩, ?_⟩
      rintro (known | ⟨_, here⟩)
      · exact (agreed stance known).symm
      · exact here
    · simp [same, Ne.symm same]
  · intro name listed
    simp only [mem_listedFor_granted, List.mem_append, List.mem_singleton, or_and_right,
      exists_or, exists_eq_left, ← grants.listed, @eq_comm _ name]

theorem exists_request (grants : s.Grants before) (admits : s.Admits r)
    (consistent : Consistent (before ++ [r])) : ∃ next, s.request r = .ok next := by
  refine ⟨s.granted r, request_eq_ok_iff.mpr ⟨admits, ?_, rfl⟩⟩
  intro stance known
  rcases (grants.stance _ stance).mp known with ⟨other, member, same, rfl⟩
  exact consistent other (by simp [member]) r (by simp) same

/-- Requests that are all granted add up. -/
theorem foldlM (grants : s.Grants before)
    (added : requests.foldlM Solution.request s = .ok final) :
    final.modules = s.modules ∧ final.Grants (before ++ requests) := by
  induction requests generalizing s before with
  | nil =>
      cases added
      exact ⟨rfl, by simpa using grants⟩
  | cons r rest inductionHypothesis =>
      rw [List.foldlM_cons, bind_eq_ok_iff] at added
      rcases added with ⟨next, first, follow⟩
      rcases grants.request first with ⟨sameModules, grown⟩
      rcases inductionHypothesis grown follow with ⟨finalModules, finalGrants⟩
      exact ⟨finalModules.trans sameModules, by simpa using finalGrants⟩

/-- Requests that are admitted and do not contradict each other are all granted. -/
theorem exists_foldlM (grants : s.Grants before) (admitted : ∀ r ∈ requests, s.Admits r)
    (consistent : Consistent (before ++ requests)) :
    ∃ final, requests.foldlM Solution.request s = .ok final := by
  induction requests generalizing s before with
  | nil => exact ⟨s, rfl⟩
  | cons r rest inductionHypothesis =>
      rcases List.forall_mem_cons.mp admitted with ⟨admits, others⟩
      rw [List.append_cons] at consistent
      have upToHere : Consistent (before ++ [r]) :=
        consistent.subset (List.subset_append_left _ _)
      rcases grants.exists_request admits upToHere with ⟨next, first⟩
      rcases grants.request first with ⟨sameModules, grown⟩
      have othersToo : ∀ other ∈ rest, next.Admits other := by
        intro other member
        have known := others other member
        exact ⟨sameModules ▸ known.subject, sameModules ▸ known.listed⟩
      rcases inductionHypothesis grown othersToo consistent with ⟨final, follow⟩
      refine ⟨final, ?_⟩
      rw [List.foldlM_cons, bind_eq_ok_iff]
      exact ⟨next, first, follow⟩

end Grants

/-- Solutions that flag the same references, whatever the order of their policies. -/
structure Agrees (s other : Solution) : Prop where
  modules : s.modules = other.modules
  stance : ∀ name, s.stanceFor name = other.stanceFor name
  listed : ∀ name listed, listed ∈ s.listedFor name ↔ listed ∈ other.listedFor name

namespace Agrees

theorem of_grants (grants : s.Grants requests) (grantsToo : other.Grants requests)
    (sameModules : s.modules = other.modules) : s.Agrees other where
  modules := sameModules
  stance := by
    intro name
    refine Option.ext fun stance => ?_
    rw [grants.stance, grantsToo.stance]
  listed := by
    intro name listed
    rw [grants.listed, grantsToo.listed]

theorem isEmpty_eq (agrees : s.Agrees other) : s.isEmpty = other.isEmpty := by
  rw [Bool.eq_iff_iff, isEmpty_iff_stanceFor, isEmpty_iff_stanceFor]
  simp only [agrees.stance]

theorem checkModule_eq (agrees : s.Agrees other) (m : ModuleDescriptor) :
    s.checkModule m = other.checkModule m := by
  have stance := agrees.stance (normalize m.name)
  have listed := agrees.listed (normalize m.name)
  simp only [stanceFor, listedFor] at stance listed
  unfold checkModule
  cases known : s.policies.lookup (normalize m.name) with
  | none =>
      rw [known, Option.map_none, eq_comm, Option.map_eq_none_iff] at stance
      rw [stance]
  | some policy =>
      rw [known, Option.map_some, eq_comm, Option.map_eq_some_iff] at stance
      rcases stance with ⟨policyToo, knownToo, sameStance⟩
      simp only [known, knownToo, Option.elim_some] at listed
      have flags : s.flags policy = other.flags policyToo := by
        funext r
        have contains : policy.names.contains (normalize r.name) =
            policyToo.names.contains (normalize r.name) := by
          rw [Bool.eq_iff_iff, List.contains_iff_mem, List.contains_iff_mem, listed]
        simp only [Solution.flags, agrees.modules, sameStance, contains]
      simp only [knownToo, flags, sameStance]

end Agrees

end Solution

/-- What the policies of an entry ask for. -/
def SolutionEntry.requests (entry : SolutionEntry) : List Solution.Request :=
  entry.policies.map (entry.name, ·)

theorem foldlM_apply (entries : List SolutionEntry) (s : Solution) :
    entries.foldlM SolutionEntry.apply s =
      (entries.flatMap (·.requests)).foldlM Solution.request s := by
  induction entries generalizing s with
  | nil => rfl
  | cons entry rest inductionHypothesis =>
      have first : entry.apply s = entry.requests.foldlM Solution.request s := by
        rw [SolutionEntry.requests, List.foldlM_map]
        rfl
      rw [List.foldlM_cons, List.flatMap_cons, List.foldlM_append, ← first]
      simp only [inductionHypothesis]

/-- Entries in another order are accepted as well, and flag the same references. -/
theorem exists_agrees_of_perm {entries others : List SolutionEntry} {names : List String}
    {s : Solution} (reordered : entries.Perm others)
    (applied : entries.foldlM SolutionEntry.apply (.ofModules names) = .ok s) :
    ∃ other, others.foldlM SolutionEntry.apply (.ofModules names) = .ok other ∧
      s.Agrees other := by
  rw [foldlM_apply] at applied
  have start := Solution.Grants.ofModules names
  have sameRequests : ∀ r, r ∈ entries.flatMap (·.requests) ↔ r ∈ others.flatMap (·.requests) :=
    fun r => (reordered.flatMap_right _).mem_iff
  rcases start.foldlM applied with ⟨modules, grants⟩
  have grantsReordered := grants.congr sameRequests
  have admitted : ∀ r ∈ others.flatMap (·.requests), (Solution.ofModules names).Admits r := by
    intro r member
    have known := grantsReordered.admitted r member
    exact ⟨modules ▸ known.subject, modules ▸ known.listed⟩
  rcases start.exists_foldlM admitted grantsReordered.consistent with ⟨other, appliedToo⟩
  rcases start.foldlM appliedToo with ⟨otherModules, otherGrants⟩
  refine ⟨other, by rwa [foldlM_apply], ?_⟩
  exact .of_grants grantsReordered otherGrants (modules.trans otherModules.symm)

end Architecture
