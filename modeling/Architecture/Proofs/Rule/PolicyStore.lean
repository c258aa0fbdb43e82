import Architecture.Proofs.Rule.Solution

/-!
# Policies as a store

Policies are registered one call after another, in a store that is changed in place. A call
checks every name before it writes, so a refused call leaves the store as it was. After any
calls the policy of a module has the stance of the first granted call for the module and the
names of all of them. Whether all calls are granted does not depend on their order.
-/

namespace Architecture.Solution

/-- The same name, but for hyphens in the place of underscores or the other way round. -/
def SameName (a b : String) : Prop :=
  List.Forall₂ (fun c d => c = d ∨ c ∈ ['-', '_'] ∧ d ∈ ['-', '_']) a.toList b.toList

theorem normalize_eq_iff {a b : String} : normalize a = normalize b ↔ SameName a b := by
  have sameChar : ∀ c d : Char, (if c = '-' then '_' else c) = (if d = '-' then '_' else d) ↔
      c = d ∨ c ∈ ['-', '_'] ∧ d ∈ ['-', '_'] := by
    intro c d
    grind
  simp only [normalize, Text.replaceChar, String.ofList_inj, SameName]
  rw [← List.forall₂_eq_eq_eq, List.forall₂_map_left_iff, List.forall₂_map_right_iff]
  simp only [sameChar]

theorem hyphen_not_mem_normalize (name : String) : '-' ∉ (normalize name).toList := by
  simp only [normalize, Text.replaceChar, String.toList_ofList, List.mem_map, not_exists, not_and]
  intro c _ isHyphen
  by_cases hyphen : c = '-' <;> simp [hyphen] at isHyphen

def HasName (names : List String) (name : String) : Prop :=
  ∃ known ∈ names, SameName known name

theorem normalize_mem_modules_iff {names : List String} {name : String} :
    normalize name ∈ (ofModules names).modules ↔ HasName names name := by
  simp [ofModules, HasName, normalize_eq_iff]

/-- Steps on policies that are changed in place: what one step has written stays when a later
one fails. -/
abbrev Edit := ExceptT SetupError (StateM Solution)

/-- The outcome of an edit, and the policies after it. -/
def Edit.on {α : Type} (edit : Edit α) (s : Solution) : Except SetupError α × Solution :=
  (ExceptT.run edit).run s

def checkMember (name : String) : Edit String := do
  MonadExcept.ofExcept ((← get).member name)

def register (r : Request) : Edit Unit := do
  let name ← checkMember r.1
  let names ← (sortedDistinct r.2.names).mapM checkMember
  match (← get).policies.lookup name with
  | none =>
    modify fun s =>
      { s with policies := setPolicy name ⟨r.2.stance, sortedDistinct names⟩ s.policies }
  | some existing =>
    if existing.stance = r.2.stance then
      modify fun s =>
        let merged := sortedDistinct (existing.names ++ names)
        { s with policies := setPolicy name { existing with names := merged } s.policies }
    else throw (.conflictingPolicy name)

/-- What an edit makes of policies if it leaves them as they were where it fails. -/
def atomically (s : Solution) : Except SetupError Solution → Except SetupError Unit × Solution
  | .ok next => (.ok (), next)
  | .error e => (.error e, s)

theorem Edit.on_bind {α β : Type} (edit : Edit α) (f : α → Edit β) (s : Solution) :
    (edit >>= f).on s =
      match edit.on s with
      | (.ok a, next) => (f a).on next
      | (.error e, next) => (.error e, next) := by
  simp only [on, ExceptT.run_bind, StateT.run_bind]
  rcases (StateT.run (ExceptT.run edit) s) with ⟨outcome, next⟩
  cases outcome <;> rfl

theorem on_checkMember (name : String) (s : Solution) :
    (checkMember name).on s = (s.member name, s) := by
  have read : Edit.on get s = (.ok s, s) := rfl
  simp only [checkMember, Edit.on_bind, read]
  cases s.member name <;> rfl

theorem on_mapM_checkMember (names : List String) (s : Solution) :
    Edit.on (names.mapM checkMember) s = (names.mapM s.member, s) := by
  induction names with
  | nil => rfl
  | cons name rest inductionHypothesis =>
      rw [List.mapM_cons, Edit.on_bind, on_checkMember, List.mapM_cons]
      cases s.member name with
      | error e => rfl
      | ok known =>
          simp only [Edit.on_bind, inductionHypothesis]
          cases rest.mapM s.member <;> rfl

theorem on_register (r : Request) (s : Solution) :
    (register r).on s = s.atomically (s.request r) := by
  rcases r with ⟨name, policy⟩
  have read : Edit.on get s = (.ok s, s) := rfl
  unfold register request addPolicy
  rw [Edit.on_bind, on_checkMember]
  cases s.member name with
  | error e => rfl
  | ok name =>
      simp only [Edit.on_bind, on_mapM_checkMember]
      cases (sortedDistinct policy.names).mapM s.member with
      | error e => rfl
      | ok names =>
          -- Nothing is written up to here, and what is left does one of write and fail.
          simp only [read, bind, Except.bind]
          cases s.policies.lookup name with
          | none => rfl
          | some existing =>
              by_cases same : existing.stance = policy.stance
              · simp only [← same]
                rfl
              · simp only [if_neg same]
                rfl

/-- The policies after a call, be it granted or not. -/
def attempt (s : Solution) (r : Request) : Solution := ((register r).on s).2

def isGranted (s : Solution) (r : Request) : Bool := ((register r).on s).1.isOk

def after (s : Solution) (calls : List Request) : Solution := calls.foldl attempt s

/-- The calls that are granted, one after another. -/
def successes (s : Solution) : List Request → List Request
  | [] => []
  | r :: rest =>
    if s.isGranted r then r :: (s.attempt r).successes rest else (s.attempt r).successes rest

/-- What granted calls amount to for a module: the stance of the first and the names of all. -/
def settled (name : String) (calls : List Request) : Option Policy :=
  match calls.filter (normalize ·.1 = name) with
  | [] => none
  | first :: rest =>
    some ⟨first.2.stance, sortedDistinct ((first :: rest).flatMap (·.2.names.map normalize))⟩

variable {s next : Solution} {r : Request} {calls others : List Request}

theorem attempt_cases (s : Solution) (r : Request) :
    s.isGranted r = true ∧ s.request r = .ok (s.attempt r) ∨
      s.isGranted r = false ∧ s.attempt r = s ∧ ∃ e, s.request r = .error e := by
  unfold isGranted attempt
  rw [on_register]
  cases s.request r with
  | ok next => exact .inl ⟨rfl, rfl⟩
  | error e => exact .inr ⟨rfl, rfl, e, rfl⟩

theorem isGranted_iff :
    s.isGranted r = true ↔ s.Admits r ∧
      ∀ policy, s.policies.lookup (normalize r.1) = some policy → policy.stance = r.2.stance := by
  have stances : (∀ stance, s.stanceFor (normalize r.1) = some stance → stance = r.2.stance) ↔
      ∀ policy, s.policies.lookup (normalize r.1) = some policy → policy.stance = r.2.stance := by
    simp [stanceFor]
  rw [← stances]
  rcases attempt_cases s r with ⟨isGranted, granted⟩ | ⟨isRefused, _, e, refused⟩
  · rcases request_eq_ok_iff.mp granted with ⟨admits, agreed, _⟩
    exact iff_of_true isGranted ⟨admits, agreed⟩
  · refine iff_of_false (by simp [isRefused]) ?_
    rintro ⟨admits, agreed⟩
    cases refused.symm.trans (request_eq_ok_iff.mpr ⟨admits, agreed, rfl⟩)

theorem isGranted_eq_false_iff :
    s.isGranted r = false ↔ normalize r.1 ∉ s.modules ∨
      (∃ listed ∈ r.2.names, normalize listed ∉ s.modules) ∨
      ∃ policy, s.policies.lookup (normalize r.1) = some policy ∧ policy.stance ≠ r.2.stance := by
  rw [← Bool.not_eq_true, isGranted_iff, admits_iff]
  simp only [not_and_or, not_forall, exists_prop, or_assoc, ne_eq]

theorem settled_concat (name : String) (calls : List Request) (r : Request) :
    settled name (calls ++ [r]) =
      if normalize r.1 = name then
        some ⟨(settled name calls).elim r.2.stance (·.stance),
          sortedDistinct ((settled name calls).elim [] (·.names) ++ r.2.names.map normalize)⟩
      else settled name calls := by
  unfold settled
  rw [List.filter_append]
  by_cases here : normalize r.1 = name
  · rw [if_pos here, List.filter_cons_of_pos (by simpa using here), List.filter_nil]
    cases calls.filter (normalize ·.1 = name) with
    | nil => simp
    | cons first rest =>
        simp only [List.cons_append, Option.elim_some, Option.some.injEq, Policy.mk.injEq, true_and]
        apply sortedDistinct_congr
        simp [or_assoc]
  · rw [if_neg here, List.filter_cons_of_neg (by simpa using here), List.filter_nil,
      List.append_nil]

theorem exists_call_of_settled {name : String} {policy : Policy}
    (held : settled name calls = some policy) :
    (∃ r ∈ calls, normalize r.1 = name) ∧
      ∀ listed ∈ policy.names, ∃ r ∈ calls, ∃ n ∈ r.2.names, normalize n = listed := by
  unfold settled at held
  split at held
  next => cases held
  next first rest calledFor =>
    cases held
    have called : ∀ r ∈ first :: rest, r ∈ calls ∧ normalize r.1 = name := by
      intro r member
      rw [← calledFor, List.mem_filter] at member
      simpa using member
    constructor
    · exact ⟨first, called first List.mem_cons_self⟩
    · intro listed member
      rw [mem_sortedDistinct, List.mem_flatMap] at member
      rcases member with ⟨r, rMember, member⟩
      exact ⟨r, (called r rMember).1, List.mem_map.mp member⟩

/-- Calls that do not contradict each other amount to the same in every order. -/
theorem settled_perm (reordered : calls.Perm others) (consistent : Consistent calls)
    (name : String) : settled name calls = settled name others := by
  have sameCalls := reordered.filter (normalize ·.1 = name)
  have called : ∀ r ∈ calls.filter (normalize ·.1 = name), r ∈ calls ∧ normalize r.1 = name := by
    intro r member
    simpa using member
  unfold settled
  cases here : calls.filter (normalize ·.1 = name) with
  | nil =>
      rw [here] at sameCalls
      rw [sameCalls.nil_eq]
  | cons first rest =>
      cases there : others.filter (normalize ·.1 = name) with
      | nil => simp [here, there] at sameCalls
      | cons otherFirst otherRest =>
          rw [here, there] at sameCalls
          rw [here] at called
          -- Another call may be the first now, but it asks for the same stance.
          rcases called first List.mem_cons_self with ⟨member, named⟩
          rcases called otherFirst (sameCalls.mem_iff.mpr List.mem_cons_self) with
            ⟨otherMember, otherNamed⟩
          have sameStance := consistent first member otherFirst otherMember
            (named.trans otherNamed.symm)
          have sameNames := sortedDistinct_congr fun n =>
            (sameCalls.flatMap_right (·.2.names.map normalize)).mem_iff (a := n)
          simp only [sameStance, sameNames]

/-- The store holds what the calls amount to, for every module. -/
structure Holds (s : Solution) (calls : List Request) : Prop where
  admitted : ∀ r ∈ calls, s.Admits r
  policy : ∀ name, s.policies.lookup name = settled name calls

namespace Holds

theorem ofModules (names : List String) : (ofModules names).Holds [] :=
  ⟨fun _ member => absurd member List.not_mem_nil, fun _ => rfl⟩

theorem request (holds : s.Holds calls) (added : s.request r = .ok next) :
    next.modules = s.modules ∧ next.Holds (calls ++ [r]) := by
  rcases request_eq_ok_iff.mp added with ⟨admits, agreed, rfl⟩
  refine ⟨modules_granted s r, ?_, ?_⟩
  · intro other member
    rcases List.mem_append.mp member with known | new
    · exact ⟨(holds.admitted other known).subject, (holds.admitted other known).listed⟩
    · cases List.mem_singleton.mp new
      exact ⟨admits.subject, admits.listed⟩
  · intro name
    rw [granted, lookup_setPolicy, settled_concat, ← holds.policy]
    by_cases here : name = normalize r.1
    · subst here
      rw [if_pos rfl, if_pos rfl]
      cases known : s.policies.lookup (normalize r.1) with
      | none => simp [listedFor, known]
      | some existing =>
          have same := agreed existing.stance (by simp [stanceFor, known])
          simp [listedFor, known, same]
    · rw [if_neg here, if_neg (Ne.symm here)]

/-- After more calls, some of them refused perhaps, the store also holds what was granted. -/
theorem after (holds : s.Holds calls) (more : List Request) :
    (s.after more).modules = s.modules ∧ (s.after more).Holds (calls ++ s.successes more) := by
  induction more generalizing s calls with
  | nil => exact ⟨rfl, by simpa [Solution.after, successes] using holds⟩
  | cons r rest inductionHypothesis =>
      rw [Solution.after, List.foldl_cons, successes]
      rcases attempt_cases s r with ⟨isGranted, granted⟩ | ⟨isRefused, unchanged, _⟩
      · rcases holds.request granted with ⟨sameModules, grown⟩
        rcases inductionHypothesis grown with ⟨laterModules, later⟩
        rw [if_pos isGranted, List.append_cons]
        exact ⟨laterModules.trans sameModules, later⟩
      · rw [if_neg (by simp [isRefused]), unchanged]
        exact inductionHypothesis holds

end Holds

theorem lookup_after (names : List String) (calls : List Request) (name : String) :
    ((ofModules names).after calls).policies.lookup name =
      settled name ((ofModules names).successes calls) :=
  ((Holds.ofModules names).after calls).2.policy name

theorem successes_sublist (s : Solution) (calls : List Request) :
    (s.successes calls).Sublist calls := by
  induction calls generalizing s with
  | nil => exact .slnil
  | cons r rest inductionHypothesis =>
      rw [successes]
      split
      next => exact (inductionHypothesis _).cons_cons r
      next => exact (inductionHypothesis _).cons r

theorem successes_eq_self_iff :
    s.successes calls = calls ↔ ∃ final, calls.foldlM request s = .ok final := by
  induction calls generalizing s with
  | nil => exact iff_of_true rfl ⟨s, rfl⟩
  | cons r rest inductionHypothesis =>
      simp only [successes, List.foldlM_cons, bind_eq_ok_iff]
      rcases attempt_cases s r with ⟨isGranted, granted⟩ | ⟨isRefused, unchanged, e, refused⟩
      · rw [if_pos isGranted, List.cons_inj_right, inductionHypothesis, exists_comm]
        simp [granted]
      · rw [if_neg (by simp [isRefused])]
        apply iff_of_false
        · intro same
          have shorter := (successes_sublist (s.attempt r) rest).length_le
          rw [same, List.length_cons] at shorter
          omega
        · rintro ⟨final, next, granted, _⟩
          cases refused.symm.trans granted

theorem successes_eq_self_iff_consistent {names : List String} :
    (ofModules names).successes calls = calls ↔
      (∀ r ∈ calls, (ofModules names).Admits r) ∧ Consistent calls := by
  rw [successes_eq_self_iff]
  constructor
  · rintro ⟨final, granted⟩
    rcases (Grants.ofModules names).foldlM granted with ⟨sameModules, grants⟩
    refine ⟨?_, grants.consistent⟩
    intro r member
    have admits := grants.admitted r member
    exact ⟨sameModules ▸ admits.subject, sameModules ▸ admits.listed⟩
  · rintro ⟨admitted, consistent⟩
    exact (Grants.ofModules names).exists_foldlM admitted consistent

/-- Registering a policy in place is atomic. A call is refused exactly if it names a module
outside the solution or turns a policy round, and a refused call changes nothing. After any
calls the policy of a module is what the granted calls for it amount to, in normal form and
inside the solution. Calls that are all granted in one order are so in every order, and
give the same policies. -/
theorem register_store (names : List String) :
    let start := ofModules names
    (∀ s r, (register r).on s = s.atomically (s.addPolicy r.1 r.2)) ∧
      (∀ calls r, let s := start.after calls
        (s.isGranted r = false ↔
            ¬ HasName names r.1 ∨ (∃ listed ∈ r.2.names, ¬ HasName names listed) ∨
              ∃ policy, s.policies.lookup (normalize r.1) = some policy ∧
                policy.stance ≠ r.2.stance) ∧
          (s.isGranted r = false → s.attempt r = s)) ∧
      (∀ calls name,
        (start.after calls).policies.lookup name = settled name (start.successes calls)) ∧
      (∀ calls name policy, (start.after calls).policies.lookup name = some policy →
        ∀ n ∈ name :: policy.names, '-' ∉ n.toList ∧ n ∈ names.map normalize) ∧
      ∀ calls others, calls.Perm others → start.successes calls = calls →
        start.successes others = others ∧
          ∀ name, (start.after calls).policies.lookup name =
            (start.after others).policies.lookup name := by
  intro start
  have held : ∀ calls, (start.after calls).modules = start.modules ∧
      (start.after calls).Holds (start.successes calls) := (Holds.ofModules names).after
  refine ⟨fun s r => on_register r s, ?_, lookup_after names, ?_, ?_⟩
  · intro calls r s
    constructor
    · rw [isGranted_eq_false_iff, (held calls).1]
      simp only [start, normalize_mem_modules_iff]
    · intro isRefused
      rcases attempt_cases s r with ⟨isGranted, _⟩ | ⟨_, unchanged, _⟩
      · cases isGranted.symm.trans isRefused
      · exact unchanged
  · intro calls name policy found
    rw [lookup_after] at found
    have inside : ∀ n ∈ name :: policy.names,
        ∃ m, normalize m = n ∧ normalize m ∈ start.modules := by
      rw [← (held calls).1, List.forall_mem_cons]
      rcases exists_call_of_settled found with ⟨⟨r, member, named⟩, listed⟩
      refine ⟨⟨r.1, named, ((held calls).2.admitted r member).subject⟩, ?_⟩
      intro n nMember
      rcases listed n nMember with ⟨r, member, m, mMember, same⟩
      exact ⟨m, same, ((held calls).2.admitted r member).listed m mMember⟩
    intro n member
    rcases inside n member with ⟨m, rfl, known⟩
    exact ⟨hyphen_not_mem_normalize m, mem_sortedDistinct.mp known⟩
  · intro calls others reordered allGranted
    rcases successes_eq_self_iff_consistent.mp allGranted with ⟨admitted, consistent⟩
    have allGrantedToo : start.successes others = others := by
      apply successes_eq_self_iff_consistent.mpr
      refine ⟨fun r member => admitted r (reordered.mem_iff.mpr member), ?_⟩
      exact consistent.subset reordered.symm.subset
    refine ⟨allGrantedToo, ?_⟩
    intro name
    rw [lookup_after, lookup_after, allGranted, allGrantedToo]
    exact settled_perm reordered consistent name

end Architecture.Solution
