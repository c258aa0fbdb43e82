import Architecture.Proofs.Rule.PolicyStore

/-!
# The references that policies flag

A policy flags references to modules of its solution, and no others. To allow some modules
is to forbid the rest of the solution. Names enter into a verdict in normal form only: those
of the solution, of the policies, of the module and of its references may each be spelled with
hyphens or underscores, and the same references are flagged.
-/

namespace Architecture.Solution

/-- Whether the policy that a module has, if any, flags a reference of the module. -/
def flagsIn (s : Solution) (m : ModuleDescriptor) (r : ModuleReference) : Bool :=
  (s.policies.lookup (normalize m.name)).any (s.flags · r)

/-- The positions of the references of a module that are flagged. -/
def flaggedAt (s : Solution) (m : ModuleDescriptor) : List Nat :=
  (m.references.zipIdx.filter fun e => s.flagsIn m e.1).map (·.2)

instance (a b : String) : Decidable (SameName a b) :=
  inferInstanceAs (Decidable (List.Forall₂ _ _ _))

instance (names : List String) (name : String) : Decidable (HasName names name) :=
  inferInstanceAs (Decidable (∃ known ∈ names, SameName known name))

/-- The modules of a solution that are not listed. -/
def unlisted (names listed : List String) : List String :=
  names.filter fun name => ¬ HasName listed name

variable {s : Solution} {m : ModuleDescriptor} {r : ModuleReference} {names listed : List String}
  {name subject : String}

theorem mem_flaggedAt {i : Nat} :
    i ∈ s.flaggedAt m ↔ ∃ r, m.references[i]? = some r ∧ s.flagsIn m r = true := by
  simp [flaggedAt, List.mem_zipIdx_iff_getElem?]

theorem map_references_flaggedAt {α : Type} (f : ModuleReference → α) :
    ((s.flaggedAt m).filterMap fun i => m.references[i]?.map f) =
      (m.references.filter (s.flagsIn m)).map f := by
  have present : ∀ e ∈ m.references.zipIdx.filter (fun e => s.flagsIn m e.1),
      (m.references[e.2]?.map f) = some (f e.1) := by
    intro e member
    have isAt := List.mem_zipIdx_iff_getElem?.mp (List.mem_filter.mp member).1
    rw [isAt, Option.map_some]
  calc ((s.flaggedAt m).filterMap fun i => m.references[i]?.map f)
    _ = (m.references.zipIdx.filter fun e => s.flagsIn m e.1).filterMap
          fun e => m.references[e.2]?.map f := by rw [flaggedAt, List.filterMap_map]; rfl
    _ = (m.references.zipIdx.filter fun e => s.flagsIn m e.1).map fun e => f e.1 := by
          rw [List.filterMap_congr present, ← List.filterMap_eq_map]; rfl
    _ = ((m.references.zipIdx.map (·.1)).filter (s.flagsIn m)).map f := by
          rw [List.filter_map, List.map_map]; rfl
    _ = (m.references.filter (s.flagsIn m)).map f := by rw [List.zipIdx_map_fst]

/-- The violations of a module are those of the references at the flagged positions. -/
theorem checkModule_eq_flaggedAt (s : Solution) (m : ModuleDescriptor) :
    ∃ stance, s.checkModule m = (s.flaggedAt m).filterMap fun i => m.references[i]?.map fun r =>
      info.violation m.name (.module r.name) (message m r stance) := by
  simp only [map_references_flaggedAt]
  cases held : s.policies.lookup (normalize m.name) with
  | none => exact ⟨.allow, by simp [checkModule, flagsIn, held]⟩
  | some policy =>
      refine ⟨policy.stance, ?_⟩
      have verdicts : s.flagsIn m = s.flags policy := by
        funext r
        rw [flagsIn, held, Option.any_some]
      rw [checkModule, held, verdicts]

theorem mem_modules_of_flagsIn (flagged : s.flagsIn m r = true) :
    normalize r.name ∈ s.modules := by
  rcases (Option.any_eq_true _ _).mp flagged with ⟨policy, _, flags⟩
  exact List.contains_iff_mem.mp (Bool.and_eq_true_iff.mp flags).1

/-- Whatever policies a solution has, a flagged reference is one to a module of it. -/
theorem exists_hasName_of_mem_flaggedAt {calls : List Request} {i : Nat}
    (flagged : i ∈ ((ofModules names).after calls).flaggedAt m) :
    ∃ r, m.references[i]? = some r ∧ HasName names r.name := by
  rcases mem_flaggedAt.mp flagged with ⟨r, isAt, flags⟩
  have inside := mem_modules_of_flagsIn flags
  rw [((Holds.ofModules names).after calls).1] at inside
  exact ⟨r, isAt, normalize_mem_modules_iff.mp inside⟩

section SinglePolicy

theorem attempt_of_isGranted {call : Request} (isGranted : s.isGranted call = true) :
    s.attempt call = s.granted call := by
  rcases attempt_cases s call with ⟨_, granted⟩ | ⟨isRefused, _⟩
  · exact (request_eq_ok_iff.mp granted).2.2.symm
  · cases isGranted.symm.trans isRefused

theorem mem_normalize_iff : normalize name ∈ listed.map normalize ↔ HasName listed name := by
  simp [HasName, normalize_eq_iff]

theorem hasName_unlisted_iff :
    HasName (unlisted names listed) name ↔ HasName names name ∧ ¬ HasName listed name := by
  have alike : ∀ known, SameName known name → (HasName listed known ↔ HasName listed name) := by
    intro known same
    rw [← mem_normalize_iff, ← mem_normalize_iff, normalize_eq_iff.mpr same]
  constructor
  · rintro ⟨known, member, same⟩
    rcases List.mem_filter.mp member with ⟨present, absent⟩
    exact ⟨⟨known, present, same⟩, (alike known same).not.mp (of_decide_eq_true absent)⟩
  · rintro ⟨⟨known, present, same⟩, absent⟩
    refine ⟨known, List.mem_filter.mpr ⟨present, ?_⟩, same⟩
    exact decide_eq_true ((alike known same).not.mpr absent)

theorem isGranted_ofModules {stance : Stance} (known : HasName names subject)
    (inside : ∀ n ∈ listed, HasName names n) :
    (ofModules names).isGranted (subject, ⟨stance, listed⟩) = true := by
  rw [isGranted_iff]
  refine ⟨⟨normalize_mem_modules_iff.mpr known, ?_⟩, by simp [ofModules]⟩
  intro n member
  exact normalize_mem_modules_iff.mpr (inside n member)

/-- What a policy that is alone in its solution flags. -/
theorem flagsIn_attempt_iff {stance : Stance} (known : HasName names subject)
    (inside : ∀ n ∈ listed, HasName names n) :
    ((ofModules names).attempt (subject, ⟨stance, listed⟩)).flagsIn m r = true ↔
      SameName subject m.name ∧ HasName names r.name ∧
        match stance with
        | .allow => ¬ HasName listed r.name
        | .forbid => HasName listed r.name := by
  rw [attempt_of_isGranted (isGranted_ofModules known inside), flagsIn, granted, lookup_setPolicy]
  by_cases here : normalize m.name = normalize subject
  · have named : SameName subject m.name := normalize_eq_iff.mp here.symm
    rw [if_pos here]
    cases stance <;> simp [flags, named, listedFor, ofModules, ← mem_normalize_iff]
  · have unnamed : ¬ SameName subject m.name :=
      fun same => here (normalize_eq_iff.mpr same).symm
    simp [here, unnamed, ofModules]

theorem mem_flaggedAt_allow_iff (known : HasName names subject)
    (inside : ∀ n ∈ listed, HasName names n) {i : Nat} :
    i ∈ ((ofModules names).attempt (subject, ⟨.allow, listed⟩)).flaggedAt m ↔
      SameName subject m.name ∧
        ∃ r, m.references[i]? = some r ∧ HasName names r.name ∧ ¬ HasName listed r.name := by
  rw [mem_flaggedAt]
  simp only [flagsIn_attempt_iff known inside]
  constructor
  · rintro ⟨r, isAt, named, verdict⟩
    exact ⟨named, r, isAt, verdict⟩
  · rintro ⟨named, r, isAt, verdict⟩
    exact ⟨r, isAt, named, verdict⟩

theorem hasName_of_mem_unlisted : ∀ n ∈ unlisted names listed, HasName names n := by
  intro n member
  exact ⟨n, List.mem_of_mem_filter member, normalize_eq_iff.mp rfl⟩

/-- To allow some modules of a solution is to forbid the others. -/
theorem flaggedAt_allow_eq_forbid (known : HasName names subject)
    (inside : ∀ n ∈ listed, HasName names n) (m : ModuleDescriptor) :
    ((ofModules names).attempt (subject, ⟨.allow, listed⟩)).flaggedAt m =
      ((ofModules names).attempt (subject, ⟨.forbid, unlisted names listed⟩)).flaggedAt m := by
  have verdicts : ((ofModules names).attempt (subject, ⟨.allow, listed⟩)).flagsIn m =
      ((ofModules names).attempt (subject, ⟨.forbid, unlisted names listed⟩)).flagsIn m := by
    funext r
    rw [Bool.eq_iff_iff, flagsIn_attempt_iff known inside,
      flagsIn_attempt_iff known hasName_of_mem_unlisted, hasName_unlisted_iff]
    simp only [and_self_left]
  rw [flaggedAt, flaggedAt, verdicts]

end SinglePolicy

section Respelling

/-- The same call but for the spelling of its names. -/
structure SameCall (call other : Request) : Prop where
  subject : SameName call.1 other.1
  stance : call.2.stance = other.2.stance
  listed : List.Forall₂ SameName call.2.names other.2.names

/-- The same module and the same references but for the spelling of their names. -/
structure SameModule (m other : ModuleDescriptor) : Prop where
  name : SameName m.name other.name
  references : List.Forall₂ (fun r o => SameName r.name o.name) m.references other.references

variable {call other : Request} {calls others : List Request}

theorem map_normalize_eq {respelled : List String}
    (same : List.Forall₂ SameName names respelled) :
    names.map normalize = respelled.map normalize := by
  rw [← List.forall₂_eq_eq_eq, List.forall₂_map_left_iff, List.forall₂_map_right_iff]
  exact same.imp fun _ _ => normalize_eq_iff.mpr

theorem SameCall.granted_eq (same : SameCall call other) (s : Solution) :
    s.granted call = s.granted other := by
  simp only [granted, normalize_eq_iff.mpr same.subject, map_normalize_eq same.listed, same.stance]

theorem SameCall.isGranted_eq (same : SameCall call other) (s : Solution) :
    s.isGranted call = s.isGranted other := by
  have sameListed : (∀ name ∈ call.2.names, normalize name ∈ s.modules) ↔
      ∀ name ∈ other.2.names, normalize name ∈ s.modules := by
    rw [← List.forall_mem_map, map_normalize_eq same.listed, List.forall_mem_map]
  rw [Bool.eq_iff_iff, isGranted_iff, isGranted_iff, admits_iff, admits_iff, sameListed,
    normalize_eq_iff.mpr same.subject, same.stance]

theorem SameCall.attempt_eq (same : SameCall call other) (s : Solution) :
    s.attempt call = s.attempt other := by
  have sameOutcome := same.isGranted_eq s
  rcases attempt_cases s call with ⟨isGranted, _⟩ | ⟨isRefused, unchanged, _⟩
  · rw [attempt_of_isGranted isGranted, same.granted_eq]
    exact (attempt_of_isGranted (sameOutcome ▸ isGranted)).symm
  · rcases attempt_cases s other with ⟨otherGranted, _⟩ | ⟨_, otherUnchanged, _⟩
    · cases isRefused.symm.trans (sameOutcome.trans otherGranted)
    · rw [unchanged, otherUnchanged]

/-- Calls in another spelling leave the very same policies, and the same of them are granted. -/
theorem after_eq_of_sameCalls (same : List.Forall₂ SameCall calls others) (s : Solution) :
    s.after calls = s.after others ∧
      List.Forall₂ SameCall (s.successes calls) (s.successes others) := by
  induction same generalizing s with
  | nil => exact ⟨rfl, .nil⟩
  | @cons call other calls others first _ inductionHypothesis =>
      rw [after, after, List.foldl_cons, List.foldl_cons, successes, successes,
        ← first.attempt_eq, ← first.isGranted_eq]
      rcases inductionHypothesis (s.attempt call) with ⟨samePolicies, sameSuccesses⟩
      refine ⟨samePolicies, ?_⟩
      split
      next => exact .cons first sameSuccesses
      next => exact sameSuccesses

theorem SameModule.flaggedAt_eq {n : ModuleDescriptor} (same : SameModule m n) (s : Solution) :
    s.flaggedAt m = s.flaggedAt n := by
  -- The positions depend on the list of verdicts alone.
  have positions : ∀ m, s.flaggedAt m =
      (((m.references.map (s.flagsIn m)).zipIdx.filter (·.1)).map (·.2)) := by
    intro m
    rw [flaggedAt, List.zipIdx_map, List.filter_map, List.map_map]
    rfl
  have verdicts : m.references.map (s.flagsIn m) = n.references.map (s.flagsIn n) := by
    rw [← List.forall₂_eq_eq_eq, List.forall₂_map_left_iff, List.forall₂_map_right_iff]
    apply same.references.imp
    intro r o sameReference
    simp only [flagsIn, flags, normalize_eq_iff.mpr same.name, normalize_eq_iff.mpr sameReference]
  rw [positions, positions, verdicts]

end Respelling

/-- A policy that allows some modules of a solution flags the same references as one that
forbids the others: those to modules of the solution that are not among the allowed. No policy
flags a reference to a module outside the solution. Hyphens in the place of underscores, or
the other way round, in any of the names change neither which policies are granted nor the
positions of the flagged references. One violation is found for each flagged position, in
order. -/
theorem flaggedAt_laws (names : List String) :
    let start := ofModules names
    (∀ subject listed, HasName names subject → (∀ n ∈ listed, HasName names n) →
        let allowing : Request := (subject, ⟨.allow, listed⟩)
        let forbidding : Request := (subject, ⟨.forbid, unlisted names listed⟩)
        start.isGranted allowing = true ∧ start.isGranted forbidding = true ∧
          ∀ m, (start.attempt allowing).flaggedAt m = (start.attempt forbidding).flaggedAt m ∧
            ∀ i, i ∈ (start.attempt allowing).flaggedAt m ↔ SameName subject m.name ∧
              ∃ r, m.references[i]? = some r ∧ HasName names r.name ∧ ¬ HasName listed r.name) ∧
      (∀ calls m, ∀ i ∈ (start.after calls).flaggedAt m,
        ∃ r, m.references[i]? = some r ∧ HasName names r.name) ∧
      (∀ others calls otherCalls m n, List.Forall₂ SameName names others →
        List.Forall₂ SameCall calls otherCalls → SameModule m n →
          List.Forall₂ SameCall (start.successes calls)
              ((ofModules others).successes otherCalls) ∧
            (start.after calls).flaggedAt m = ((ofModules others).after otherCalls).flaggedAt n) ∧
      ∀ s m, ∃ stance, checkModule s m = (s.flaggedAt m).filterMap fun i =>
        m.references[i]?.map fun r =>
          info.violation m.name (.module r.name) (message m r stance) := by
  intro start
  refine ⟨?_, ?_, ?_, checkModule_eq_flaggedAt⟩
  · intro subject listed known inside allowing forbidding
    refine ⟨isGranted_ofModules known inside,
      isGranted_ofModules known hasName_of_mem_unlisted, ?_⟩
    intro m
    exact ⟨flaggedAt_allow_eq_forbid known inside m, fun i => mem_flaggedAt_allow_iff known inside⟩
  · intro calls m i flagged
    exact exists_hasName_of_mem_flaggedAt flagged
  · intro others calls otherCalls m n sameNames sameCalls sameModule
    have sameStart : ofModules others = start := by
      rw [ofModules, ← map_normalize_eq sameNames]
      rfl
    rcases after_eq_of_sameCalls sameCalls start with ⟨samePolicies, sameSuccesses⟩
    rw [sameStart, ← samePolicies]
    exact ⟨sameSuccesses, sameModule.flaggedAt_eq _⟩

/-- A module that may depend on the domain and depends on the infrastructure as well, in names
that are spelled otherwise than in the solution. -/
def webModule : ModuleDescriptor where
  name := "app_web"
  references := [{ name := "app_domain" }, { name := "serde" }, { name := "app_infra" }]

theorem flaggedAt_laws_webModule :
    let names := ["app-web", "app_domain", "app-infra"]
    let allowing : Request := ("app_web", ⟨.allow, ["app-domain"]⟩)
    let forbidding : Request := ("app_web", ⟨.forbid, unlisted names ["app-domain"]⟩)
    (ofModules names).isGranted allowing = true ∧ (ofModules names).isGranted forbidding = true ∧
      ((ofModules names).attempt allowing).flaggedAt webModule =
        ((ofModules names).attempt forbidding).flaggedAt webModule ∧
      ∀ i < 3, i ∈ ((ofModules names).attempt allowing).flaggedAt webModule ↔ i = 2 := by
  intro names allowing forbidding
  rcases (flaggedAt_laws names).1 "app_web" ["app-domain"] (by decide) (by decide) with
    ⟨allowed, forbidden, flagged⟩
  refine ⟨allowed, forbidden, (flagged webModule).1, ?_⟩
  have named : SameName "app_web" webModule.name := by decide
  have verdicts : ∀ i < 3, (webModule.references[i]?.any fun r =>
      HasName names r.name ∧ ¬ HasName ["app-domain"] r.name) = decide (i = 2) := by decide
  intro i bound
  have verdict := verdicts i bound
  rw [Bool.eq_iff_iff, Option.any_eq_true, decide_eq_true_iff] at verdict
  rw [(flagged webModule).2, and_iff_right named, ← verdict]
  simp only [decide_eq_true_iff]

end Architecture.Solution
