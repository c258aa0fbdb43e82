import Architecture.Proofs.Hierarchy.Supertypes

/-!
# Instantiations and supertypes

The search for an instantiation marks types by their keys, the walk through the
supertypes marks references by their names. The search therefore meets every
reference on the way up, while the walk follows up only the first reference of each
name. What the walk finds is always found by the search, and the two agree exactly if
the other references of a name lead to nothing new.
-/

namespace Architecture.TypeIndex

open Worklist

variable {ix : TypeIndex} {t : TypeDescriptor} {definition : TypeName}

theorem mem_loaded {refs : List NamedRef} {u : ix.Loaded} :
    u ∈ ix.loaded refs ↔ ∃ ref ∈ refs, ix.resolve? ref = some u.1 := by
  simp only [loaded, List.mem_filterMap]
  refine exists_congr fun ref => and_congr_right fun _ => ?_
  split
  next v found => simp [found, Subtype.ext_iff]
  next missing => simp [missing]

/-- The loaded types among the direct supertypes of a type. -/
def loadedParents (ix : TypeIndex) (u : ix.Loaded) : List ix.Loaded :=
  ix.loaded u.1.supertypeRefs

/-- No direct supertype has the given name. -/
def Lacks (definition : TypeName) (u : ix.Loaded) : Prop :=
  ∀ ref ∈ u.1.supertypeRefs, ref.name ≠ definition

/-- A reference that a type derives from. A loaded type with the key of the type itself
stands for the type, so the way up does not go through it. -/
inductive Derives (ix : TypeIndex) (t : TypeDescriptor) : NamedRef → Prop where
  | direct {ref : NamedRef} : ref ∈ t.supertypeRefs → Derives ix t ref
  | onward {ref parent : NamedRef} {u : TypeDescriptor} : Derives ix t ref →
      ix.resolve? ref = some u → u.key ≠ t.key → parent ∈ u.supertypeRefs → Derives ix t parent

/-- The type derives from an instantiation of a definition. -/
def Implements (ix : TypeIndex) (t : TypeDescriptor) (definition : TypeName) : Prop :=
  ∃ ref, ix.Derives t ref ∧ ref.name = definition

theorem derives_of_instantiationFrom {marked : List TypeKey} {queue : List ix.Loaded}
    {ref : NamedRef} (own : t.key ∈ marked)
    (met : ∀ u ∈ queue, ∃ ref, ix.Derives t ref ∧ ix.resolve? ref = some u.1)
    (found : ix.instantiationFrom definition marked queue = some ref) :
    ix.Derives t ref ∧ ref.name = definition := by
  fun_induction instantiationFrom ix definition marked queue with
  | case1 marked => simp at found
  | case2 marked u loaded queue known inductionHypothesis =>
      exact inductionHypothesis own (List.forall_mem_cons.mp met).2 found
  | case3 marked u loaded queue unknown first here =>
      cases found
      have sameName := List.find?_some here
      rcases (List.forall_mem_cons.mp met).1 with ⟨lower, derives, resolved⟩
      have otherKey : u.key ≠ t.key := fun same => unknown (same ▸ own)
      refine ⟨.onward derives resolved otherKey (List.mem_of_find?_eq_some here), ?_⟩
      simpa using sameName
  | case4 marked u loaded queue unknown missing inductionHypothesis =>
      refine inductionHypothesis (List.mem_cons_of_mem _ own) ?_ found
      rcases List.forall_mem_cons.mp met with ⟨⟨lower, derives, resolved⟩, others⟩
      have otherKey : u.key ≠ t.key := fun same => unknown (same ▸ own)
      intro v member
      rcases List.mem_append.mp member with queued | new
      · exact others v queued
      · rcases mem_loaded.mp new with ⟨parent, parentMember, found⟩
        exact ⟨parent, .onward derives resolved otherKey parentMember, found⟩

theorem exists_search_of_instantiationFrom_eq_none {marked : List TypeKey}
    {queue : List ix.Loaded} (missing : ix.instantiationFrom definition marked queue = none) :
    ∃ keys, Search (fun u : ix.Loaded => u.1.key) ix.loadedParents (Lacks definition)
      marked queue keys := by
  fun_induction instantiationFrom ix definition marked queue with
  | case1 marked => exact ⟨marked, .done⟩
  | case2 marked t loaded queue known inductionHypothesis =>
      rcases inductionHypothesis missing with ⟨keys, search⟩
      exact ⟨keys, .skip known search⟩
  | case3 marked t loaded queue unknown first here => simp at missing
  | case4 marked t loaded queue unknown absent inductionHypothesis =>
      rcases inductionHypothesis missing with ⟨keys, search⟩
      refine ⟨keys, .follow unknown ?_ search⟩
      intro ref member
      simpa using List.find?_eq_none.mp absent ref member

section Modules

variable {modules : List ModuleDescriptor} {ref : NamedRef}

theorem get?_key_of_reachable {u : (ofModules modules).Loaded} {refs : List NamedRef}
    (reached : Reachable (ofModules modules).loadedParents ((ofModules modules).loaded refs) u) :
    (ofModules modules).get? u.1.key = some u.1 := by
  cases reached with
  | queued member =>
      rcases mem_loaded.mp member with ⟨_, _, found⟩
      exact get?_key_of_resolve? found
  | step _ member =>
      rcases mem_loaded.mp member with ⟨_, _, found⟩
      exact get?_key_of_resolve? found

/-- A search without result has followed up every reference that the type derives from. -/
theorem ne_of_derives_of_instantiationFrom_eq_none
    (lacking : ∀ ref ∈ t.supertypeRefs, ref.name ≠ definition)
    (missing : (ofModules modules).instantiationFrom definition [t.key]
      ((ofModules modules).loaded t.supertypeRefs) = none)
    (derives : (ofModules modules).Derives t ref) : ref.name ≠ definition := by
  rcases exists_search_of_instantiationFrom_eq_none missing with ⟨keys, search⟩
  suffices ref.name ≠ definition ∧
      ∀ u, (ofModules modules).resolve? ref = some u → u.key ∈ keys from this.1
  induction derives with
  | direct member =>
      refine ⟨lacking _ member, ?_⟩
      intro u found
      exact search.mark_mem ⟨u, (mem_of_resolve? found).2⟩ (mem_loaded.mpr ⟨_, member, found⟩)
  | @onward ref parent u _ resolved otherKey member inductionHypothesis =>
      have marked := inductionHypothesis.2 u resolved
      rcases search.mem_marked_or_exists_followed u.key marked with known | followed
      · exact absurd (List.mem_singleton.mp known) otherKey
      · rcases followed with ⟨v, reached, sameKey, lacks, led⟩
        have same : v.1 = u := by
          have loaded := get?_key_of_reachable reached
          rw [sameKey, get?_key_of_resolve? resolved] at loaded
          exact (Option.some.inj loaded).symm
        subst same
        refine ⟨lacks _ member, ?_⟩
        intro w found
        exact led ⟨w, (mem_of_resolve? found).2⟩ (mem_loaded.mpr ⟨_, member, found⟩)

/-- An instantiation is found exactly if the type derives from one. -/
theorem instantiation?_isSome_iff_implements :
    ((ofModules modules).instantiation? t definition).isSome = true ↔
      (ofModules modules).Implements t definition := by
  rw [instantiation?]
  split
  next ref here =>
    have sameName := List.find?_some here
    refine iff_of_true rfl ⟨ref, .direct (List.mem_of_find?_eq_some here), ?_⟩
    simpa using sameName
  next absent =>
    constructor
    · intro found
      rcases Option.isSome_iff_exists.mp found with ⟨ref, found⟩
      refine ⟨ref, derives_of_instantiationFrom List.mem_cons_self ?_ found⟩
      intro u member
      rcases mem_loaded.mp member with ⟨direct, directMember, resolved⟩
      exact ⟨direct, .direct directMember, resolved⟩
    · rintro ⟨ref, derives, sameName⟩
      by_contra missing
      rw [Bool.not_eq_true, Option.isSome_eq_false_iff, Option.isNone_iff_eq_none] at missing
      refine ne_of_derives_of_instantiationFrom_eq_none ?_ missing derives sameName
      intro direct member
      simpa using List.find?_eq_none.mp absent direct member

/-- For a type that its own key stands for, coming back to the key leads to nothing new. -/
theorem derives_iff_meets (own : (ofModules modules).get? t.key = some t) :
    (ofModules modules).Derives t ref ↔ (ofModules modules).Meets t ref := by
  constructor
  · intro derives
    induction derives with
    | direct member => exact .queued member
    | onward _ resolved _ member inductionHypothesis =>
        exact .step inductionHypothesis (mem_parents.mpr ⟨_, resolved, member⟩)
  · intro met
    induction met with
    | queued member => exact .direct member
    | step _ member inductionHypothesis =>
        rcases mem_parents.mp member with ⟨u, resolved, direct⟩
        by_cases sameKey : u.key = t.key
        · have same := get?_key_of_resolve? resolved
          rw [sameKey, own] at same
          cases same
          exact .direct direct
        · exact .onward inductionHypothesis resolved sameKey direct

/-- An instantiation is found exactly if a reference to the definition is met. -/
theorem instantiation?_isSome_iff (own : (ofModules modules).get? t.key = some t) :
    ((ofModules modules).instantiation? t definition).isSome = true ↔
      ∃ ref, (ofModules modules).Meets t ref ∧ ref.name = definition := by
  rw [instantiation?_isSome_iff_implements, Implements]
  simp only [derives_iff_meets own]

end Modules

/-- The search for instantiations finds every supertype. It finds nothing else exactly
if all references that are met, and not only the first of each name, lead to
supertypes, as they do where references of one name lead on to the same names. -/
theorem instantiation?_agrees_iff (modules : List ModuleDescriptor) (t : TypeDescriptor)
    (own : (ofModules modules).get? t.key = some t) :
    let ix := ofModules modules
    (∀ n ∈ ix.supertypes t, (ix.instantiation? t n).isSome) ∧
      ((∀ n, (ix.instantiation? t n).isSome ↔ n ∈ ix.supertypes t) ↔
        ∀ ref, ix.Meets t ref → ∀ parent ∈ ix.parents ref, parent.name ∈ ix.supertypes t) ∧
      (ix.Unambiguous t → ∀ n, (ix.instantiation? t n).isSome ↔ n ∈ ix.supertypes t) := by
  intro ix
  have found : ∀ n ∈ ix.supertypes t, (ix.instantiation? t n).isSome := by
    intro n member
    rcases exists_followed_of_mem_supertypes member with ⟨ref, met, sameName, _⟩
    exact (instantiation?_isSome_iff own).mpr ⟨ref, met, sameName⟩
  refine ⟨found, ⟨?_, ?_⟩, ?_⟩
  · intro agree ref met parent member
    exact (agree _).mp ((instantiation?_isSome_iff own).mpr ⟨parent, .step met member, rfl⟩)
  · intro led n
    refine ⟨?_, found n⟩
    intro isSome
    rcases (instantiation?_isSome_iff own).mp isSome with ⟨ref, met, rfl⟩
    cases met with
    | queued direct => exact name_mem_supertypes direct
    | step lower member => exact led _ lower _ member
  · intro unambiguous n
    rw [instantiation?_isSome_iff own, mem_supertypes_iff unambiguous]

/-- A job that takes steps of one name from two modules. -/
def job : TypeDescriptor where
  name := ⟨some "App", "Job"⟩
  owner := "App"
  kind := .plainClass
  interfaces := [
    .named ⟨some "Shared", "Step"⟩ "Alpha" [], .named ⟨some "Shared", "Step"⟩ "Beta" []]

/-- The second step is audited, and the first extends what is given. -/
def jobModules (first : List TypeRef) : List ModuleDescriptor :=
  [{ name := "App", types := [job] },
    { name := "Alpha"
      types := [{ name := ⟨some "Shared", "Step"⟩, kind := .interface, interfaces := first }] },
    { name := "Beta"
      types := [{ name := ⟨some "Shared", "Audited"⟩, kind := .interface },
        { name := ⟨some "Shared", "Step"⟩, kind := .interface
          interfaces := [.named ⟨some "Shared", "Audited"⟩ "" []] }] }]

/-- Where both steps are audited it does not matter that only the first is followed up. -/
theorem instantiation?_agrees_iff_jobModules :
    let ix := ofModules (jobModules [.named ⟨some "Shared", "Audited"⟩ "Beta" []])
    ix.get? job.key = some job ∧ ix.Unambiguous job ∧
      ∀ n, (ix.instantiation? job n).isSome ↔ n ∈ ix.supertypes job := by
  intro ix
  have own : ix.get? job.key = some job := by decide +kernel
  let known : List NamedRef :=
    [⟨⟨some "Shared", "Step"⟩, "Alpha", []⟩, ⟨⟨some "Shared", "Step"⟩, "Beta", []⟩,
      ⟨⟨some "Shared", "Audited"⟩, "Beta", []⟩]
  have met : ∀ ref, ix.Meets job ref → ref ∈ known := by
    have onward : ∀ ref ∈ known, ∀ parent ∈ ix.parents ref, parent ∈ known := by decide +kernel
    intro ref met
    induction met with
    | queued direct => exact List.mem_append_left [_] direct
    | step _ member inductionHypothesis => exact onward _ inductionHypothesis _ member
  have unambiguous : ix.Unambiguous job := by
    have alike : ∀ ref ∈ known, ∀ other ∈ known, ref.name = other.name →
        ∀ n ∈ (ix.parents ref).map (·.name), n ∈ (ix.parents other).map (·.name) := by
      decide +kernel
    exact fun ref other refMet otherMet => alike ref (met ref refMet) other (met other otherMet)
  exact ⟨own, unambiguous, (instantiation?_agrees_iff _ job own).2.2 unambiguous⟩

/-- Where only the second step is audited, the job is an instantiation of what is not
among its supertypes. -/
theorem instantiation?_secondStep :
    let ix := ofModules (jobModules [])
    ix.get? job.key = some job ∧
      (ix.instantiation? job ⟨some "Shared", "Audited"⟩).isSome ∧
      ⟨some "Shared", "Audited"⟩ ∉ ix.supertypes job := by
  intro ix
  have own : ix.get? job.key = some job := by decide +kernel
  refine ⟨own, ?_, ?_⟩
  · let second : NamedRef := ⟨⟨some "Shared", "Step"⟩, "Beta", []⟩
    have parent : ⟨⟨some "Shared", "Audited"⟩, "Beta", []⟩ ∈ ix.parents second := by
      decide +kernel
    have met : ix.Meets job second := .queued (by decide +kernel)
    exact (instantiation?_isSome_iff own).mpr ⟨_, .step met parent, rfl⟩
  · have walked : ix.supertypesFrom [] job.supertypeRefs = [⟨some "Shared", "Step"⟩] := by
      have barren : ix.parents ⟨⟨some "Shared", "Step"⟩, "Alpha", []⟩ = [] := by decide +kernel
      change ix.supertypesFrom [] [⟨⟨some "Shared", "Step"⟩, "Alpha", []⟩,
        ⟨⟨some "Shared", "Step"⟩, "Beta", []⟩] = _
      rw [supertypesFrom_cons, if_neg List.not_mem_nil, barren, List.append_nil,
        supertypesFrom_cons, if_pos List.mem_cons_self, supertypesFrom]
    rw [supertypes, mem_sortedDistinct, walked]
    decide

end Architecture.TypeIndex
