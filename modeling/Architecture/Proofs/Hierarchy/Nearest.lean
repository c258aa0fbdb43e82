import Architecture.Proofs.Hierarchy.Instantiation
import Architecture.Proofs.Hierarchy.Lookups
import Architecture.Proofs.Worklist.Nearest

/-!
# The nearest instantiation

The search for an instantiation goes up from a type through what is loaded of the direct
supertypes, and marks types by their keys. A key stands for one loaded type, so no two types
that are met share a mark. The search therefore ends at the first type with a suitable
supertype that a walk breadth first comes to, in cyclic hierarchies too, and where modules
have types of the same name.
-/

namespace Architecture.TypeIndex

open Worklist

/-- The loaded types among the direct supertypes of a type, the base type first. -/
def above (ix : TypeIndex) (t : TypeDescriptor) : List TypeDescriptor :=
  t.supertypeRefs.filterMap ix.resolve?

/-- The first direct supertype with the name of a definition. -/
def instanceIn? (definition : TypeName) (t : TypeDescriptor) : Option NamedRef :=
  t.supertypeRefs.find? (·.name = definition)

theorem instanceIn?_eq_none_iff {definition : TypeName} {t : TypeDescriptor} :
    instanceIn? definition t = none ↔ ∀ ref ∈ t.supertypeRefs, ref.name ≠ definition := by
  simp [instanceIn?]

/-- A search for an instantiation from types in a queue, up to its end. -/
def Seeks (ix : TypeIndex) (definition : TypeName) (marked : List TypeKey)
    (queue : List TypeDescriptor) (outcome : Option NamedRef) : Prop :=
  Finds TypeDescriptor.key ix.above (instanceIn? definition) marked queue outcome

theorem instantiationFrom_seeks (ix : TypeIndex) (definition : TypeName) (marked : List TypeKey)
    (queue : List ix.Loaded) :
    ix.Seeks definition marked (queue.map (·.1))
      (ix.instantiationFrom definition marked queue) := by
  fun_induction instantiationFrom ix definition marked queue with
  | case1 marked => exact .exhausted
  | case2 marked t loaded queue known inductionHypothesis => exact .skip known inductionHypothesis
  | case3 marked t loaded queue unknown ref here => exact .here unknown here
  | case4 marked t loaded queue unknown absent inductionHypothesis =>
      refine .follow unknown absent ?_
      rwa [List.map_append, map_loaded] at inductionHypothesis

theorem instantiation?_seeks (ix : TypeIndex) (definition : TypeName) (t : TypeDescriptor) :
    ix.Seeks definition [] [t] (ix.instantiation? t definition) := by
  rw [instantiation?]
  split
  next ref here => exact .here List.not_mem_nil here
  next absent =>
    refine .follow List.not_mem_nil absent ?_
    rw [List.nil_append, above, ← map_loaded]
    exact ix.instantiationFrom_seeks definition [t.key] (ix.loaded t.supertypeRefs)

section Modules

variable {modules : List ModuleDescriptor} {t u v : TypeDescriptor}

theorem get?_key_of_reachable_above (own : (ofModules modules).get? t.key = some t)
    (reached : Reachable (ofModules modules).above [t] u) :
    (ofModules modules).get? u.key = some u := by
  cases reached with
  | queued member =>
      cases List.mem_singleton.mp member
      exact own
  | step _ member =>
      rcases List.mem_filterMap.mp member with ⟨ref, _, resolved⟩
      exact get?_key_of_resolve? resolved

theorem eq_of_key_eq (own : (ofModules modules).get? t.key = some t)
    (uReached : Reachable (ofModules modules).above [t] u)
    (vReached : Reachable (ofModules modules).above [t] v) (sameKey : u.key = v.key) : u = v := by
  have uLoaded := get?_key_of_reachable_above own uReached
  have vLoaded := get?_key_of_reachable_above own vReached
  rw [sameKey, vLoaded] at uLoaded
  exact (Option.some.inj uLoaded).symm

end Modules

/-- The search for an instantiation ends. It finds nothing exactly if no way up leads to a
type with a direct supertype of the name. Otherwise it finds the first such supertype of the
type at the end of the least way: a shorter way comes before a longer one, and of two equally
long ways the one that goes to the earlier supertype where they first differ. -/
theorem instantiation?_nearest (modules : List ModuleDescriptor) (t : TypeDescriptor)
    (own : (ofModules modules).get? t.key = some t) (definition : TypeName) :
    let ix := ofModules modules
    ix.Seeks definition [] [t] (ix.instantiation? t definition) ∧
      (ix.instantiation? t definition = none ↔
        ∀ way u, Leads ix.above t way u → ∀ ref ∈ u.supertypeRefs, ref.name ≠ definition) ∧
      ∀ ref, ix.instantiation? t definition = some ref ↔
        ∃ way u, Leads ix.above t way u ∧
          u.supertypeRefs.find? (·.name = definition) = some ref ∧
          ∀ other v, Leads ix.above t other v → List.Shortlex (· < ·) other way →
            ∀ earlier ∈ v.supertypeRefs, earlier.name ≠ definition := by
  intro ix
  have seeks := ix.instantiation?_seeks definition t
  have faithful : ∀ u v, Reachable ix.above [t] u → Reachable ix.above [t] v →
      u.key = v.key → u = v := fun u v => eq_of_key_eq own
  refine ⟨seeks, ?_, ?_⟩
  · rw [Finds.eq_none_iff seeks faithful]
    simp only [instanceIn?_eq_none_iff]
  · intro ref
    rw [Finds.eq_some_iff seeks faithful]
    simp only [instanceIn?_eq_none_iff]
    rfl

/-- The first step of the job is a job again, so that ways up go round in a circle, and only
the second step of the same name is audited. -/
theorem instantiation?_nearest_jobModules :
    let ix := ofModules (jobModules [.named ⟨some "App", "Job"⟩ "App" []])
    ix.get? job.key = some job ∧
      ix.instantiation? job ⟨some "Shared", "Audited"⟩ =
        some ⟨⟨some "Shared", "Audited"⟩, "Beta", []⟩ ∧
      ix.instantiation? job ⟨some "Shared", "Logged"⟩ = none := by
  intro ix
  have own : ix.get? job.key = some job := by decide +kernel
  have nearest := instantiation?_nearest (jobModules [.named ⟨some "App", "Job"⟩ "App" []]) job own
  refine ⟨own, ?_, ?_⟩
  · apply ((nearest _).2.2 _).mpr
    have second : (ix.above job)[1]?.bind (instanceIn? ⟨some "Shared", "Audited"⟩) =
        some ⟨⟨some "Shared", "Audited"⟩, "Beta", []⟩ := by decide +kernel
    rcases Option.bind_eq_some_iff.mp second with ⟨step, isSecond, audited⟩
    refine ⟨[1], step, .step isSecond .stay, audited, ?_⟩
    intro other v leads less
    apply instanceIn?_eq_none_iff.mp
    cases leads with
    | stay => decide +kernel
    | @step _ u _ i rest isNext onward =>
        have first : i = 0 ∧ rest = [] := by
          rw [List.shortlex_def] at less
          cases rest with
          | nil => simpa using less
          | cons j rest => simp at less
        rcases first with ⟨rfl, rfl⟩
        cases onward
        have unaudited : ((ix.above job)[0]?.bind (instanceIn? ⟨some "Shared", "Audited"⟩)) =
            none := by decide +kernel
        rwa [isNext] at unaudited
  · apply (nearest _).2.1.mpr
    have unlogged : ∀ u ∈ ix.types, ∀ ref ∈ u.supertypeRefs,
        ref.name ≠ ⟨some "Shared", "Logged"⟩ := by decide +kernel
    intro way u leads
    have loaded := get?_key_of_reachable_above own (leads.reachable (.queued List.mem_cons_self))
    rw [get?_ofModules] at loaded
    exact unlogged u (List.mem_of_find?_eq_some loaded)

end Architecture.TypeIndex
