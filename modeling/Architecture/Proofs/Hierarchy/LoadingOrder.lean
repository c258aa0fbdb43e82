import Architecture.Proofs.Hierarchy.Lookups
import Mathlib.Data.List.Forall2
import Mathlib.Data.List.Perm.Basic

/-!
# Modules loaded in another order

Where several loaded types share a name, the first one answers, so the order of loading
can be seen. If no two types share a name it cannot: every lookup then gives the same in
any order.
-/

namespace Architecture

open List

/-- A search for what at most one value satisfies does not depend on the order. -/
theorem find?_eq_of_perm {α : Type} {p : α → Bool} {xs ys : List α} (permuted : xs.Perm ys)
    (unique : ∀ a ∈ xs, ∀ b ∈ xs, p a = true → p b = true → a = b) :
    xs.find? p = ys.find? p := by
  cases found : ys.find? p with
  | none =>
      rw [find?_eq_none] at found ⊢
      exact fun a member => found a (permuted.mem_iff.mp member)
  | some b =>
      have member : b ∈ xs := permuted.mem_iff.mpr (mem_of_find?_eq_some found)
      have satisfies : p b = true := find?_some found
      rcases Option.isSome_iff_exists.mp (find?_isSome.mpr ⟨b, member, satisfies⟩) with ⟨a, first⟩
      rw [first, unique a (mem_of_find?_eq_some first) b member (find?_some first) satisfies]

namespace ModuleDescriptor

/-- Modules that differ in nothing but the order of their types. -/
structure SameButOrder (m other : ModuleDescriptor) : Prop where
  name : m.name = other.name
  version : m.version = other.version
  references : m.references = other.references
  types : m.types.Perm other.types

theorem SameButOrder.normalized {m other : ModuleDescriptor} (same : m.SameButOrder other) :
    m.normalized.SameButOrder other.normalized where
  name := same.name
  version := same.version
  references := same.references
  types := by
    simp only [ModuleDescriptor.normalized, same.name]
    exact same.types.map _

/-- Modules in another order, each with its types in another order. -/
def Rearranged (modules others : List ModuleDescriptor) : Prop :=
  ∃ middle, modules.Perm middle ∧ Forall₂ SameButOrder middle others

namespace Rearranged

variable {modules others : List ModuleDescriptor}

theorem flatMap_perm {α : Type} {f : ModuleDescriptor → List α}
    (rearranged : Rearranged modules others)
    (same : ∀ m other, SameButOrder m other → (f m).Perm (f other)) :
    (modules.flatMap f).Perm (others.flatMap f) := by
  rcases rearranged with ⟨middle, permuted, alike⟩
  refine (permuted.flatMap_right f).trans ?_
  clear permuted
  induction alike with
  | nil => exact .refl _
  | cons first _ inductionHypothesis => exact (same _ _ first).append inductionHypothesis

theorem types_perm (rearranged : Rearranged modules others) :
    (modules.flatMap (·.types)).Perm (others.flatMap (·.types)) :=
  rearranged.flatMap_perm fun _ _ same => same.types

theorem mem_names_iff (rearranged : Rearranged modules others) (name : String) :
    name ∈ modules.map (·.name) ↔ name ∈ others.map (·.name) := by
  rw [map_eq_flatMap, map_eq_flatMap]
  refine (rearranged.flatMap_perm ?_).mem_iff
  intro m other same
  rw [same.name]

theorem normalized (rearranged : Rearranged modules others) :
    Rearranged (modules.map (·.normalized)) (others.map (·.normalized)) := by
  rcases rearranged with ⟨middle, permuted, alike⟩
  refine ⟨_, permuted.map _, ?_⟩
  rw [forall₂_map_left_iff, forall₂_map_right_iff]
  exact alike.imp fun _ _ same => same.normalized

theorem filter (rearranged : Rearranged modules others) {p q : String → Bool}
    (same : ∀ name, p name = q name) :
    Rearranged (modules.filter fun m => p m.name) (others.filter fun m => q m.name) := by
  rcases rearranged with ⟨middle, permuted, alike⟩
  refine ⟨_, permuted.filter _, rel_filter ?_ alike⟩
  intro m other sameModule
  simp [sameModule.name, same]

end Rearranged

end ModuleDescriptor

namespace TypeIndex

open ModuleDescriptor

/-- Indexes in which every lookup gives the same. -/
structure SameLookups (ix other : TypeIndex) : Prop where
  byKey : ∀ k, ix.get? k = other.get? k
  byName : ∀ n, ix.find? n = other.find? n

theorem sameLookups_of_rearranged {modules others : List ModuleDescriptor}
    (rearranged : Rearranged modules others) (distinct : (ofModules modules).DistinctNames) :
    SameLookups (ofModules modules) (ofModules others) := by
  have permuted : (ofModules modules).types.Perm (ofModules others).types := by
    rw [types, types, modules_ofModules, modules_ofModules]
    exact rearranged.normalized.types_perm
  constructor
  · intro k
    rw [get?_ofModules, get?_ofModules]
    refine find?_eq_of_perm permuted ?_
    intro t tMember u uMember tKey uKey
    have sameKey : t.key = u.key := (of_decide_eq_true tKey).trans (of_decide_eq_true uKey).symm
    exact distinct t tMember u uMember (congrArg TypeKey.name sameKey)
  · intro n
    rw [find?_ofModules, find?_ofModules]
    refine find?_eq_of_perm permuted ?_
    intro t tMember u uMember tName uName
    exact distinct t tMember u uMember
      ((of_decide_eq_true tName).trans (of_decide_eq_true uName).symm)

theorem SameLookups.agreesOn {ix other : TypeIndex} (same : ix.SameLookups other) :
    ix.AgreesOn (fun _ => True) other where
  byKey := fun k _ => same.byKey k
  byName := fun n _ => same.byName n
  keyWithin := fun _ t _ => t.within_true
  nameWithin := fun _ t _ => t.within_true

end TypeIndex

end Architecture
