import Architecture.Proofs.Hierarchy.Supertypes
import Architecture.Rule.UsedOnly

/-!
# References to types of another module

A reference means the type with its exact key or, where there is none, one of its name. The
walk through the supertypes goes by what references mean. A key on its own is looked up
exactly, so a reference that means a type by its name alone has a key of which nothing but
the name is known. A restriction on an interface, which is given keys, does not cover such a
reference to a type that implements the interface.
-/

namespace Architecture

namespace TypeIndex

variable {ix : TypeIndex} {key : TypeKey} {ref : NamedRef} {t : TypeDescriptor} {target : TypeName}

theorem isKeyAssignable_of_get? (loaded : ix.get? key = some t) :
    ix.isKeyAssignable key target = ix.isAssignable t target := by
  rw [isKeyAssignable, loaded]

theorem isKeyAssignable_of_get?_eq_none (missing : ix.get? key = none) :
    ix.isKeyAssignable key target = true ↔ key.name = target := by
  rw [isKeyAssignable, missing, decide_eq_true_iff]

theorem isKeyAssignable_name (ix : TypeIndex) (key : TypeKey) :
    ix.isKeyAssignable key key.name = true := by
  cases loaded : ix.get? key with
  | none => exact (isKeyAssignable_of_get?_eq_none loaded).mpr rfl
  | some t =>
      rw [isKeyAssignable_of_get? loaded, isAssignable_iff]
      exact .inl (congrArg TypeKey.name (mem_of_get? loaded).1)

/-- The key of a reference and what the reference means agree on a target unless the key is not
loaded and the target is a proper supertype. -/
theorem isKeyAssignable_eq_iff (found : ix.resolve? ref = some t) :
    ix.isKeyAssignable ref.key target = ix.isAssignable t target ↔
      ix.get? ref.key = some t ∨ t.name = target ∨ target ∉ ix.supertypes t := by
  rcases resolve?_eq_some_iff.mp found with loaded | ⟨missing, _⟩
  · exact iff_of_true (isKeyAssignable_of_get? loaded) (.inl loaded)
  · have sameName : t.name = ref.key.name := (mem_of_resolve? found).1
    rw [Bool.eq_iff_iff, isKeyAssignable_of_get?_eq_none missing, isAssignable_iff, sameName]
    by_cases own : ref.key.name = target
    · simp [own]
    · simp [own, missing]

end TypeIndex

theorem UsedOnly.covers_of_isInterface {ix : TypeIndex} {dependency : TypeKey} {rule : UsedOnly}
    (isInterface : ix.isInterface rule.target = true) :
    covers ix dependency rule = ix.isKeyAssignable dependency rule.target := by
  rw [covers, isInterface, Bool.true_and]
  by_cases own : dependency.name = rule.target
  · rw [← own, TypeIndex.isKeyAssignable_name, Bool.or_true]
  · simp [own]

namespace TypeIndex

/-- For a reference that means a loaded type, the key of the reference is assignable to a
target exactly if the type is, provided that the type has the very key, is the target, or does
not derive from the target. All targets agree exactly if the type has the very key or derives
from nothing but its own name. The same condition decides whether a restriction on an
interface covers the reference when the type is assignable to the interface. -/
theorem isKeyAssignable_agrees_iff (ix : TypeIndex) (ref : NamedRef) (t : TypeDescriptor)
    (found : ix.resolve? ref = some t) :
    (∀ target, ix.isKeyAssignable ref.key target = ix.isAssignable t target ↔
        ix.get? ref.key = some t ∨ t.name = target ∨ target ∉ ix.supertypes t) ∧
      ((∀ target, ix.isKeyAssignable ref.key target = ix.isAssignable t target) ↔
        ix.get? ref.key = some t ∨ ∀ n ∈ ix.supertypes t, t.name = n) ∧
      ∀ rule : UsedOnly, ix.isInterface rule.target = true →
        (UsedOnly.covers ix ref.key rule = ix.isAssignable t rule.target ↔
          ix.get? ref.key = some t ∨ t.name = rule.target ∨ rule.target ∉ ix.supertypes t) := by
  refine ⟨fun target => isKeyAssignable_eq_iff found, ?_, ?_⟩
  · simp only [isKeyAssignable_eq_iff found]
    constructor
    · intro agree
      by_cases loaded : ix.get? ref.key = some t
      · exact .inl loaded
      · right
        intro n member
        exact ((agree n).resolve_left loaded).resolve_right (not_not_intro member)
    · rintro (loaded | alone) target
      · exact .inl loaded
      · right
        by_cases member : target ∈ ix.supertypes t
        · exact .inl (alone target member)
        · exact .inr member
  · intro rule isInterface
    rw [UsedOnly.covers_of_isInterface isInterface]
    exact isKeyAssignable_eq_iff found

/-- A store that implements an interface of its module. -/
def orderStore : TypeDescriptor where
  name := ⟨some "App.Data", "OrderStore"⟩
  owner := "App"
  kind := .plainClass
  interfaces := [.named ⟨some "App.Data", "Store"⟩ "App" []]

def orderModules : List ModuleDescriptor :=
  [{ name := "App"
     types := [{ name := ⟨some "App.Data", "Store"⟩, kind := .interface }, orderStore] }]

theorem isAssignable_orderStore (ix : TypeIndex) :
    ix.isAssignable orderStore ⟨some "App.Data", "Store"⟩ = true := by
  have direct : ⟨⟨some "App.Data", "Store"⟩, "App", []⟩ ∈ orderStore.supertypeRefs := by decide
  exact isAssignable_iff.mpr (.inr (name_mem_supertypes direct))

theorem isKeyAssignable_agrees_iff_orderModules :
    let ix := ofModules orderModules
    let ref : NamedRef := ⟨orderStore.name, "App", []⟩
    ix.resolve? ref = some orderStore ∧ ix.isInterface ⟨some "App.Data", "Store"⟩ = true ∧
      (∀ target, ix.isKeyAssignable ref.key target = ix.isAssignable orderStore target) ∧
      UsedOnly.covers ix ref.key { target := ⟨some "App.Data", "Store"⟩ } = true := by
  intro ix ref
  have found : ix.resolve? ref = some orderStore := by decide +kernel
  have loaded : ix.get? ref.key = some orderStore := by decide +kernel
  have isInterface : ix.isInterface ⟨some "App.Data", "Store"⟩ = true := by decide +kernel
  rcases isKeyAssignable_agrees_iff ix ref orderStore found with ⟨_, agree, covered⟩
  refine ⟨found, isInterface, agree.mpr (.inl loaded), ?_⟩
  rw [(covered { target := ⟨some "App.Data", "Store"⟩ } isInterface).mpr (.inl loaded)]
  exact isAssignable_orderStore ix

/-- A reference that names another module still means the store. The store is assignable to
the interface and the key of the reference is not, so a restriction on the interface does not
cover the reference. -/
theorem isKeyAssignable_otherModule :
    let ix := ofModules orderModules
    let ref : NamedRef := ⟨orderStore.name, "App.Contracts", []⟩
    ix.resolve? ref = some orderStore ∧ ix.isInterface ⟨some "App.Data", "Store"⟩ = true ∧
      ix.isAssignable orderStore ⟨some "App.Data", "Store"⟩ = true ∧
      ix.isKeyAssignable ref.key ⟨some "App.Data", "Store"⟩ = false ∧
      UsedOnly.covers ix ref.key { target := ⟨some "App.Data", "Store"⟩ } = false := by
  intro ix ref
  have isInterface : ix.isInterface ⟨some "App.Data", "Store"⟩ = true := by decide +kernel
  have missing : ix.get? ref.key = none := by decide +kernel
  have apart : ix.isKeyAssignable ref.key ⟨some "App.Data", "Store"⟩ = false := by
    rw [← Bool.not_eq_true, isKeyAssignable_of_get?_eq_none missing]
    decide
  refine ⟨by decide +kernel, isInterface, isAssignable_orderStore ix, apart, ?_⟩
  rw [UsedOnly.covers_of_isInterface isInterface]
  exact apart

end TypeIndex

end Architecture
