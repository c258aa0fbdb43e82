import Architecture.Proofs.Index
import Architecture.Proofs.References
import Mathlib.Data.List.Forall2

/-!
# Owners that are filled in

A module that is loaded puts its own name wherever a type or a reference has no owner, and
changes nothing else. To do so a second time changes nothing at all. The references in a base,
in interfaces and in the signatures of members are filled in down to the last argument. Of
the interface that a member explicitly implements, only the owner is filled in, so an argument
of it can be left without one. These arguments are no references of the type, and so no type
ever refers to a key without an owner.
-/

namespace Architecture

/-- The owner after filling in. -/
def filledOwner (home owner : String) : String := if owner = "" then home else owner

/-- What may become of an owner: it stays, or `home` takes the place of a missing one. -/
def MayFill (home before after : String) : Prop := after = before ∨ before = "" ∧ after = home

section Owner

variable {home : String}

theorem filledOwner_ne_empty (named : home ≠ "") (owner : String) :
    filledOwner home owner ≠ "" := by
  unfold filledOwner
  split
  next => exact named
  next present => exact present

theorem filledOwner_filledOwner (home owner : String) :
    filledOwner home (filledOwner home owner) = filledOwner home owner := by
  by_cases missing : owner = ""
  · by_cases nameless : home = "" <;> simp [filledOwner, missing, nameless]
  · simp [filledOwner, missing]

theorem mayFill_filledOwner (home owner : String) :
    MayFill home owner (filledOwner home owner) := by
  unfold filledOwner
  split
  next missing => exact .inr ⟨missing, rfl⟩
  next => exact .inl rfl

end Owner

section Related

variable {α : Type} {R : α → α → Prop} {f : α → α}

theorem forall₂_map_of_forall_mem {xs : List α} (related : ∀ a ∈ xs, R a (f a)) :
    List.Forall₂ R xs (xs.map f) := by
  rw [List.forall₂_map_right_iff, List.forall₂_same]
  exact related

theorem rel_map (related : ∀ a, R a (f a)) (value : Option α) :
    Option.Rel R value (value.map f) := by
  cases value with
  | none => exact .none
  | some a => exact .some (related a)

end Related

namespace TypeRef

/-- What holds of a named type whenever it holds of its arguments holds of every reference. -/
@[elab_as_elim]
theorem induction_on_args {motive : TypeRef → Prop} (r : TypeRef)
    (generic : ∀ parameter, motive (.generic parameter))
    (named : ∀ name owner args, (∀ arg ∈ args, motive arg) → motive (.named name owner args)) :
    motive r := by
  cases r with
  | generic parameter => exact generic parameter
  | named name owner args =>
      exact named name owner args fun arg _ => induction_on_args arg generic named

/-- Every named type in the reference has an owner. -/
def IsOwned (r : TypeRef) : Prop := ∀ k, r.Mentions k → k.owner ≠ ""

/-- References that differ in owners only, where the second may have `home` in the place of a
missing one. -/
inductive SameButFilled (home : String) : TypeRef → TypeRef → Prop where
  | generic (parameter : String) : SameButFilled home (.generic parameter) (.generic parameter)
  | named (name : TypeName) {before after : String} {args filled : List TypeRef} :
      MayFill home before after → List.Forall₂ (SameButFilled home) args filled →
      SameButFilled home (.named name before args) (.named name after filled)

variable {home : String}

theorem fillOwner_named (home : String) (name : TypeName) (owner : String) (args : List TypeRef) :
    (named name owner args).fillOwner home =
      named name (filledOwner home owner) (args.map (·.fillOwner home)) := by
  rw [fillOwner, fillOwnerAll_eq_map]
  rfl

theorem isOwned_named_iff {name : TypeName} {owner : String} {args : List TypeRef} :
    (named name owner args).IsOwned ↔ owner ≠ "" ∧ ∀ arg ∈ args, arg.IsOwned := by
  simp only [IsOwned, mentions_named_iff]
  constructor
  · intro owned
    exact ⟨owned ⟨name, owner⟩ (.inl rfl),
      fun arg member k inside => owned k (.inr ⟨arg, member, inside⟩)⟩
  · rintro ⟨present, argsOwned⟩ k (rfl | ⟨arg, member, inside⟩)
    · exact present
    · exact argsOwned arg member k inside

theorem isOwned_fillOwner (named : home ≠ "") (r : TypeRef) : (r.fillOwner home).IsOwned := by
  induction r using induction_on_args with
  | generic parameter =>
      intro k mentions
      cases mentions
  | named name owner args inductionHypothesis =>
      rw [fillOwner_named, isOwned_named_iff]
      exact ⟨filledOwner_ne_empty named owner, List.forall_mem_map.mpr inductionHypothesis⟩

theorem fillOwner_fillOwner (home : String) (r : TypeRef) :
    (r.fillOwner home).fillOwner home = r.fillOwner home := by
  induction r using induction_on_args with
  | generic parameter => rfl
  | named name owner args inductionHypothesis =>
      rw [fillOwner_named, fillOwner_named, filledOwner_filledOwner, List.map_map]
      congr 1
      exact List.map_congr_left inductionHypothesis

theorem sameButFilled_fillOwner (home : String) (r : TypeRef) :
    r.SameButFilled home (r.fillOwner home) := by
  induction r using induction_on_args with
  | generic parameter => exact .generic parameter
  | named name owner args inductionHypothesis =>
      rw [fillOwner_named]
      exact .named name (mayFill_filledOwner home owner)
        (forall₂_map_of_forall_mem inductionHypothesis)

theorem sameButFilled_refl (home : String) (r : TypeRef) : r.SameButFilled home r := by
  induction r using induction_on_args with
  | generic parameter => exact .generic parameter
  | named name owner args inductionHypothesis =>
      exact .named name (.inl rfl) (List.forall₂_same.mpr inductionHypothesis)

end TypeRef

/-- A named reference with its own owner filled in, but not those of its arguments. -/
def NamedRef.fillHead (home : String) (n : NamedRef) : NamedRef :=
  { n with owner := filledOwner home n.owner }

namespace Member

/-- Members that differ only in owners that are filled in. -/
structure SameButFilled (home : String) (before after : Member) : Prop where
  parameters : List.Forall₂ (TypeRef.SameButFilled home) before.parameters after.parameters
  valueType : Option.Rel (TypeRef.SameButFilled home) before.valueType after.valueType
  implements : Option.Rel (fun n f => n.toRef.SameButFilled home f.toRef) before.implements
    after.implements
  rest : { after with
    parameters := before.parameters
    valueType := before.valueType
    implements := before.implements } = before

theorem fillOwner_eq (home : String) (m : Member) :
    m.fillOwner home = { m with
      parameters := m.parameters.map (·.fillOwner home)
      valueType := m.valueType.map (·.fillOwner home)
      implements := m.implements.map (·.fillHead home) } := rfl

theorem sameButFilled_fillOwner (home : String) (m : Member) :
    m.SameButFilled home (m.fillOwner home) where
  parameters := forall₂_map_of_forall_mem fun r _ => r.sameButFilled_fillOwner home
  valueType := rel_map (TypeRef.sameButFilled_fillOwner home) _
  implements := by
    refine rel_map ?_ m.implements
    intro n
    refine .named n.name (mayFill_filledOwner home n.owner) ?_
    exact List.forall₂_same.mpr fun r _ => r.sameButFilled_refl home
  rest := rfl

theorem fillOwner_fillOwner (home : String) (m : Member) :
    (m.fillOwner home).fillOwner home = m.fillOwner home := by
  have twice : ∀ n : NamedRef, (n.fillHead home).fillHead home = n.fillHead home := by
    intro n
    rw [NamedRef.fillHead, NamedRef.fillHead, filledOwner_filledOwner]
  simp [fillOwner_eq, Function.comp_def, TypeRef.fillOwner_fillOwner, twice]

end Member

namespace TypeDescriptor

variable {home : String} {t : TypeDescriptor} {r : TypeRef}

/-- The references of a type, apart from the interfaces that its members explicitly implement. -/
inductive Uses (t : TypeDescriptor) : TypeRef → Prop where
  | base {r : TypeRef} : t.base = some r → Uses t r
  | interface {r : TypeRef} : r ∈ t.interfaces → Uses t r
  | parameter {m : Member} {r : TypeRef} : m ∈ t.members → r ∈ m.parameters → Uses t r
  | value {m : Member} {r : TypeRef} : m ∈ t.members → m.valueType = some r → Uses t r

/-- The type and every named type in it have an owner. -/
structure IsOwned (t : TypeDescriptor) : Prop where
  own : t.owner ≠ ""
  used : ∀ r, t.Uses r → r.IsOwned
  implemented : ∀ m ∈ t.members, ∀ n, m.implements = some n → n.toRef.IsOwned

/-- Types that differ only in owners that are filled in. -/
structure SameButFilled (home : String) (before after : TypeDescriptor) : Prop where
  owner : MayFill home before.owner after.owner
  base : Option.Rel (TypeRef.SameButFilled home) before.base after.base
  interfaces : List.Forall₂ (TypeRef.SameButFilled home) before.interfaces after.interfaces
  members : List.Forall₂ (Member.SameButFilled home) before.members after.members
  rest : { after with
    owner := before.owner
    base := before.base
    interfaces := before.interfaces
    members := before.members } = before

theorem fillOwner_eq (home : String) (t : TypeDescriptor) :
    t.fillOwner home = { t with
      owner := filledOwner home t.owner
      base := t.base.map (·.fillOwner home)
      interfaces := t.interfaces.map (·.fillOwner home)
      members := t.members.map (·.fillOwner home) } := rfl

theorem sameButFilled_fillOwner (home : String) (t : TypeDescriptor) :
    t.SameButFilled home (t.fillOwner home) where
  owner := mayFill_filledOwner home t.owner
  base := rel_map (TypeRef.sameButFilled_fillOwner home) _
  interfaces := forall₂_map_of_forall_mem fun r _ => r.sameButFilled_fillOwner home
  members := forall₂_map_of_forall_mem fun m _ => m.sameButFilled_fillOwner home
  rest := rfl

theorem fillOwner_fillOwner (home : String) (t : TypeDescriptor) :
    (t.fillOwner home).fillOwner home = t.fillOwner home := by
  simp [fillOwner_eq, filledOwner_filledOwner, Function.comp_def, TypeRef.fillOwner_fillOwner,
    Member.fillOwner_fillOwner]

theorem exists_fillOwner_of_uses (uses : (t.fillOwner home).Uses r) :
    ∃ s : TypeRef, r = s.fillOwner home := by
  cases uses with
  | base isBase =>
      rcases Option.map_eq_some_iff.mp isBase with ⟨s, _, filled⟩
      exact ⟨s, filled.symm⟩
  | interface member =>
      rcases List.mem_map.mp member with ⟨s, _, filled⟩
      exact ⟨s, filled.symm⟩
  | parameter member parameter =>
      rcases List.mem_map.mp member with ⟨m, _, rfl⟩
      rcases List.mem_map.mp parameter with ⟨s, _, filled⟩
      exact ⟨s, filled.symm⟩
  | value member value =>
      rcases List.mem_map.mp member with ⟨m, _, rfl⟩
      rcases Option.map_eq_some_iff.mp value with ⟨s, _, filled⟩
      exact ⟨s, filled.symm⟩

theorem isOwned_of_uses (named : home ≠ "") (uses : (t.fillOwner home).Uses r) : r.IsOwned := by
  rcases exists_fillOwner_of_uses uses with ⟨s, rfl⟩
  exact s.isOwned_fillOwner named

theorem uses_of_declares {roots : List String} (declares : t.Declares roots r) : t.Uses r := by
  cases declares with
  | base isBase _ => exact .base isBase
  | interface member => exact .interface member
  | value member _ value => exact .value member value
  | constructorParameter member _ parameter => exact .parameter member parameter
  | methodParameter member _ parameter => exact .parameter member parameter
  | methodResult member _ result => exact .value member result

/-- A type whose owners are filled in refers to keys with owners only. -/
theorem owner_ne_empty_of_mem_references {roots : List String} {k : TypeKey} (named : home ≠ "")
    (refers : k ∈ ((t.fillOwner home).references roots).all) : k.owner ≠ "" := by
  have refersTo : (t.fillOwner home).RefersTo roots k := by
    rcases List.mem_append.mp refers with internal | external
    · exact (mem_internal_iff.mp internal).1
    · exact (mem_external_iff.mp external).1
  rcases refersTo with ⟨_, r, declares, mentions⟩
  exact isOwned_of_uses named (uses_of_declares declares) k mentions

/-- The interfaces that the members of a type implement have all their arguments owned. -/
def ImplementsOwned (t : TypeDescriptor) : Prop :=
  ∀ m ∈ t.members, ∀ n, m.implements = some n → ∀ arg ∈ n.args, arg.IsOwned

theorem implements_fillOwner (home : String) {m : Member} {n : NamedRef} (member : m ∈ t.members)
    (implements : m.implements = some n) :
    m.fillOwner home ∈ (t.fillOwner home).members ∧
      (m.fillOwner home).implements = some (n.fillHead home) := by
  refine ⟨List.mem_map_of_mem member, ?_⟩
  rw [Member.fillOwner_eq, implements, Option.map_some]

theorem exists_of_implements_fillOwner {m : Member} {n : NamedRef}
    (member : m ∈ (t.fillOwner home).members) (implements : m.implements = some n) :
    ∃ c ∈ t.members, ∃ i, c.implements = some i ∧ n = i.fillHead home := by
  rcases List.mem_map.mp member with ⟨c, cMember, rfl⟩
  rcases Option.map_eq_some_iff.mp implements with ⟨i, implemented, filled⟩
  exact ⟨c, cMember, i, implemented, filled.symm⟩

theorem isOwned_toRef_fillHead_iff (named : home ≠ "") (n : NamedRef) :
    (n.fillHead home).toRef.IsOwned ↔ ∀ arg ∈ n.args, arg.IsOwned := by
  rw [NamedRef.toRef, TypeRef.isOwned_named_iff]
  exact and_iff_right (filledOwner_ne_empty named n.owner)

theorem isOwned_fillOwner_iff (named : home ≠ "") (t : TypeDescriptor) :
    (t.fillOwner home).IsOwned ↔ t.ImplementsOwned := by
  constructor
  · intro owned m member n implements
    rcases implements_fillOwner home member implements with ⟨filledMember, filled⟩
    exact (isOwned_toRef_fillHead_iff named n).mp (owned.implemented _ filledMember _ filled)
  · intro argsOwned
    refine ⟨filledOwner_ne_empty named t.owner, fun r => isOwned_of_uses named, ?_⟩
    intro m member n implements
    rcases exists_of_implements_fillOwner member implements with ⟨c, cMember, i, implemented, rfl⟩
    exact (isOwned_toRef_fillHead_iff named i).mpr (argsOwned c cMember i implemented)

end TypeDescriptor

namespace ModuleDescriptor

/-- Modules that differ only in owners, where the second has the name of the module in the
place of some that are missing. -/
structure SameButFilled (before after : ModuleDescriptor) : Prop where
  types : List.Forall₂ (TypeDescriptor.SameButFilled before.name) before.types after.types
  rest : { after with types := before.types } = before

theorem sameButFilled_normalized (m : ModuleDescriptor) : m.SameButFilled m.normalized where
  types := forall₂_map_of_forall_mem fun t _ => t.sameButFilled_fillOwner m.name
  rest := rfl

theorem normalized_normalized (m : ModuleDescriptor) : m.normalized.normalized = m.normalized := by
  simp [normalized, Function.comp_def, TypeDescriptor.fillOwner_fillOwner]

variable {m : ModuleDescriptor}

theorem isOwned_normalized_iff (named : m.name ≠ "") :
    (∀ t ∈ m.normalized.types, t.IsOwned) ↔ ∀ t ∈ m.types, t.ImplementsOwned := by
  rw [normalized, List.forall_mem_map]
  exact forall₂_congr fun t _ => t.isOwned_fillOwner_iff named

/-- A module with a name leaves no type without an owner when it is loaded, and no named type
in a base, an interface, a parameter or a value, at any depth. The interfaces that members
explicitly implement have owners then as well, and their arguments have them exactly if they
had them before. -/
theorem normalized_owned_iff (m : ModuleDescriptor) (named : m.name ≠ "") :
    (∀ t ∈ m.normalized.types, t.owner ≠ "" ∧ (∀ r, t.Uses r → r.IsOwned) ∧
        ∀ c ∈ t.members, ∀ n, c.implements = some n → n.owner ≠ "") ∧
      ((∀ t ∈ m.normalized.types, t.IsOwned) ↔ ∀ t ∈ m.types, ∀ c ∈ t.members, ∀ n,
        c.implements = some n → ∀ arg ∈ n.args, arg.IsOwned) := by
  refine ⟨?_, isOwned_normalized_iff named⟩
  rw [normalized, List.forall_mem_map]
  intro t _
  refine ⟨filledOwner_ne_empty named t.owner, fun r => TypeDescriptor.isOwned_of_uses named, ?_⟩
  intro c member n implements
  rcases TypeDescriptor.exists_of_implements_fillOwner member implements with ⟨_, _, i, _, rfl⟩
  exact filledOwner_ne_empty named i.owner

/-- A type that handles orders and says so in its interfaces and in the method. The order in
the interface that the method implements has the given owner, and nothing else has one. -/
def clerkModule (owner : String) : ModuleDescriptor where
  name := "App"
  types := [{
    name := ⟨some "App", "Clerk"⟩
    kind := .plainClass
    interfaces := [.named ⟨some "App", "Handler"⟩ "" [.named ⟨some "App", "Order"⟩ "" []]]
    members := [{
      name := "Handle"
      kind := .method
      parameters := [.named ⟨some "App", "Order"⟩ "" []]
      implements := some {
        name := ⟨some "App", "Handler"⟩
        args := [.named ⟨some "App", "Order"⟩ owner []] } }] }]

theorem normalized_owned_iff_clerkModule :
    (clerkModule "Shop").name ≠ "" ∧
      ∀ t ∈ (clerkModule "Shop").normalized.types, t.IsOwned := by
  have named : (clerkModule "Shop").name ≠ "" := by decide
  refine ⟨named, (normalized_owned_iff (clerkModule "Shop") named).2.mpr ?_⟩
  simp [clerkModule, TypeRef.isOwned_named_iff]

/-- The order that the method's interface has as its argument is left without an owner. -/
theorem normalized_argument_unowned :
    (clerkModule "").name ≠ "" ∧ ¬ ∀ t ∈ (clerkModule "").normalized.types, t.IsOwned := by
  refine ⟨by decide, ?_⟩
  intro owned
  have implemented := (owned _ List.mem_cons_self).implemented _ List.mem_cons_self _ rfl
  rcases TypeRef.isOwned_named_iff.mp implemented with ⟨_, argsOwned⟩
  exact argsOwned _ List.mem_cons_self ⟨⟨some "App", "Order"⟩, ""⟩ .head rfl

/-- To load a module a second time changes nothing. The first time changes nothing but owners
that are missing, which become the name of the module. In an index of modules that have names,
no type refers to a key without an owner, whichever analyses have filled the cache before. -/
theorem normalized_conserves :
    (∀ m : ModuleDescriptor, m.normalized.normalized = m.normalized) ∧
      (∀ m : ModuleDescriptor, m.SameButFilled m.normalized) ∧
      ∀ modules : List ModuleDescriptor, (∀ m ∈ modules, m.name ≠ "") →
        ∀ (earlier : List Analyzer) (ctx : Context), ctx.index = .ofModules modules →
          ∀ t ∈ ctx.index.types,
            ∀ k ∈ ((ctx.references t).cached.run (Analyzer.cacheAfter earlier)).1.all,
              k.owner ≠ "" := by
  refine ⟨normalized_normalized, sameButFilled_normalized, ?_⟩
  intro modules named earlier ctx loaded t member k refers
  rw [loaded, TypeIndex.types, TypeIndex.modules_ofModules, List.flatMap_map,
    List.mem_flatMap] at member
  rcases member with ⟨m, mMember, member⟩
  rcases List.mem_map.mp member with ⟨u, _, rfl⟩
  rw [Analyzer.cached_run_cacheAfter] at refers
  exact TypeDescriptor.owner_ne_empty_of_mem_references (named m mMember) refers

theorem normalized_conserves_clerkModule :
    let ctx : Context := {
      index := .ofModules [clerkModule ""]
      options := {}
      heuristic := { markers := [], patterns := [] }
      underTest := ["App"] }
    (∀ m ∈ [clerkModule ""], m.name ≠ "") ∧
      ∃ clerk ∈ ctx.index.types,
        clerk.RefersTo ctx.options.rootTypes ⟨⟨some "App", "Order"⟩, "App"⟩ ∧
          ∀ k ∈ ((ctx.references clerk).cached.run (Analyzer.cacheAfter [])).1.all,
            k.owner ≠ "" := by
  intro ctx
  have named : ∀ m ∈ [clerkModule ""], m.name ≠ "" := by decide
  have first : ((clerkModule "").normalized.types.head (by decide)) ∈ ctx.index.types := by
    rw [TypeIndex.types, TypeIndex.modules_ofModules]
    exact List.mem_cons_self
  refine ⟨named, _, first, ⟨by decide, _, .methodParameter List.mem_cons_self rfl
    List.mem_cons_self, .head⟩, ?_⟩
  exact normalized_conserves.2.2 [clerkModule ""] named [] ctx rfl _ first

end ModuleDescriptor

end Architecture
