import Architecture.Proofs.Hierarchy.Inheritance
import Architecture.Proofs.Signature
import Architecture.Rule.MethodMarker

/-!
# Methods that a marker rule is about

A rule on the method of a class is about one method of every type that extends the class:
the nearest one along its bases that the selected method accepts, and no further up than the
class itself.

A rule on the method of an interface is about one method of a type too, although a type may
implement an interface more than once. Of several methods that name the interface only
the first is looked at.
-/

namespace Architecture

namespace TypeIndex

/-- The first method that an open one accepts, on the nearest type of a chain that has any,
and no further along the chain than a given type. -/
def NearestUpTo (chain : List TypeDescriptor) (c : TypeDescriptor) (m d : Member) : Prop :=
  ∃ below owner above, chain = below ++ owner :: above ∧ c ∈ owner :: above ∧
    (∀ u ∈ below, ∀ e ∈ u.methods, ¬ m.accepts e = true) ∧
    IsFirst (m.accepts · = true) owner.methods d

theorem exists_inheritedMethod? {ix : TypeIndex} {t c : TypeDescriptor} {m d : Member}
    (extended : c ∈ ix.baseChain t) (declared : d ∈ c.methods) (accepted : m.accepts d = true) :
    ∃ e, ix.inheritedMethod? t m = some e ∧ NearestUpTo (ix.baseChain t) c m e := by
  have isSome : (ix.inheritedMethod? t m).isSome = true := by
    rw [inheritedMethod?, List.findSome?_isSome_iff]
    refine ⟨c, extended, ?_⟩
    rw [List.find?_isSome]
    exact ⟨d, declared, accepted⟩
  rcases Option.isSome_iff_exists.mp isSome with ⟨e, found⟩
  rcases List.findSome?_eq_some_iff.mp found with ⟨below, owner, above, split, here, earlier⟩
  have lacking : ∀ u ∈ below, ∀ e ∈ u.methods, ¬ m.accepts e = true :=
    fun u member => List.find?_eq_none.mp (earlier u member)
  have first := (find?_eq_some_iff_isFirst fun _ => Iff.rfl).mp here
  refine ⟨e, found, below, owner, above, split, ?_, lacking, first⟩
  -- No type below the owner has such a method, but the class has one.
  rw [split] at extended
  rcases List.mem_append.mp extended with lower | upper
  · exact absurd accepted (lacking c lower d declared)
  · exact upper

end TypeIndex

namespace MethodMarker

variable {ix : TypeIndex} {target : TypeName} {selector : MethodSelector}
  {required : List TypeName} {rule : MethodMarker} {c t : TypeDescriptor} {m : Member}

theorem resolve_eq_ok_iff :
    resolve ix target selector required = .ok rule ↔
      ∃ c m, ix.find? target = some c ∧ selector.locate? c = some m ∧
        rule = { target, onInterface := c.isInterface, method := m,
                 required := required.eraseDups } := by
  unfold resolve
  split
  next missing => simp [missing]
  next c found =>
    split
    next missing => simp [found, missing]
    next m located => simp [found, located, eq_comm]

/-- A rule on the method of a class finds a method on every loaded type that extends the
class, if no two types share a name: the first one that the selected method accepts, on the
nearest type of the base chain that has any, no further up than the class. So every such type
under test is checked, and each marker that its method lacks is reported. -/
theorem subject?_nearest (modules : List ModuleDescriptor)
    (distinct : (TypeIndex.ofModules modules).DistinctNames) (target : TypeName)
    (selector : MethodSelector) (required : List TypeName) (rule : MethodMarker)
    (resolved : resolve (.ofModules modules) target selector required = .ok rule)
    (c : TypeDescriptor) (found : (TypeIndex.ofModules modules).find? target = some c)
    (concrete : c.isInterface = false) (t : TypeDescriptor)
    (loaded : t ∈ (TypeIndex.ofModules modules).types)
    (upward : (TypeIndex.ofModules modules).Extends t c) :
    let ix := TypeIndex.ofModules modules
    ∃ m, rule.subject? ix t = some m ∧
      (∃ chain, ix.IsBaseChain t chain ∧ TypeIndex.NearestUpTo chain c rule.method m) ∧
      ∀ ctx : Context, ctx.index = ix → t ∈ ctx.typesUnderTest → t.isInterface = false →
        t ∈ ctx.applicable target ∧
          checkType ctx rule t =
            (rule.required.filter (!m.hasAttribute ·)).map (violation t m) := by
  intro ix
  rcases resolve_eq_ok_iff.mp resolved with ⟨other, selected, foundToo, located, rfl⟩
  cases found.symm.trans foundToo
  have declared : selected ∈ c.methods := List.mem_of_find?_eq_some located
  have extended := TypeIndex.mem_baseChain_of_extends distinct loaded upward
  rcases TypeIndex.exists_inheritedMethod? extended declared selected.accepts_self with
    ⟨m, inherited, nearest⟩
  have subject : subject? ⟨target, c.isInterface, selected, required.eraseDups⟩ ix t = some m := by
    rwa [subject?, concrete, if_neg Bool.false_ne_true]
  refine ⟨m, subject, ⟨ix.baseChain t, TypeIndex.isBaseChain_iff.mpr rfl, nearest⟩, ?_⟩
  intro ctx indexed tested proper
  constructor
  · have assignable := TypeIndex.isAssignable_of_extends distinct loaded upward
    rw [(TypeIndex.mem_of_find? found).1] at assignable
    apply List.mem_filter.mpr
    simp [tested, proper, indexed, assignable, ix]
  · rw [checkType, indexed, subject]

def store : TypeDescriptor where
  name := ⟨some "App", "Store"⟩
  owner := "App"
  kind := .plainClass
  base := some (.named ⟨some "App", "Journal"⟩ "App" [])
  members := [.method "Load" [] none, .method "Save" [.generic "T"] none]
  genericParameters := ["T"]

/-- The base is named with a module that is not loaded, so that it is found by its name. -/
def cache : TypeDescriptor where
  name := ⟨some "App", "Cache"⟩
  owner := "App"
  kind := .plainClass
  base := some (.named ⟨some "App", "Store"⟩ "Lib" [.named ⟨some "App", "Order"⟩ "App" []])

/-- A module in which bases form a cycle. -/
def storeModule : ModuleDescriptor where
  name := "App"
  types := [cache, store,
    { name := ⟨some "App", "Journal"⟩, kind := .plainClass
      base := some (.named ⟨some "App", "Cache"⟩ "" [])
      members := [.method "Save" [.named ⟨some "App", "Order"⟩ "" []] none] }]

theorem subject?_nearest_storeModule :
    let ix := TypeIndex.ofModules [storeModule]
    let rule : MethodMarker :=
      { target := store.name, onInterface := false, method := .method "Save" [.generic "T"] none
        required := [⟨none, "Logged"⟩] }
    ix.DistinctNames ∧
      resolve ix store.name { name := "Save" } [⟨none, "Logged"⟩] = .ok rule ∧
      ix.find? store.name = some store ∧ cache ∈ ix.types ∧ ix.Extends cache store ∧
      ∃ m chain, rule.subject? ix cache = some m ∧ ix.IsBaseChain cache chain ∧
        TypeIndex.NearestUpTo chain store rule.method m := by
  intro ix rule
  have distinct : ix.DistinctNames := by
    unfold TypeIndex.DistinctNames
    decide +kernel
  have found : ix.find? store.name = some store := by decide +kernel
  have located : ({ name := "Save" } : MethodSelector).locate? store = some rule.method := by
    decide +kernel
  have resolved : resolve ix store.name { name := "Save" } [⟨none, "Logged"⟩] = .ok rule :=
    resolve_eq_ok_iff.mpr ⟨store, rule.method, found, located, rfl⟩
  have loaded : cache ∈ ix.types := by decide +kernel
  have upward : ix.Extends cache store := .single (by decide +kernel)
  rcases subject?_nearest [storeModule] distinct store.name _ _ rule resolved store found rfl cache
    loaded upward with ⟨m, subject, ⟨chain, isChain, nearest⟩, _⟩
  exact ⟨distinct, resolved, found, loaded, upward, m, chain, subject, isChain, nearest⟩

/-- The method carries all markers that the rule asks for. -/
def IsMet (rule : MethodMarker) (m : Member) : Prop :=
  ∀ marker ∈ rule.required, m.hasAttribute marker = true

instance (rule : MethodMarker) (m : Member) : Decidable (rule.IsMet m) :=
  inferInstanceAs (Decidable (∀ marker ∈ rule.required, m.hasAttribute marker = true))

theorem checkType_eq_nil_iff {ctx : Context} (subject : rule.subject? ctx.index t = some m) :
    checkType ctx rule t = [] ↔ rule.IsMet m := by
  rw [checkType, subject]
  simp [IsMet]

/-- The type's own first method that names the interface comes before all others. -/
theorem subject?_of_isFirst {modules : List ModuleDescriptor}
    (onInterface : rule.onInterface = true)
    (implements : (TypeIndex.ofModules modules).Implements t rule.target)
    (first : IsFirst (rule.method.IsExplicit rule.target) t.methods m) :
    rule.subject? (.ofModules modules) t = some m := by
  have own : t.implementation? rule.target rule.method = some m :=
    TypeDescriptor.implementation?_eq_some_iff.mpr (.inl first)
  rw [subject?, if_pos onInterface, TypeIndex.implementingMethod?,
    if_pos (TypeIndex.instantiation?_isSome_iff_implements.mpr implements), TypeIndex.baseChain,
    TypeIndex.baseChainFrom, List.findSome?_cons, own]

/-- On a type that implements an interface, a rule on a method of the interface finds nothing
exactly if the first method that names the interface and is accepted carries the markers. That
all such methods carry them follows from a clean check exactly if it follows from the first of
them, as it does where there is only one. -/
theorem checkType_explicit_iff (modules : List ModuleDescriptor) (ctx : Context)
    (indexed : ctx.index = .ofModules modules) (rule : MethodMarker)
    (onInterface : rule.onInterface = true) (t : TypeDescriptor)
    (implements : ctx.index.Implements t rule.target) :
    let explicit := rule.method.IsExplicit rule.target
    (∀ first, IsFirst explicit t.methods first →
        (checkType ctx rule t = [] ↔ rule.IsMet first)) ∧
      ((checkType ctx rule t = [] → ∀ m ∈ t.methods, explicit m → rule.IsMet m) ↔
        ∀ first, IsFirst explicit t.methods first → rule.IsMet first →
          ∀ m ∈ t.methods, explicit m → rule.IsMet m) ∧
      ((∀ m ∈ t.methods, ∀ d ∈ t.methods, explicit m → explicit d → m = d) →
        checkType ctx rule t = [] → ∀ m ∈ t.methods, explicit m → rule.IsMet m) := by
  intro explicit
  have clean_iff : ∀ first, IsFirst explicit t.methods first →
      (checkType ctx rule t = [] ↔ rule.IsMet first) := by
    intro first isFirst
    rw [indexed] at implements
    apply checkType_eq_nil_iff
    rw [indexed]
    exact subject?_of_isFirst onInterface implements isFirst
  refine ⟨clean_iff, ⟨?_, ?_⟩, ?_⟩
  · intro allMet first isFirst met
    exact allMet ((clean_iff first isFirst).mpr met)
  · intro determined clean m member isExplicit
    rcases exists_isFirst member isExplicit with ⟨first, isFirst⟩
    exact determined first isFirst ((clean_iff first isFirst).mp clean) m member isExplicit
  · intro single clean m member isExplicit
    rcases exists_isFirst member isExplicit with ⟨first, isFirst⟩
    rw [single m member first isFirst.mem isExplicit isFirst.holds]
    exact (clean_iff first isFirst).mp clean

def handles (type : String) (markers : List Attribute) : Member where
  name := "Handle"
  kind := .method
  parameters := [.named ⟨some "App", type⟩ "App" []]
  attributes := markers
  implements := some ⟨⟨some "App", "Handler"⟩, "App", [.named ⟨some "App", type⟩ "App" []]⟩

/-- A class that implements a generic interface twice. -/
def clerk (forOrders forRefunds : List Attribute) : TypeDescriptor where
  name := ⟨some "App", "Clerk"⟩
  owner := "App"
  kind := .plainClass
  interfaces := [
    .named ⟨some "App", "Handler"⟩ "App" [.named ⟨some "App", "Order"⟩ "App" []],
    .named ⟨some "App", "Handler"⟩ "App" [.named ⟨some "App", "Refund"⟩ "App" []]]
  members := [handles "Order" forOrders, handles "Refund" forRefunds]

def handler : TypeDescriptor where
  name := ⟨some "App", "Handler"⟩
  owner := "App"
  kind := .interface
  members := [.method "Handle" [.generic "T"] none]
  genericParameters := ["T"]

def handlerContext (t : TypeDescriptor) : Context where
  index := .ofModules [{ name := "App", types := [handler, t] }]
  options := {}
  heuristic := ⟨[], []⟩
  underTest := ["App"]

def loggedHandlers : MethodMarker where
  target := ⟨some "App", "Handler"⟩
  onInterface := true
  method := .method "Handle" [.generic "T"] none
  required := [⟨none, "Logged"⟩]

section Clerk

variable (forOrders forRefunds : List Attribute)

theorem implements_clerk (ix : TypeIndex) :
    ix.Implements (clerk forOrders forRefunds) loggedHandlers.target :=
  ⟨⟨⟨some "App", "Handler"⟩, "App", [.named ⟨some "App", "Order"⟩ "App" []]⟩,
    .direct List.mem_cons_self, rfl⟩

theorem isExplicit_handles (type : String) (markers : List Attribute) :
    loggedHandlers.method.IsExplicit loggedHandlers.target (handles type markers) :=
  ⟨rfl, _, rfl, rfl⟩

theorem isFirst_clerk :
    IsFirst (loggedHandlers.method.IsExplicit loggedHandlers.target)
      (clerk forOrders forRefunds).methods (handles "Order" forOrders) :=
  ⟨[], [handles "Refund" forRefunds], rfl, isExplicit_handles _ _, by simp⟩

end Clerk

theorem checkType_explicit_iff_clerk :
    let t := clerk [⟨⟨some "App", "Logged"⟩, {}⟩] [⟨⟨some "Lib", "Logged"⟩, {}⟩]
    let ctx := handlerContext t
    ctx.index.Implements t loggedHandlers.target ∧ checkType ctx loggedHandlers t = [] ∧
      ∀ m ∈ t.methods, loggedHandlers.method.IsExplicit loggedHandlers.target m →
        loggedHandlers.IsMet m := by
  intro t ctx
  have implements : ctx.index.Implements t loggedHandlers.target := implements_clerk _ _ _
  have allMet : ∀ m ∈ t.methods, loggedHandlers.IsMet m := by decide
  rcases checkType_explicit_iff _ ctx rfl loggedHandlers rfl t implements with
    ⟨clean_iff, all_iff, _⟩
  have clean := (clean_iff _ (isFirst_clerk _ _)).mpr (by decide)
  exact ⟨implements, clean, all_iff.mpr (fun _ _ _ m member _ => allMet m member) clean⟩

/-- Where only the first of the two methods has the marker, nothing is reported either. -/
theorem check_secondHandler :
    let t := clerk [⟨⟨some "App", "Logged"⟩, {}⟩] []
    let ctx := handlerContext t
    resolve ctx.index handler.name { name := "Handle" } [⟨none, "Logged"⟩] =
        .ok loggedHandlers ∧
      t ∈ ctx.applicable loggedHandlers.target ∧
      ctx.index.Implements t loggedHandlers.target ∧
      check ctx [loggedHandlers] = [] ∧
      ∃ m ∈ t.methods, loggedHandlers.method.IsExplicit loggedHandlers.target m ∧
        ¬ loggedHandlers.IsMet m := by
  intro t ctx
  have implements : ctx.index.Implements t loggedHandlers.target := implements_clerk _ _ _
  have assignable : ctx.index.isAssignable t loggedHandlers.target = true := by
    have direct : ⟨⟨some "App", "Handler"⟩, "App", [.named ⟨some "App", "Order"⟩ "App" []]⟩ ∈
        t.supertypeRefs := List.mem_cons_self
    rw [TypeIndex.isAssignable_iff]
    exact .inr (TypeIndex.name_mem_supertypes direct)
  have onlyClass : ∀ u ∈ ctx.typesUnderTest, u.isInterface = false → u = t := by decide +kernel
  have subject : loggedHandlers.subject? ctx.index t = some _ :=
    subject?_of_isFirst rfl implements (isFirst_clerk _ _)
  refine ⟨?_, ?_, implements, ?_, handles "Refund" [], ?_, isExplicit_handles _ _, ?_⟩
  · rw [resolve_eq_ok_iff]
    exact ⟨handler, loggedHandlers.method, by decide +kernel, by decide +kernel, rfl⟩
  · apply List.mem_filter.mpr
    rw [assignable]
    decide +kernel
  · simp only [check, List.flatMap_singleton, List.flatMap_eq_nil_iff]
    intro u member
    rcases List.mem_filter.mp member with ⟨tested, applies⟩
    have proper : u.isInterface = false := by simpa using (Bool.and_eq_true_iff.mp applies).1
    rw [onlyClass u tested proper]
    exact (checkType_eq_nil_iff subject).mpr (by decide)
  · decide
  · decide

end MethodMarker

end Architecture
