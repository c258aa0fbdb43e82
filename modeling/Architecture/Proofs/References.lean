import Architecture.Proofs.Cache.Transparency
import Architecture.Proofs.Name
import Mathlib.Data.Finset.Card

/-!
# The references of a type

A type refers to every named type that occurs in its declaration, on its own or as an
argument of another, except to itself. Which parts of a member belong to the declaration
depends on the kind of the member. A base type that is one of the root types is passed
over together with its arguments; the same type counts in any other place.
-/

namespace Architecture

/-- The named type of this key stands at the head of a reference or in its arguments. -/
inductive TypeRef.Mentions (k : TypeKey) : TypeRef → Prop where
  | head {args : List TypeRef} : Mentions k (.named k.name k.owner args)
  | argument {name : TypeName} {owner : String} {args : List TypeRef} {arg : TypeRef} :
      arg ∈ args → Mentions k arg → Mentions k (.named name owner args)

/-- The references in the declaration of a type, by the place where they stand. -/
inductive TypeDescriptor.Declares (roots : List String) (t : TypeDescriptor) : TypeRef → Prop where
  | base {r : TypeRef} : t.base = some r → (∀ n, r.definition = some n → n.full ∉ roots) →
      Declares roots t r
  | interface {r : TypeRef} : r ∈ t.interfaces → Declares roots t r
  | value {m : Member} {r : TypeRef} : m ∈ t.members → m.kind = .field ∨ m.kind = .property →
      m.valueType = some r → Declares roots t r
  | constructorParameter {m : Member} {r : TypeRef} : m ∈ t.members → m.kind = .constructor →
      r ∈ m.parameters → Declares roots t r
  | methodParameter {m : Member} {r : TypeRef} : m ∈ t.members → m.kind = .method →
      r ∈ m.parameters → Declares roots t r
  | methodResult {m : Member} {r : TypeRef} : m ∈ t.members → m.kind = .method →
      m.valueType = some r → Declares roots t r

namespace TypeRef

variable {k : TypeKey}

theorem mentions_named_iff {name : TypeName} {owner : String} {args : List TypeRef} :
    (TypeRef.named name owner args).Mentions k ↔
      k = ⟨name, owner⟩ ∨ ∃ arg ∈ args, arg.Mentions k := by
  constructor
  · intro mentions
    cases mentions with
    | head => exact .inl rfl
    | argument member inside => exact .inr ⟨_, member, inside⟩
  · rintro (rfl | ⟨arg, member, inside⟩)
    · exact .head
    · exact .argument member inside

mutual

theorem mem_keys_iff : (r : TypeRef) → (k ∈ r.keys ↔ r.Mentions k)
  | .generic parameter => by
      simp only [keys, List.not_mem_nil, false_iff]
      intro mentions
      cases mentions
  | .named name owner args => by
      rw [keys, List.mem_cons, mem_keysAll_iff args, mentions_named_iff]

theorem mem_keysAll_iff : (rs : List TypeRef) → (k ∈ keysAll rs ↔ ∃ r ∈ rs, r.Mentions k)
  | [] => by simp [keysAll]
  | r :: rest => by
      rw [keysAll, List.mem_append, mem_keys_iff r, mem_keysAll_iff rest]
      simp only [List.mem_cons, exists_eq_or_imp]

end

end TypeRef

namespace TypeDescriptor

variable {roots : List String} {t : TypeDescriptor} {r : TypeRef}

theorem mem_mentions_iff : r ∈ t.mentions roots ↔ t.Declares roots r := by
  simp only [mentions, List.mem_append, List.mem_filter, Option.mem_toList, List.mem_flatMap]
  constructor
  · rintro ((⟨isBase, notRoot⟩ | isInterface) | ⟨m, member, mentioned⟩)
    · refine .base isBase ?_
      intro n defines
      simpa [defines] using notRoot
    · exact .interface isInterface
    · unfold Member.mentions at mentioned
      split at mentioned
      next kind => exact .value member (.inl kind) (Option.mem_toList.mp mentioned)
      next kind => exact .value member (.inr kind) (Option.mem_toList.mp mentioned)
      next kind => exact .constructorParameter member kind mentioned
      next kind =>
        rcases List.mem_append.mp mentioned with parameter | result
        · exact .methodParameter member kind parameter
        · exact .methodResult member kind (Option.mem_toList.mp result)
  · intro declares
    cases declares with
    | base isBase notRoot =>
        refine .inl (.inl ⟨isBase, ?_⟩)
        cases defines : r.definition with
        | none => rfl
        | some n => simpa [defines] using notRoot n defines
    | interface isInterface => exact .inl (.inr isInterface)
    | @value m _ member kind value =>
        refine .inr ⟨m, member, ?_⟩
        rcases kind with kind | kind <;> simp [Member.mentions, kind, value]
    | @constructorParameter m _ member kind parameter =>
        exact .inr ⟨m, member, by simpa [Member.mentions, kind] using parameter⟩
    | @methodParameter m _ member kind parameter =>
        exact .inr ⟨m, member, by simp [Member.mentions, kind, Member.signature, parameter]⟩
    | @methodResult m _ member kind result =>
        exact .inr ⟨m, member, by simp [Member.mentions, kind, Member.signature, result]⟩

/-- The type refers to a key: it is not its own, and it occurs in the declaration. -/
def RefersTo (roots : List String) (t : TypeDescriptor) (k : TypeKey) : Prop :=
  k ≠ t.key ∧ ∃ r, t.Declares roots r ∧ r.Mentions k

variable {k : TypeKey}

theorem mem_keys_mentions_iff :
    k ∈ ((t.mentions roots).flatMap TypeRef.keys).filter (· ≠ t.key) ↔ t.RefersTo roots k := by
  simp only [List.mem_filter, List.mem_flatMap, mem_mentions_iff, TypeRef.mem_keys_iff,
    decide_eq_true_eq, RefersTo, and_comm]

theorem mem_internal_iff :
    k ∈ (t.references roots).internal ↔ t.RefersTo roots k ∧ k.owner = t.owner := by
  rw [references, List.partition_eq_filter_filter, mem_sortedDistinct, List.mem_filter,
    mem_keys_mentions_iff, decide_eq_true_iff]

theorem mem_external_iff :
    k ∈ (t.references roots).external ↔ t.RefersTo roots k ∧ k.owner ≠ t.owner := by
  rw [references, List.partition_eq_filter_filter, mem_sortedDistinct, List.mem_filter,
    mem_keys_mentions_iff, Function.comp_apply, Bool.not_eq_true', decide_eq_false_iff_not]

theorem references_pairwise (roots : List String) (t : TypeDescriptor) :
    ((t.references roots).external.Pairwise fun a b => compare a b = .lt) ∧
      (t.references roots).internal.Pairwise fun a b => compare a b = .lt :=
  ⟨sortedDistinct_pairwise _, sortedDistinct_pairwise _⟩

theorem disjoint_references (roots : List String) (t : TypeDescriptor) :
    (t.references roots).external.Disjoint (t.references roots).internal := by
  intro k outside inside
  exact (mem_external_iff.mp outside).2 (mem_internal_iff.mp inside).2

/-- No type is referred to twice, as both internal and external or as one of these. -/
theorem references_nodup (roots : List String) (t : TypeDescriptor) :
    ((t.references roots).external ++ (t.references roots).internal).Nodup := by
  rcases t.references_pairwise roots with ⟨external, internal⟩
  exact List.nodup_append'.mpr ⟨external.imp ne_of_compare_lt, internal.imp ne_of_compare_lt,
    disjoint_references roots t⟩

/-- A type refers to exactly the named types that occur in its declaration, whichever
analyses have filled the cache before. A reference is internal or external by its owner,
never both, and the size counts every key once. -/
theorem references_exact (earlier : List Analyzer) (ctx : Context) (t : TypeDescriptor) :
    let found := ((ctx.references t).cached.run (Analyzer.cacheAfter earlier)).1
    (∀ k, k ∈ found.all ↔
        k ≠ t.key ∧ ∃ r, t.Declares ctx.options.rootTypes r ∧ r.Mentions k) ∧
      (∀ k, k ∈ found.internal ↔ k ∈ found.all ∧ k.owner = t.owner) ∧
      (∀ k, k ∈ found.external ↔ k ∈ found.all ∧ k.owner ≠ t.owner) ∧
      found.internal.Disjoint found.external ∧
      found.size = (found.internal.toFinset ∪ found.external.toFinset).card := by
  intro found
  have computed : found = t.references ctx.options.rootTypes :=
    Analyzer.cached_run_cacheAfter earlier (ctx.references t)
  have all : ∀ k, k ∈ found.all ↔ t.RefersTo ctx.options.rootTypes k := by
    intro k
    rw [computed, ReferenceSet.all, List.mem_append, mem_internal_iff, mem_external_iff,
      ← and_or_left, and_iff_left (Decidable.em _)]
  refine ⟨all, ?_, ?_, ?_, ?_⟩
  · intro k
    rw [all, computed, mem_internal_iff]
  · intro k
    rw [all, computed, mem_external_iff]
  · rw [computed]
    exact (disjoint_references _ t).symm
  · have distinct : (found.internal ++ found.external).Nodup := by
      rw [computed]
      exact (references_nodup _ t).perm List.perm_append_comm
    rw [← List.toFinset_append, List.toFinset_card_of_nodup distinct, List.length_append]
    rfl

end TypeDescriptor

end Architecture
