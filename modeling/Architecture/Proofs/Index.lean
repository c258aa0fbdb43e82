import Architecture.Index
import Mathlib.Data.List.Dedup

/-!
# Lookup in an index of modules

Types are added in loading order and the position of an earlier one is never replaced, so
every lookup is a search for the first type that fits. Only positions of types are kept, and
one for each key.
-/

namespace Architecture

/-- A map that takes in values one by one, each under a label, has the first of every
label. -/
theorem getElem?_foldl_insertIfNew {κ α β : Type} [Ord κ] [Std.TransOrd κ] [Std.LawfulEqOrd κ]
    [DecidableEq κ] (label : α → κ) (value : α → β) (xs : List α) (known : Std.TreeMap κ β)
    (k : κ) :
    (xs.foldl (fun m x => m.insertIfNew (label x) (value x)) known)[k]? =
      known[k]?.or ((xs.find? (label · = k)).map value) := by
  induction xs generalizing known with
  | nil => simp
  | cons x rest inductionHypothesis =>
      have added : (known.insertIfNew (label x) (value x))[k]? =
          known[k]?.or (if label x = k then some (value x) else none) := by
        simp only [Std.TreeMap.getElem?_insertIfNew, Std.LawfulEqCmp.compare_eq_iff_eq]
        by_cases same : label x = k
        · subst same
          by_cases present : label x ∈ known <;> simp [present]
        · simp [same]
      rw [List.foldl_cons, inductionHypothesis, added, Option.or_assoc, List.find?_cons]
      by_cases same : label x = k <;> simp [same]

/-- Positions go with the types that are enumerated, one for one. -/
theorem map_snd_placed (modules : List ModuleDescriptor) :
    (placed modules).map (·.2) = modules.flatMap (·.types) := by
  simp only [placed, List.map_flatMap, List.map_map, Function.comp_def, List.zipIdx_map_fst]
  rw [← List.flatMap_map, List.zipIdx_map_fst]

/-- The position that comes first for a label is the position of the first type with it. -/
theorem bind_typeAt?_find?_placed (modules : List ModuleDescriptor) (p : TypeDescriptor → Bool) :
    (((placed modules).find? fun e => p e.2).map (·.1)).bind (typeAt? modules) =
      (modules.flatMap (·.types)).find? p := by
  rw [← map_snd_placed, List.find?_map, Function.comp_def]
  cases found : (placed modules).find? fun e => p e.2 with
  | none => rfl
  | some e => exact typeAt?_of_mem_placed (List.mem_of_find?_eq_some found)

namespace TypeIndex

theorem fields_addAll (ts : List (Position × TypeDescriptor)) (ix : TypeIndex)
    (here : ∀ e ∈ ts, typeAt? ix.modules e.1 = some e.2) :
    (ix.addAll ts here).modules = ix.modules ∧
      (ix.addAll ts here).byKey =
        ts.foldl (fun m e => m.insertIfNew e.2.key e.1) ix.byKey ∧
      (ix.addAll ts here).byName =
        ts.foldl (fun m e => m.insertIfNew e.2.name e.1) ix.byName := by
  induction ts generalizing ix with
  | nil => exact ⟨rfl, rfl, rfl⟩
  | cons e rest inductionHypothesis =>
      exact inductionHypothesis (ix.add e.1 e.2 (here e List.mem_cons_self)) _

variable {modules : List ModuleDescriptor} {t : TypeDescriptor}

@[simp]
theorem modules_ofModules (modules : List ModuleDescriptor) :
    (ofModules modules).modules = modules.map (·.normalized) :=
  (fields_addAll _ _ _).1

/-- A key is kept with the first position at which it stands. -/
theorem byKey_ofModules (k : TypeKey) :
    (ofModules modules).byKey[k]? =
      ((placed (modules.map (·.normalized))).find? (·.2.key = k)).map (·.1) := by
  rw [ofModules, (fields_addAll _ _ _).2.1,
    getElem?_foldl_insertIfNew (fun e : Position × TypeDescriptor => e.2.key) (·.1)]
  simp

/-- A name is kept with the first position at which it stands. -/
theorem byName_ofModules (n : TypeName) :
    (ofModules modules).byName[n]? =
      ((placed (modules.map (·.normalized))).find? (·.2.name = n)).map (·.1) := by
  rw [ofModules, (fields_addAll _ _ _).2.2,
    getElem?_foldl_insertIfNew (fun e : Position × TypeDescriptor => e.2.name) (·.1)]
  simp

/-- A key stands for the first type that has it. -/
theorem get?_ofModules (k : TypeKey) :
    (ofModules modules).get? k = (ofModules modules).types.find? (·.key = k) := by
  rw [get?, types, byKey_ofModules, modules_ofModules, ← bind_typeAt?_find?_placed]

/-- A name stands for the first type that has it. -/
theorem find?_ofModules (n : TypeName) :
    (ofModules modules).find? n = (ofModules modules).types.find? (·.name = n) := by
  rw [find?, types, byName_ofModules, modules_ofModules, ← bind_typeAt?_find?_placed]

theorem resolve?_eq_some_iff {ix : TypeIndex} {ref : NamedRef} :
    ix.resolve? ref = some t ↔
      ix.get? ref.key = some t ∨ ix.get? ref.key = none ∧ ix.find? ref.name = some t := by
  simp [resolve?]

theorem mem_types_of_resolve? {ref : NamedRef}
    (found : (ofModules modules).resolve? ref = some t) : t ∈ (ofModules modules).types := by
  rw [resolve?_eq_some_iff, get?_ofModules, find?_ofModules] at found
  rcases found with byKey | ⟨_, byName⟩
  · exact List.mem_of_find?_eq_some byKey
  · exact List.mem_of_find?_eq_some byName

theorem resolve?_isSome {ref : NamedRef} (member : t ∈ (ofModules modules).types)
    (sameName : t.name = ref.name) : ((ofModules modules).resolve? ref).isSome := by
  have found : ((ofModules modules).find? ref.name).isSome := by
    rw [find?_ofModules, List.find?_isSome]
    exact ⟨t, member, by simpa using sameName⟩
  simp [resolve?, found]

theorem get?_key_of_find? {n : TypeName} (found : (ofModules modules).find? n = some t) :
    (ofModules modules).get? t.key = some t := by
  rw [find?_ofModules, List.find?_eq_some_iff_append] at found
  rcases found with ⟨sameName, before, after, split, earlier⟩
  rw [get?_ofModules, List.find?_eq_some_iff_append]
  refine ⟨by simp, before, after, split, ?_⟩
  -- A type of the same key also has the same name, so none comes earlier.
  intro u member
  have differs := earlier u member
  simp only [Bool.not_eq_true', decide_eq_false_iff_not, decide_eq_true_eq] at differs sameName ⊢
  exact fun sameKey => differs ((congrArg TypeKey.name sameKey).trans sameName)

theorem get?_key_of_resolve? {ref : NamedRef}
    (found : (ofModules modules).resolve? ref = some t) :
    (ofModules modules).get? t.key = some t := by
  rcases resolve?_eq_some_iff.mp found with byKey | ⟨_, byName⟩
  · rwa [(mem_of_get? byKey).1]
  · exact get?_key_of_find? byName

/-- A type stands at the position. -/
def InRange (ix : TypeIndex) (p : Position) : Prop :=
  ∃ within : p.outer < ix.modules.length, p.inner < ix.modules[p.outer].types.length

theorem inRange_of_typeAt? {ix : TypeIndex} {p : Position}
    (found : typeAt? ix.modules p = some t) : ix.InRange p := by
  obtain ⟨m, moduleThere, typeThere⟩ := Option.bind_eq_some_iff.mp found
  obtain ⟨within, rfl⟩ := List.getElem?_eq_some_iff.mp moduleThere
  obtain ⟨inside, -⟩ := List.getElem?_eq_some_iff.mp typeThere
  exact ⟨within, inside⟩

theorem mem_byKey_ofModules {k : TypeKey} :
    k ∈ (ofModules modules).byKey ↔ k ∈ (ofModules modules).types.map (·.key) := by
  constructor
  · intro known
    rw [Std.TreeMap.mem_iff_isSome_getElem?, Option.isSome_iff_exists] at known
    obtain ⟨p, kept⟩ := known
    obtain ⟨t, there, rfl⟩ := (ofModules modules).key_of_byKey k p kept
    have found : (ofModules modules).get? t.key = some t := by rw [get?, kept]; exact there
    rw [get?_ofModules] at found
    exact List.mem_map_of_mem (List.mem_of_find?_eq_some found)
  · intro member
    obtain ⟨t, loaded, rfl⟩ := List.mem_map.mp member
    have found : ((ofModules modules).get? t.key).isSome := by
      rw [get?_ofModules, List.find?_isSome]
      exact ⟨t, loaded, by simp⟩
    obtain ⟨u, found⟩ := Option.isSome_iff_exists.mp found
    rw [← (mem_of_get? found).1]
    exact (mem_of_get? found).2

theorem size_ofModules (modules : List ModuleDescriptor) :
    (ofModules modules).size = ((ofModules modules).types.map (·.key)).dedup.length := by
  have sameKeys : (ofModules modules).byKey.keys.Perm
      ((ofModules modules).types.map (·.key)).dedup := by
    rw [List.perm_ext_iff_of_nodup Std.TreeMap.nodup_keys (List.nodup_dedup _)]
    intro k
    rw [Std.TreeMap.mem_keys, mem_byKey_ofModules, List.mem_dedup]
  rw [size, ← Std.TreeMap.length_keys, sameKeys.length_eq]

/-- An index of modules answers as a search through the types of the normalised modules in
loading order: for the first with a key, for the first with a name, and for the first with the
key of a reference or else the first with its name. All positions in the index are those of
types, it has one for each key that occurs, and what a name or a reference leads to is also
what the key of that type leads to. -/
theorem lookups_ofModules (modules : List ModuleDescriptor) :
    let ix := ofModules modules
    let loaded := (modules.map (·.normalized)).flatMap (·.types)
    (∀ k, ix.get? k = loaded.find? (·.key = k)) ∧
      (∀ n, ix.find? n = loaded.find? (·.name = n)) ∧
      (∀ ref : NamedRef, ix.resolve? ref =
        (loaded.find? (·.key = ref.key)).or (loaded.find? (·.name = ref.name))) ∧
      (∀ (k : TypeKey) (p : Position), ix.byKey[k]? = some p → ix.InRange p) ∧
      (∀ (n : TypeName) (p : Position), ix.byName[n]? = some p → ix.InRange p) ∧
      ix.size = (loaded.map (·.key)).dedup.length ∧
      (∀ n t, ix.find? n = some t → ix.get? t.key = some t) ∧
      ∀ ref t, ix.resolve? ref = some t → ix.get? t.key = some t := by
  intro ix loaded
  have enumerated : ix.types = loaded := by rw [types, modules_ofModules]
  have byKey (k : TypeKey) : ix.get? k = loaded.find? (·.key = k) := by
    rw [get?_ofModules, enumerated]
  have byName (n : TypeName) : ix.find? n = loaded.find? (·.name = n) := by
    rw [find?_ofModules, enumerated]
  refine ⟨byKey, byName, ?_, ?_, ?_, ?_, ?_, ?_⟩
  · intro ref
    rw [resolve?, byKey, byName, Option.orElse_eq_orElse, Option.orElse_eq_or]
  · intro k p kept
    obtain ⟨t, there, -⟩ := ix.key_of_byKey k p kept
    exact inRange_of_typeAt? there
  · intro n p kept
    obtain ⟨t, there, -⟩ := ix.known_of_byName n p kept
    exact inRange_of_typeAt? there
  · rw [← enumerated, size_ofModules]
  · exact fun _ _ found => get?_key_of_find? found
  · exact fun _ _ found => get?_key_of_resolve? found

end TypeIndex

end Architecture
