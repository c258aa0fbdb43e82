import Architecture.Descriptor

/-!
Lookup of types by key and by name.

Modules are normalised when they are loaded. An index keeps where a key or a name stands first in
loading order, and a lookup gives the type that stands there. The two laws kept in the index say
that this is a type of that very key or name, so a search that marks what it visited sees every
type at most once.
-/

namespace Architecture

/-- Where a type stands: the place of its module, and its own place within that. -/
structure Position where
  outer : Nat
  inner : Nat
deriving DecidableEq, Repr

def typeAt? (modules : List ModuleDescriptor) (p : Position) : Option TypeDescriptor :=
  modules[p.outer]?.bind (·.types[p.inner]?)

/-- The types of modules in loading order, each behind its position. -/
def placed (modules : List ModuleDescriptor) : List (Position × TypeDescriptor) :=
  modules.zipIdx.flatMap fun m => m.1.types.zipIdx.map fun t => (⟨m.2, t.2⟩, t.1)

theorem typeAt?_of_mem_placed {modules : List ModuleDescriptor} {p : Position}
    {t : TypeDescriptor} (member : (p, t) ∈ placed modules) : typeAt? modules p = some t := by
  obtain ⟨⟨m, outer⟩, module, member⟩ := List.mem_flatMap.mp member
  obtain ⟨⟨u, inner⟩, type, same⟩ := List.mem_map.mp member
  cases same
  rw [List.mem_zipIdx_iff_getElem?] at module type
  simp_all [typeAt?]

structure TypeIndex where
  modules : List ModuleDescriptor
  byKey : Std.TreeMap TypeKey Position := ∅
  byName : Std.TreeMap TypeName Position := ∅
  key_of_byKey : ∀ (k : TypeKey) (p : Position), byKey[k]? = some p →
    ∃ t, typeAt? modules p = some t ∧ t.key = k := by simp
  known_of_byName : ∀ (n : TypeName) (p : Position), byName[n]? = some p →
    ∃ t, typeAt? modules p = some t ∧ t.name = n ∧ t.key ∈ byKey := by simp

namespace TypeIndex

/-- Keeps where a type stands, unless its key or its name is known already. -/
def add (ix : TypeIndex) (p : Position) (t : TypeDescriptor)
    (here : typeAt? ix.modules p = some t) : TypeIndex where
  modules := ix.modules
  byKey := ix.byKey.insertIfNew t.key p
  byName := ix.byName.insertIfNew t.name p
  key_of_byKey k q found := by
    rw [Std.TreeMap.getElem?_insertIfNew] at found
    split at found
    · next new =>
      cases found
      exact ⟨t, here, Std.LawfulEqCmp.eq_of_compare new.1⟩
    · exact ix.key_of_byKey k q found
  known_of_byName n q found := by
    rw [Std.TreeMap.getElem?_insertIfNew] at found
    split at found
    · next new =>
      cases found
      exact ⟨t, here, Std.LawfulEqCmp.eq_of_compare new.1, by simp [Std.TreeMap.mem_insertIfNew]⟩
    · obtain ⟨u, there, sameName, known⟩ := ix.known_of_byName n q found
      exact ⟨u, there, sameName, by simp [Std.TreeMap.mem_insertIfNew, known]⟩

def addAll (ix : TypeIndex) : (ts : List (Position × TypeDescriptor)) →
    (∀ e ∈ ts, typeAt? ix.modules e.1 = some e.2) → TypeIndex
  | [], _ => ix
  | (p, t) :: rest, here =>
    (ix.add p t (here (p, t) List.mem_cons_self)).addAll rest
      fun e later => here e (List.mem_cons_of_mem _ later)

/-- The types of all modules in loading order. -/
def types (ix : TypeIndex) : List TypeDescriptor := ix.modules.flatMap (·.types)

def ofModules (modules : List ModuleDescriptor) : TypeIndex :=
  let modules := modules.map (·.normalized)
  addAll { modules } (placed modules) fun _ => typeAt?_of_mem_placed

/-- The number of distinct keys. -/
def size (ix : TypeIndex) : Nat := ix.byKey.size

def module? (ix : TypeIndex) (name : String) : Option ModuleDescriptor :=
  ix.modules.find? (·.name = name)

def get? (ix : TypeIndex) (key : TypeKey) : Option TypeDescriptor :=
  ix.byKey[key]?.bind (typeAt? ix.modules)

def find? (ix : TypeIndex) (name : TypeName) : Option TypeDescriptor :=
  ix.byName[name]?.bind (typeAt? ix.modules)

/-- The type that a reference means: the one with its exact key, else one of its name. -/
def resolve? (ix : TypeIndex) (ref : NamedRef) : Option TypeDescriptor :=
  ix.get? ref.key <|> ix.find? ref.name

/-- Whether the name belongs to a loaded interface. -/
def isInterface (ix : TypeIndex) (name : TypeName) : Bool :=
  (ix.find? name).any (·.isInterface)

/-- The loaded type that a descriptor's base reference means. -/
def base? (ix : TypeIndex) (t : TypeDescriptor) : Option TypeDescriptor :=
  (t.base.bind TypeRef.asNamed).bind ix.resolve?

variable {ix : TypeIndex}

theorem mem_of_get? {k : TypeKey} {t : TypeDescriptor} (found : ix.get? k = some t) :
    t.key = k ∧ t.key ∈ ix.byKey := by
  obtain ⟨p, position, there⟩ := Option.bind_eq_some_iff.mp found
  obtain ⟨u, alsoThere, sameKey⟩ := ix.key_of_byKey k p position
  rw [there] at alsoThere
  cases alsoThere
  refine ⟨sameKey, ?_⟩
  rw [sameKey, Std.TreeMap.mem_iff_isSome_getElem?]
  simp [position]

theorem mem_of_find? {n : TypeName} {t : TypeDescriptor} (found : ix.find? n = some t) :
    t.name = n ∧ t.key ∈ ix.byKey := by
  obtain ⟨p, position, there⟩ := Option.bind_eq_some_iff.mp found
  obtain ⟨u, alsoThere, known⟩ := ix.known_of_byName n p position
  rw [there] at alsoThere
  cases alsoThere
  exact known

theorem mem_of_resolve? {ref : NamedRef} {t : TypeDescriptor} (found : ix.resolve? ref = some t) :
    t.name = ref.name ∧ t.key ∈ ix.byKey := by
  unfold resolve? at found
  cases byKey : ix.get? ref.key with
  | some u =>
    simp only [byKey, Option.orElse_eq_orElse, Option.orElse_some, Option.some.injEq] at found
    subst found
    obtain ⟨sameKey, loaded⟩ := mem_of_get? byKey
    exact ⟨congrArg TypeKey.name sameKey, loaded⟩
  | none =>
    simp only [byKey, Option.orElse_eq_orElse, Option.orElse_none] at found
    exact mem_of_find? found

theorem mem_of_base? {t b : TypeDescriptor} (found : ix.base? t = some b) : b.key ∈ ix.byKey := by
  obtain ⟨ref, _, resolves⟩ := Option.bind_eq_some_iff.mp found
  exact (mem_of_resolve? resolves).2

end TypeIndex

theorem filter_not_mem_cons {α : Type} [DecidableEq α] (xs seen : List α) (a : α) :
    xs.filter (· ∉ a :: seen) = (xs.filter (· ∉ seen)).filter (· ≠ a) := by
  rw [List.filter_filter]
  exact List.filter_congr fun x _ => by simp

/-- Marking an unmarked element leaves fewer of them. -/
theorem length_filter_not_mem_lt {α : Type} [DecidableEq α] {xs seen : List α} {a : α}
    (member : a ∈ xs) (new : a ∉ seen) :
    (xs.filter (· ∉ a :: seen)).length < (xs.filter (· ∉ seen)).length := by
  rw [filter_not_mem_cons]
  refine List.length_filter_lt_length_iff_exists.2 ⟨a, ?_, by simp⟩
  simp [member, new]

theorem length_filter_not_mem_le {α : Type} [DecidableEq α] (xs seen : List α) (a : α) :
    (xs.filter (· ∉ a :: seen)).length ≤ (xs.filter (· ∉ seen)).length := by
  rw [filter_not_mem_cons]
  exact List.length_filter_le ..

end Architecture
