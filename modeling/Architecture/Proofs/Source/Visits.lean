import Architecture.Proofs.Source.Lookup
import Architecture.Source.Extraction
import Architecture.Standard

/-!
# What extraction visits

Declarations are recorded by one walk through the items of a package, and descriptors are made
by another. Both come to the same items, which are all but those in inline modules for tests,
and take the same kinds of them. So a type is recorded for a module exactly if a descriptor is
made for it there, and no descriptor stands in a module that is not recorded.

The second walk looks names up. It gets to its end if every lookup does.
-/

namespace Architecture.Source

/-- What a module is declared with. -/
structure ModuleHeading where
  attributes : List Attribute
  name : String

/-- An item that is no inline module, and the inline modules around it, the outermost first. -/
structure Leaf where
  around : List ModuleHeading := []
  item : Item

def Leaf.inside (l : Leaf) (m : ModuleHeading) : Leaf := { l with around := m :: l.around }

/-- An item that a walk comes to, and the module in which its names are read. -/
structure Visit where
  scope : Scope
  leaf : Leaf

def Visit.inside (v : Visit) (m : ModuleHeading) : Visit := { v with leaf := v.leaf.inside m }

mutual

/-- The items at any depth of inline modules, those in modules for tests left out. -/
def visits (s : Scope) : Item → List Visit
  | .inlineModule attributes name items =>
    if isTestOnly attributes then []
    else (visitsAll (s.enter name items) items).map (·.inside ⟨attributes, name⟩)
  | item => [⟨s, { item }⟩]

def visitsAll (s : Scope) : List Item → List Visit
  | [] => []
  | item :: rest => visits s item ++ visitsAll s rest

end

def visitsOf (d : Declarations) (files : List SourceFile) : List Visit :=
  files.flatMap fun f => visitsAll (f.scope d) f.items

/-- The scopes that a walk from this one comes to below modules at these paths. -/
structure Scope.Reaches (s : Scope) (below : List (List String)) (inner : Scope) : Prop where
  declarations : inner.declarations = s.declarations
  path : inner.path = s.path ∨ inner.path ∈ below
  imports : inner.imports = s.imports ∨ ∃ items, inner.imports = .ofItems items

mutual

theorem reaches_of_mem_visits : (s : Scope) → (item : Item) → ∀ v ∈ visits s item,
    s.Reaches (modulesIn s.path item) v.scope
  | s, .inlineModule attributes name items => by
      intro v member
      rw [visits] at member
      rw [modulesIn]
      split at member
      next => cases member
      next notTests =>
        obtain ⟨inner, within, rfl⟩ := List.mem_map.mp member
        have found := reaches_of_mem_visitsAll (s.enter name items) items inner within
        rw [if_neg notTests]
        refine ⟨found.declarations, .inr (List.mem_cons.mpr found.path), .inr ?_⟩
        exact found.imports.elim (fun own => ⟨items, own⟩) id
  | s, .data _ _ | s, .interface _ _ _ | s, .implementation _ | s, .fileModule _ _
  | s, .use _ | s, .other => by
      intro v member
      simp only [visits, List.mem_singleton] at member
      subst member
      exact ⟨rfl, .inl rfl, .inl rfl⟩

theorem reaches_of_mem_visitsAll : (s : Scope) → (items : List Item) → ∀ v ∈ visitsAll s items,
    s.Reaches (modulesInAll s.path items) v.scope
  | _, [] => fun _ member => by cases member
  | s, item :: rest => by
      intro v member
      rw [modulesInAll]
      rcases List.mem_append.mp member with first | later
      · have found := reaches_of_mem_visits s item v first
        exact { found with path := found.path.imp_right (List.mem_append_left _) }
      · have found := reaches_of_mem_visitsAll s rest v later
        exact { found with path := found.path.imp_right (List.mem_append_right _) }

end

/-- Names are read in modules of the package, and imports come from declarations of them. -/
theorem scope_of_mem_visitsOf {d : Declarations} {files : List SourceFile} {v : Visit}
    (member : v ∈ visitsOf d files) :
    v.scope.declarations = d ∧
      (v.scope.path ∈ files.flatMap fun f => f.home :: modulesInAll f.home f.items) ∧
      ∃ items, v.scope.imports = .ofItems items := by
  obtain ⟨f, file, visited⟩ := List.mem_flatMap.mp member
  obtain ⟨same, path, imports⟩ := reaches_of_mem_visitsAll (f.scope d) f.items v visited
  refine ⟨same, List.mem_flatMap.mpr ⟨f, file, List.mem_cons.mpr path⟩, ?_⟩
  exact imports.elim (fun own => ⟨f.items, own⟩) id

/-! ### The walk that records -/

/-- The name of the type that an item declares, if it declares one. -/
def Item.typeName? : Item → Option String
  | .data heading _ => some heading.name
  | .interface heading _ _ => some heading.name
  | _ => none

/-- The module and the name under which a type is recorded, if the item declares one. -/
def Visit.declared? (v : Visit) : Option (List String × String) :=
  v.leaf.item.typeName?.map (v.scope.path, ·)

mutual

theorem typesIn_eq_visits : (s : Scope) → (item : Item) →
    typesIn s.path item = (visits s item).filterMap (·.declared?)
  | s, .inlineModule attributes name items => by
      rw [typesIn, visits]
      split
      next => rfl
      next =>
        rw [List.filterMap_map]
        exact typesInAll_eq_visits (s.enter name items) items
  | _, .data _ _ | _, .interface _ _ _ | _, .implementation _ | _, .fileModule _ _
  | _, .use _ | _, .other => rfl

theorem typesInAll_eq_visits : (s : Scope) → (items : List Item) →
    typesInAll s.path items = (visitsAll s items).filterMap (·.declared?)
  | _, [] => rfl
  | s, item :: rest => by
      rw [typesInAll, visitsAll, List.filterMap_append, typesIn_eq_visits s item,
        typesInAll_eq_visits s rest]

end

theorem types_ofFiles_eq_visits (package : String) (files : List SourceFile) (d : Declarations) :
    (Declarations.ofFiles package files).types = (visitsOf d files).filterMap (·.declared?) := by
  rw [Declarations.ofFiles, visitsOf, List.filterMap_flatMap]
  exact List.flatMap_congr fun f _ => typesInAll_eq_visits (f.scope d) f.items

/-! ### The walk that describes -/

namespace Extracted

variable {α β : Type} {f : α → Found Extracted}

theorem gather_append (earlier later : List α) :
    gather f (earlier ++ later) = do return (← gather f earlier).append (← gather f later) := by
  unfold gather
  rw [List.mapM_append]
  cases earlier.mapM f with
  | error failure => rfl
  | ok first =>
      cases later.mapM f with
      | error failure => rfl
      | ok others => exact congrArg Except.ok (by simp [concat, append])

theorem gather_singleton (item : α) : gather f [item] = f item := by
  rw [gather, List.mapM_cons, List.mapM_nil]
  cases f item with
  | error failure => rfl
  | ok e => exact congrArg Except.ok (by simp [concat])

theorem gather_cons (item : α) (rest : List α) :
    gather f (item :: rest) = do return (← f item).append (← gather f rest) := by
  rw [← List.singleton_append, gather_append, gather_singleton]

theorem gather_map (g : β → α) (items : List β) :
    gather f (items.map g) = gather (fun item => f (g item)) items := by
  rw [gather, List.mapM_map]
  rfl

theorem gather_flatMap (g : β → List α) (items : List β) :
    gather f (items.flatMap g) = gather (fun item => gather f (g item)) items := by
  induction items with
  | nil => rfl
  | cons item rest inductionHypothesis =>
      rw [List.flatMap_cons, gather_append, gather_cons, inductionHypothesis]

end Extracted

section Descriptions

variable [SourceNotation]

/-- What the item declares. -/
def Visit.yield (v : Visit) : Found Extracted := v.scope.yield v.leaf.item

mutual

theorem extract_eq_gather : (s : Scope) → (item : Item) →
    extract s item = Extracted.gather Visit.yield (visits s item)
  | s, .inlineModule attributes name items => by
      rw [extract, visits]
      split
      next => rfl
      next => rw [Extracted.gather_map, extractAll_eq_gather (s.enter name items) items]; rfl
  | s, .data _ _ | s, .interface _ _ _ | s, .implementation _ | s, .fileModule _ _
  | s, .use _ | s, .other => (Extracted.gather_singleton _).symm

theorem extractAll_eq_gather : (s : Scope) → (items : List Item) →
    extractAll s items = Extracted.gather Visit.yield (visitsAll s items)
  | _, [] => rfl
  | s, item :: rest => by
      rw [extractAll, visitsAll, Extracted.gather_append, extract_eq_gather s item,
        extractAll_eq_gather s rest]

end

/-- A package is extracted item by item. -/
theorem Extracted.ofFiles_eq_gather (d : Declarations) (files : List SourceFile) :
    ofFiles d files = gather Visit.yield (visitsOf d files) := by
  rw [visitsOf, gather_flatMap, ofFiles]
  simp only [extractAll_eq_gather]

/-! ### Descriptors that are made -/

/-- The key of a type that is declared in a module. -/
def Declarations.key (d : Declarations) (declared : List String × String) : TypeKey :=
  ⟨d.typeName declared.1 declared.2, d.package⟩

/-- A descriptor, with the module and the name of the declaration that it is made for. -/
structure Emission where
  home : List String
  name : String
  type : TypeDescriptor

/-- The descriptor that is made for an item, if it declares a type. -/
def Scope.emission? (s : Scope) : Item → Found (Option Emission)
  | .data heading fields => do
    return some ⟨s.path, heading.name, ← s.describeData heading fields⟩
  | .interface heading supertypes functions => do
    return some ⟨s.path, heading.name, ← s.describeInterface heading supertypes functions⟩
  | _ => .ok none

def Visit.emission? (v : Visit) : Found (Option Emission) := v.scope.emission? v.leaf.item

/-- What an item adds to the types of its package, if it is an implementation. -/
def Scope.partOf? (s : Scope) : Item → Found (Option Part)
  | .implementation i => s.part? i
  | _ => .ok none

def Visit.part? (v : Visit) : Found (Option Part) := v.scope.partOf? v.leaf.item

/-- The descriptors that are made for the items of a package, in order. -/
def emissions (d : Declarations) (files : List SourceFile) : Found (List Emission) :=
  ((visitsOf d files).mapM Visit.emission?).map (·.filterMap id)

theorem Scope.key_describeData {s : Scope} {h : Heading} {fields : List (String × TypeExpr)}
    {t : TypeDescriptor} (described : s.describeData h fields = .ok t) :
    t.key = s.declarations.key (s.path, h.name) := by
  obtain ⟨members, _, made⟩ := bind_eq_ok_iff.mp described
  cases made
  rfl

theorem Scope.key_describeInterface {s : Scope} {h : Heading} {supertypes : List TypeExpr}
    {functions : List Function} {t : TypeDescriptor}
    (described : s.describeInterface h supertypes functions = .ok t) :
    t.key = s.declarations.key (s.path, h.name) := by
  obtain ⟨interfaces, _, rest⟩ := bind_eq_ok_iff.mp described
  obtain ⟨members, _, made⟩ := bind_eq_ok_iff.mp rest
  cases made
  rfl

namespace Visit

variable {v : Visit} {vs : List Visit}

theorem yield_eq (v : Visit) : v.yield = do
    let e ← v.emission?
    let p ← v.part?
    return ⟨(e.map (·.type)).toList, p.toList⟩ := by
  rcases v with ⟨s, around, item⟩
  cases item with
  | data heading fields =>
      simp only [yield, emission?, part?, Scope.yield, Scope.emission?, Scope.partOf?]
      cases s.describeData heading fields <;> rfl
  | interface heading supertypes functions =>
      simp only [yield, emission?, part?, Scope.yield, Scope.emission?, Scope.partOf?]
      cases s.describeInterface heading supertypes functions <;> rfl
  | implementation i =>
      simp only [yield, emission?, part?, Scope.yield, Scope.emission?, Scope.partOf?]
      cases s.part? i <;> rfl
  | _ => rfl

/-- A descriptor is made exactly where a type is recorded, and has the key of that type. -/
theorem emission?_spec {e? : Option Emission} (made : v.emission? = .ok e?) :
    e?.map (fun e => (e.home, e.name)) = v.declared? ∧
      ∀ e ∈ e?, e.home = v.scope.path ∧ e.type.key = v.scope.declarations.key (e.home, e.name) := by
  rcases v with ⟨s, around, item⟩
  cases item with
  | data heading fields =>
      obtain ⟨t, described, made⟩ := bind_eq_ok_iff.mp made
      cases made
      refine ⟨rfl, ?_⟩
      rintro _ ⟨⟩
      exact ⟨rfl, Scope.key_describeData described⟩
  | interface heading supertypes functions =>
      obtain ⟨t, described, made⟩ := bind_eq_ok_iff.mp made
      cases made
      refine ⟨rfl, ?_⟩
      rintro _ ⟨⟩
      exact ⟨rfl, Scope.key_describeInterface described⟩
  | _ =>
      cases made
      exact ⟨rfl, fun e member => by cases member⟩

theorem exists_emissions {e : Extracted} (extracted : Extracted.gather yield vs = .ok e) :
    ∃ emitted, vs.mapM emission? = .ok emitted ∧
      e.types = (emitted.filterMap id).map (·.type) := by
  induction vs generalizing e with
  | nil =>
      cases extracted
      exact ⟨[], rfl, rfl⟩
  | cons v rest inductionHypothesis =>
      rw [Extracted.gather_cons, bind_eq_ok_iff] at extracted
      obtain ⟨first, yielded, extracted⟩ := extracted
      obtain ⟨others, gathered, made⟩ := bind_eq_ok_iff.mp extracted
      cases made
      rw [yield_eq, bind_eq_ok_iff] at yielded
      obtain ⟨e?, emits, yielded⟩ := yielded
      obtain ⟨p?, _, made⟩ := bind_eq_ok_iff.mp yielded
      cases made
      obtain ⟨emitted, emitsOthers, types⟩ := inductionHypothesis gathered
      refine ⟨e? :: emitted, by rw [List.mapM_cons, emits, emitsOthers]; rfl, ?_⟩
      cases e? <;> simp [Extracted.append, types]

theorem mem_parts {e : Extracted} {p : Part} (extracted : Extracted.gather yield vs = .ok e)
    (member : v ∈ vs) (adds : v.part? = .ok (some p)) : p ∈ e.parts := by
  obtain ⟨yields, each, rfl⟩ := map_eq_ok_iff.mp extracted
  obtain ⟨own, ownMember, yielded⟩ := exists_right_of_forall₂ (mapM_eq_ok_iff.mp each) member
  rw [yield_eq, bind_eq_ok_iff] at yielded
  obtain ⟨e?, _, made⟩ := yielded
  rw [adds] at made
  cases made
  exact List.mem_flatMap.mpr ⟨_, ownMember, List.mem_cons_self⟩

theorem declared_of_emissions {emitted : List (Option Emission)}
    (emits : vs.mapM emission? = .ok emitted) :
    (emitted.filterMap id).map (fun e => (e.home, e.name)) = vs.filterMap declared? := by
  have each := mapM_eq_ok_iff.mp emits
  clear emits
  induction each with
  | nil => rfl
  | @cons v e? _ _ first _ inductionHypothesis =>
      have own := (emission?_spec first).1
      cases e? with
      | none => simpa [← own] using inductionHypothesis
      | some e => simpa [← own] using inductionHypothesis

end Visit

end Descriptions

/-! ### A walk that gets to its end -/

namespace Scope

variable {s : Scope}

/-- Every path is looked up with an answer. -/
def Answers (s : Scope) : Prop := ∀ segments, ∃ t, s.target segments = .ok t

theorem exists_reference (answers : s.Answers) (segments : List String) (args : List TypeRef) :
    ∃ type, s.reference segments args = .ok type := by
  obtain ⟨t, leads⟩ := answers segments
  exact ⟨_, by rw [reference, locate, leads]; rfl⟩

theorem exists_resolvePath (answers : s.Answers) (b : Binders) (path : Path)
    {args : Found (List TypeRef)} (known : ∃ types, args = .ok types) :
    ∃ type?, s.resolvePath b path args = .ok type? := by
  have refers : ∀ segments, ∃ type?,
      (do return some (← s.reference segments (← args)) : Found (Option TypeRef)) = .ok type? :=
    fun segments => exists_bind_eq_ok known fun types =>
      exists_bind_eq_ok (exists_reference answers segments types) fun _ => ⟨_, rfl⟩
  unfold resolvePath
  split
  next => exact ⟨_, rfl⟩
  next name _ =>
    split
    next => exact ⟨_, rfl⟩
    next =>
      split
      next => exact ⟨_, rfl⟩
      next => exact refers [name]
  next first rest _ _ =>
    split
    next => exact ⟨_, rfl⟩
    next => exact refers (first :: rest)

mutual

theorem exists_resolve (answers : s.Answers) (b : Binders) : (expr : TypeExpr) →
    ∃ type?, s.resolve b expr = .ok type?
  | .path path args => exists_resolvePath answers b path (exists_resolveAll answers b args)
  | .reference target => exists_resolve answers b target
  | .pointer target => exists_resolve answers b target
  | .paren inner => exists_resolve answers b inner
  | .slice item => exists_bind_eq_ok (exists_resolve answers b item) fun _ => ⟨_, rfl⟩
  | .array item => exists_bind_eq_ok (exists_resolve answers b item) fun _ => ⟨_, rfl⟩
  | .tuple items => by
      rw [resolve]
      split
      next => exact ⟨_, rfl⟩
      next => exact exists_bind_eq_ok (exists_resolveAll answers b items) fun _ => ⟨_, rfl⟩
  | .bounded bounds => exists_resolveFirst answers b bounds
  | .unnamed => ⟨_, rfl⟩

theorem exists_resolveAll (answers : s.Answers) (b : Binders) : (exprs : List TypeExpr) →
    ∃ types, s.resolveAll b exprs = .ok types
  | [] => ⟨_, rfl⟩
  | expr :: rest => exists_bind_eq_ok (exists_resolve answers b expr) fun _ =>
      exists_bind_eq_ok (exists_resolveAll answers b rest) fun _ => ⟨_, rfl⟩

theorem exists_resolveFirst (answers : s.Answers) (b : Binders) : (exprs : List TypeExpr) →
    ∃ type?, s.resolveFirst b exprs = .ok type?
  | [] => ⟨_, rfl⟩
  | expr :: rest => exists_bind_eq_ok (exists_resolve answers b expr) fun
      | some _ => ⟨_, rfl⟩
      | none => exists_resolveFirst answers b rest

end

theorem exists_resolveIfAny (answers : s.Answers) (b : Binders) :
    (expr? : Option TypeExpr) → ∃ type?, s.resolveIfAny b expr? = .ok type?
  | none => ⟨_, rfl⟩
  | some expr => exists_resolve answers b expr

variable [SourceNotation]

theorem exists_members (answers : s.Answers) (b : Binders) (functions : List Function) :
    ∃ members, functions.mapM (s.member b) = .ok members :=
  exists_mapM_eq_ok fun f _ =>
    exists_bind_eq_ok (exists_mapM_eq_ok fun type _ => exists_resolve answers _ type) fun _ =>
      exists_bind_eq_ok (exists_resolveIfAny answers _ f.output) fun _ => ⟨_, rfl⟩

theorem exists_part? (answers : s.Answers) (i : Implementation) : ∃ p?, s.part? i = .ok p? := by
  unfold part?
  split
  next => exact ⟨_, rfl⟩
  next =>
    refine exists_bind_eq_ok (exists_resolve answers _ i.target) fun target => ?_
    split
    next =>
      split
      next => exact ⟨_, rfl⟩
      next =>
        exact exists_bind_eq_ok (exists_resolveIfAny answers _ i.interface) fun _ =>
          exists_bind_eq_ok (exists_members answers _ i.functions) fun _ => ⟨_, rfl⟩
    next => exact ⟨_, rfl⟩

/-- In a scope that answers, every item yields something. -/
theorem exists_yield (answers : s.Answers) (item : Item) : ∃ e, s.yield item = .ok e := by
  cases item with
  | data heading fields =>
      refine exists_bind_eq_ok (exists_bind_eq_ok ?_ fun _ => ⟨_, rfl⟩) fun _ => ⟨_, rfl⟩
      exact exists_mapM_eq_ok fun field _ =>
        exists_bind_eq_ok (exists_resolve answers _ field.2) fun _ => ⟨_, rfl⟩
  | interface heading supertypes functions =>
      refine exists_bind_eq_ok ?_ fun _ => ⟨_, rfl⟩
      exact exists_bind_eq_ok (exists_resolveAll answers _ supertypes) fun _ =>
        exists_bind_eq_ok (exists_members answers _ functions) fun _ => ⟨_, rfl⟩
  | implementation i => exact exists_bind_eq_ok (exists_part? answers i) fun _ => ⟨_, rfl⟩
  | _ => exact ⟨_, rfl⟩

end Scope

/-- A package is extracted if each single name of which everything is imported is known. -/
theorem exists_extracted [SourceNotation] {d : Declarations} {files : List SourceFile}
    (known : ∀ v ∈ visitsOf d files, v.scope.KnowsGlobs) :
    ∃ e, Extracted.ofFiles d files = .ok e := by
  obtain ⟨yields, each⟩ : ∃ yields, (visitsOf d files).mapM Visit.yield = .ok yields := by
    apply exists_mapM_eq_ok
    intro v visited
    obtain ⟨_, _, items, imports⟩ := scope_of_mem_visitsOf visited
    exact Scope.exists_yield (Scope.exists_target_of_knowsGlobs imports (known v visited)) _
  rw [Extracted.ofFiles_eq_gather]
  exact ⟨_, map_eq_ok_iff.mpr ⟨yields, each, rfl⟩⟩

/-- The descriptors of a package are made one for one for the types that are recorded. -/
theorem exists_emissions_ofFiles [SourceNotation] {d : Declarations} {files : List SourceFile}
    {e : Extracted} (extracted : Extracted.ofFiles d files = .ok e) (package : String) :
    ∃ emitted, emissions d files = .ok emitted ∧ emitted.map (·.type) = e.types ∧
      emitted.map (fun m => (m.home, m.name)) = (Declarations.ofFiles package files).types ∧
      ∀ m ∈ emitted, m.type.key = d.key (m.home, m.name) ∧
        m.home ∈ (Declarations.ofFiles package files).modules := by
  rw [Extracted.ofFiles_eq_gather] at extracted
  obtain ⟨emitted, emits, types⟩ := Visit.exists_emissions extracted
  refine ⟨emitted.filterMap id, map_eq_ok_iff.mpr ⟨emitted, emits, rfl⟩, types.symm, ?_, ?_⟩
  · rw [Visit.declared_of_emissions emits, types_ofFiles_eq_visits]
  · intro m member
    obtain ⟨m?, listed, rfl⟩ := List.mem_filterMap.mp member
    obtain ⟨v, visited, made⟩ := exists_left_of_forall₂ (mapM_eq_ok_iff.mp emits) listed
    obtain ⟨same, path, _⟩ := scope_of_mem_visitsOf visited
    obtain ⟨home, key⟩ := (Visit.emission?_spec made).2 m rfl
    rw [same] at key
    exact ⟨key, List.mem_cons_of_mem _ (home ▸ path)⟩

open scoped Standard

end Architecture.Source
