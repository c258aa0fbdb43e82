import Architecture.Loading
import Architecture.Proofs.Index
import Architecture.Proofs.Source.Attachment
import Architecture.Proofs.Source.Visits
import Architecture.Standard

/-!
# Functions that lookup finds

A package may declare a type several times, for one target each. Implementations are attached
to the last declaration, and an index answers with the first. So lookup finds the functions of
implementations if the type is declared once, and else only what the first declaration says
itself.
-/

namespace Architecture.Source

theorem find?_mapIdx_of_split {g : Nat → TypeDescriptor → TypeDescriptor} {name : TypeName}
    (same : ∀ i t, (g i t).name = t.name) (before after : List TypeDescriptor) {t : TypeDescriptor}
    (named : t.name = name) (absent : name ∉ before.map (·.name)) :
    ((before ++ t :: after).mapIdx g).find? (·.name = name) = some (g before.length t) := by
  rw [List.find?_eq_some_iff_append]
  refine ⟨by simp [same, named], before.mapIdx g,
    after.mapIdx fun i => g (i + 1 + before.length), ?_, ?_⟩
  · simp [List.mapIdx_append, List.mapIdx_cons]
  · intro u member
    obtain ⟨i, inside, rfl⟩ := List.mem_mapIdx.mp member
    have other : before[i].name ≠ name := fun equal =>
      absent (List.mem_map.mpr ⟨_, List.getElem_mem inside, equal⟩)
    simp [same, other]

namespace Extracted

variable {e : Extracted} {name : TypeName} {before after : List TypeDescriptor}
  {t : TypeDescriptor}

/-- The type that is declared first gets the parts for its name if it is also declared last. -/
theorem partsAt_of_split (split : e.types = before ++ t :: after) (named : t.name = name)
    (absent : name ∉ before.map (·.name)) :
    e.partsAt before.length =
      if e.names.count name = 1 then e.parts.filter (·.target = name) else [] := by
  have names : e.names = before.map (·.name) ++ name :: after.map (·.name) := by
    rw [Extracted.names, split, List.map_append, List.map_cons, named]
  have count : e.names.count name = 1 ↔ name ∉ after.map (·.name) := by
    rw [names, List.count_append, List.count_eq_zero.mpr absent, List.count_cons_self]
    rw [← List.count_eq_zero]
    omega
  have place : ∀ other, e.place? other = some before.length ↔
      other = name ∧ e.names.count name = 1 := by
    intro other
    rw [place?, lastPosition?_eq_some_iff, count, names]
    simp only [List.getElem?_append_right, List.length_map, Nat.le_refl, Nat.sub_self,
      List.getElem?_cons_zero, Option.some.injEq, List.drop_append, Nat.le_succ,
      List.drop_of_length_le, List.nil_append, Nat.add_sub_cancel_left, List.drop_succ_cons,
      List.drop_zero]
    constructor
    · rintro ⟨rfl, last⟩
      exact ⟨rfl, last⟩
    · rintro ⟨rfl, last⟩
      exact ⟨rfl, last⟩
  rw [partsAt]
  simp only [place]
  split
  next once => simp [once]
  next often => simp [often]

theorem find?_finished (split : e.types = before ++ t :: after) (named : t.name = name)
    (absent : name ∉ before.map (·.name)) :
    ∃ found, e.finished.find? (·.name = name) = some found ∧
      found.members = t.members ++
        if e.names.count name = 1 then (e.parts.filter (·.target = name)).flatMap (·.members)
        else [] := by
  have found := find?_mapIdx_of_split
    (g := fun i t => (e.partsAt i).foldl (fun t p => p.onto t) t)
    (fun i t => by rw [Part.foldl_onto]) before after named absent
  rw [← split, ← finished_eq_foldl] at found
  refine ⟨_, found, ?_⟩
  rw [Part.foldl_onto, partsAt_of_split split named absent]
  split
  next => rfl
  next => rfl

end Extracted

theorem Scope.name_member [SourceNotation] {s : Scope} {b : Binders} {f : Function} {m : Member}
    (made : s.member b f = .ok m) : m.name = f.name := by
  obtain ⟨parameters, _, rest⟩ := bind_eq_ok_iff.mp made
  obtain ⟨result, _, made⟩ := bind_eq_ok_iff.mp rest
  cases made
  dsimp only [Function.member]
  split
  next => rfl
  next => rfl

theorem Scope.names_of_mapM_member [SourceNotation] {s : Scope} {b : Binders}
    {functions : List Function}
    {members : List Member} (made : functions.mapM (s.member b) = .ok members) :
    members.map (·.name) = functions.map (·.name) := by
  have each := mapM_eq_ok_iff.mp made
  clear made
  induction each with
  | nil => rfl
  | cons first _ inductionHypothesis =>
      rw [List.map_cons, List.map_cons, name_member first, inductionHypothesis]

/-- An implementation has one member for each of its functions, in order. -/
theorem Scope.names_of_part? [SourceNotation] {s : Scope} {i : Implementation} {p : Part}
    (made : s.part? i = .ok (some p)) : p.members.map (·.name) = i.functions.map (·.name) := by
  unfold part? at made
  split at made
  next => cases made
  next =>
    obtain ⟨target, _, made⟩ := bind_eq_ok_iff.mp made
    split at made
    next =>
      split at made
      next => cases made
      next =>
        obtain ⟨interface, _, made⟩ := bind_eq_ok_iff.mp made
        obtain ⟨members, listed, made⟩ := bind_eq_ok_iff.mp made
        cases made
        rw [← Scope.names_of_mapM_member listed]
        dsimp only
        split
        next => rw [List.map_map]; rfl
        next => rfl
    next => cases made

/-- A package has one module, and a name stands there for the first type that has it. -/
theorem find?_ofModules_single (module : ModuleDescriptor) (name : TypeName) :
    (TypeIndex.ofModules [module]).find? name =
      (module.types.find? (·.name = name)).map (·.fillOwner module.name) := by
  rw [TypeIndex.find?_ofModules, TypeIndex.types, TypeIndex.modules_ofModules]
  simp only [List.map_cons, List.map_nil, List.flatMap_cons, List.flatMap_nil, List.append_nil,
    ModuleDescriptor.normalized, List.find?_map]
  rfl

theorem types_of_packageModule [SourceNotation] {manifest : Manifest} {files : List SourceFile}
    {module : ModuleDescriptor} (loaded : packageModule manifest files = .ok module) :
    ∃ e, Extracted.ofFiles (.ofFiles module.name files) files = .ok e ∧
      module.types = e.finished := by
  obtain ⟨types, extracted, made⟩ := bind_eq_ok_iff.mp loaded
  cases made
  obtain ⟨e, declared, made⟩ := bind_eq_ok_iff.mp extracted
  cases made
  exact ⟨e, declared, rfl⟩

/-- Lookup finds what the first declaration of a name says itself, and with it all that is
implemented for the name if there is no further declaration. -/
theorem members_of_find? {module : ModuleDescriptor} {e : Extracted}
    (types : module.types = e.finished) {name : TypeName} (declared : name ∈ e.names) :
    ∃ first found,
      e.types.find? (·.name = name) = some first ∧
        (TypeIndex.ofModules [module]).find? name = some found ∧
        found.members =
          (first.members ++
            if e.names.count name = 1 then (e.parts.filter (·.target = name)).flatMap (·.members)
            else []).map (·.fillOwner module.name) := by
  obtain ⟨first, firstFound⟩ : ∃ first, e.types.find? (·.name = name) = some first := by
    obtain ⟨t, member, named⟩ := List.mem_map.mp declared
    exact Option.isSome_iff_exists.mp (List.find?_isSome.mpr ⟨t, member, by simp [named]⟩)
  obtain ⟨named, before, after, split, earlier⟩ := List.find?_eq_some_iff_append.mp firstFound
  have absent : name ∉ before.map (·.name) := by
    intro member
    obtain ⟨u, within, same⟩ := List.mem_map.mp member
    simpa [same] using earlier u within
  obtain ⟨finished, found, members⟩ :=
    Extracted.find?_finished split (of_decide_eq_true named) absent
  refine ⟨first, finished.fillOwner module.name, firstFound, ?_, congrArg (List.map _) members⟩
  rw [find?_ofModules_single, types, found, Option.map_some]

/-- Lookup finds the functions of an implementation exactly if the type is declared once, or its
first declaration has equal members of its own. -/
theorem find?_sees_functions_iff [SourceNotation] (manifest : Manifest) (files : List SourceFile)
    {module : ModuleDescriptor} (loaded : packageModule manifest files = .ok module) :
    let d := Declarations.ofFiles module.name files
    ∃ e, Extracted.ofFiles d files = .ok e ∧
      ∀ v ∈ visitsOf d files, ∀ i p, v.leaf.item = .implementation i →
        v.scope.part? i = .ok (some p) → p.target ∈ e.names → ∃ first found,
          e.types.find? (·.name = p.target) = some first ∧
            (TypeIndex.ofModules [module]).find? p.target = some found ∧
            p.members.map (·.name) = i.functions.map (·.name) ∧
            ∀ m ∈ p.members, m.fillOwner module.name ∈ found.members ↔
              e.names.count p.target = 1 ∨
                m.fillOwner module.name ∈ first.members.map (·.fillOwner module.name) := by
  intro d
  obtain ⟨e, extracted, types⟩ := types_of_packageModule loaded
  refine ⟨e, extracted, ?_⟩
  intro v visited i p implementation made declared
  have adds : v.part? = .ok (some p) := by
    rw [Visit.part?, implementation]
    exact made
  have attached : p ∈ e.parts := by
    rw [Extracted.ofFiles_eq_gather] at extracted
    exact Visit.mem_parts extracted visited adds
  obtain ⟨first, found, firstFound, lookedUp, members⟩ := members_of_find? types declared
  refine ⟨first, found, firstFound, lookedUp, Scope.names_of_part? made, ?_⟩
  intro m member
  rw [members, List.map_append, List.mem_append]
  by_cases once : e.names.count p.target = 1
  · have own : m ∈ (e.parts.filter (·.target = p.target)).flatMap (·.members) :=
      List.mem_flatMap.mpr ⟨p, List.mem_filter.mpr ⟨attached, by simp⟩, member⟩
    rw [if_pos once]
    exact ⟨fun _ => .inl once, fun _ => .inr (List.mem_map_of_mem own)⟩
  · rw [if_neg once]
    simp only [once, false_or, List.map_nil, List.not_mem_nil, or_false]

def onTarget (target : String) : Attribute where
  path := { names := ["cfg"] }
  input := .list [.word target]

def implementing (name : String) (function : Function) : Implementation where
  target := .path { names := [name] } []
  functions := [function]

/-- A type that is declared for two targets, and one that is declared once. -/
def netItems : List Item := [
  .data { attributes := [onTarget "unix"], name := "Net" } [],
  .data { attributes := [onTarget "windows"], name := "Net" } [],
  .data { name := "Tuna" } [("weight", .path { names := ["u32"] } [])],
  .implementation (implementing "Net" { name := "haul", hasReceiver := true }),
  .implementation (implementing "Tuna" { name := "eat", hasReceiver := true })]

def netFiles : List SourceFile := [{ home := [], items := netItems }]

def netScope : Scope where
  declarations := .ofFiles "app" netFiles
  path := []
  imports := .ofItems netItems

open scoped Standard

/-- What the implementation for a type comes to. -/
def netPart? (name function : String) : Found (Option Part) :=
  netScope.part? (implementing name { name := function, hasReceiver := true })

theorem netPart?_outline :
    (netPart? "Tuna" "eat").map (Option.map fun p => (p.target, p.members)) =
        .ok (some (⟨some "app", "Tuna"⟩, [.method "eat" [] none])) ∧
      (netPart? "Net" "haul").map (Option.map fun p => (p.target, p.members)) =
        .ok (some (⟨some "app", "Net"⟩, [.method "haul" [] none])) := by
  decide +kernel

theorem netFiles_outline :
    (packageModule { name := "app" } netFiles).map (·.name) = .ok "app" ∧
      (Extracted.ofFiles netScope.declarations netFiles).map
          (fun e => (e.names, (e.types.find? (·.name = ⟨some "app", "Net"⟩)).map (·.members))) =
        .ok ([⟨some "app", "Net"⟩, ⟨some "app", "Net"⟩, ⟨some "app", "Tuna"⟩], some []) := by
  decide +kernel

theorem exists_netPart {name function : String} {outline : TypeName × List Member}
    (known : (netPart? name function).map (Option.map fun p => (p.target, p.members)) =
      .ok (some outline)) :
    ∃ p, netPart? name function = .ok (some p) ∧ p.target = outline.1 ∧
      p.members = outline.2 := by
  obtain ⟨p?, made, content⟩ := map_eq_ok_iff.mp known
  obtain ⟨p, rfl, rfl⟩ := Option.map_eq_some_iff.mp content
  exact ⟨p, made, rfl, rfl⟩

theorem find?_sees_functions_iff_tuna :
    ∃ module, packageModule { name := "app" } netFiles = .ok module ∧
      ∃ v ∈ visitsOf netScope.declarations netFiles, ∃ i p found,
        v.leaf.item = .implementation i ∧ v.scope.part? i = .ok (some p) ∧
          p.target = ⟨some "app", "Tuna"⟩ ∧
          (TypeIndex.ofModules [module]).find? p.target = some found ∧
          .method "eat" [] none ∈ found.members := by
  obtain ⟨module, loaded, name⟩ := map_eq_ok_iff.mp netFiles_outline.1
  obtain ⟨e, extracted, outline⟩ := map_eq_ok_iff.mp netFiles_outline.2
  obtain ⟨p, made, target, members⟩ := exists_netPart netPart?_outline.1
  let v : Visit := ⟨netScope,
    { item := .implementation (implementing "Tuna" { name := "eat", hasReceiver := true }) }⟩
  have visited : v ∈ visitsOf netScope.declarations netFiles :=
    List.mem_of_getElem? (i := 4) rfl
  have names : e.names = [⟨some "app", "Net"⟩, ⟨some "app", "Net"⟩, ⟨some "app", "Tuna"⟩] :=
    congrArg Prod.fst outline
  have sees := find?_sees_functions_iff { name := "app" } netFiles loaded
  rw [name] at sees
  obtain ⟨_, same, sees⟩ := sees
  cases same.symm.trans extracted
  have declared : p.target ∈ e.names := by
    rw [names, target]
    decide
  obtain ⟨_, found, _, lookedUp, _, sees⟩ := sees v visited _ p rfl made declared
  refine ⟨module, loaded, v, visited, _, p, found, rfl, made, target, lookedUp, ?_⟩
  refine (sees (.method "eat" [] none) (by simp [members])).mpr (.inl ?_)
  rw [names, target]
  decide

/-- Of two declarations of a type, lookup finds the one without the function. -/
theorem find?_misses_function :
    ∃ module e, packageModule { name := "app" } netFiles = .ok module ∧
      Extracted.ofFiles netScope.declarations netFiles = .ok e ∧
      ∃ v ∈ visitsOf netScope.declarations netFiles, ∃ i p found,
        v.leaf.item = .implementation i ∧ v.scope.part? i = .ok (some p) ∧
          p.target ∈ e.names ∧
          (TypeIndex.ofModules [module]).find? p.target = some found ∧
          ∃ m ∈ p.members, m.fillOwner module.name ∉ found.members := by
  obtain ⟨module, loaded, name⟩ := map_eq_ok_iff.mp netFiles_outline.1
  obtain ⟨e, extracted, outline⟩ := map_eq_ok_iff.mp netFiles_outline.2
  obtain ⟨p, made, target, members⟩ := exists_netPart netPart?_outline.2
  obtain ⟨names, empty⟩ := Prod.mk.inj outline
  let v : Visit := ⟨netScope,
    { item := .implementation (implementing "Net" { name := "haul", hasReceiver := true }) }⟩
  have visited : v ∈ visitsOf netScope.declarations netFiles :=
    List.mem_of_getElem? (i := 3) rfl
  have declared : p.target ∈ e.names := by
    rw [names, target]
    decide
  obtain ⟨_, same, types⟩ := types_of_packageModule loaded
  rw [name] at same
  cases same.symm.trans extracted
  obtain ⟨first, found, firstFound, lookedUp, shown⟩ := members_of_find? types declared
  refine ⟨module, e, loaded, extracted, v, visited, _, p, found, rfl, made, declared, lookedUp,
    .method "haul" [] none, by simp [members], ?_⟩
  have often : e.names.count p.target ≠ 1 := by
    rw [names, target]
    decide
  rw [target] at firstFound
  rw [firstFound, Option.map_some, Option.some.injEq] at empty
  rw [shown, if_neg often, empty]
  exact List.not_mem_nil

end Architecture.Source
