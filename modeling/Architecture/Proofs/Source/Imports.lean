import Architecture.Source.Scope
import Mathlib.Data.List.Induction
import Mathlib.Logic.Function.Basic

/-!
# What imports bind

A declaration of imports is a tree, and each of its leaves is an import of one thing: a path
and what is asked for behind it. Names are bound by the imports one after another, and a
later binding takes the place of an earlier one. The tree is walked with the path so far in
hand, which comes to the same, except that a path imported under a new name is followed by
the word for itself.
-/

namespace Architecture.Source

/-- What is asked for behind a path. -/
inductive Ending where
  | name (name : String)
  | renamed (name newName : String)
  /-- The path itself. -/
  | self
  | selfRenamed (newName : String)
  | everything
deriving DecidableEq

/-- An import of one thing. -/
structure Import where
  path : List String
  ending : Ending
deriving DecidableEq

namespace Import

/-- The import behind a longer path. -/
def under (path : List String) (i : Import) : Import := { i with path := path ++ i.path }

theorem under_under (outer inner : List String) (i : Import) :
    (i.under inner).under outer = i.under (outer ++ inner) := by
  simp [under]

/-- The name that an import binds, and what to. -/
def binding? (i : Import) : Option (String × List String) :=
  match i.ending with
  | .name name => some (name, i.path ++ [name])
  | .renamed name newName => some (newName, i.path ++ [name])
  | .self => i.path.getLast?.map (·, i.path)
  | .selfRenamed newName => some (newName, i.path)
  | .everything => none

/-- The binding with the word that stands for a path kept at the end of a renamed one. -/
def literalBinding? (i : Import) : Option (String × List String) :=
  match i.ending with
  | .selfRenamed newName => some (newName, i.path ++ ["self"])
  | _ => i.binding?

/-- The module of which everything is imported. -/
def glob? (i : Import) : Option (List String) :=
  match i.ending with
  | .everything => some i.path
  | _ => none

/-- Whether the import binds a name. -/
def binds (name : String) (i : Import) : Bool := i.binding?.any (·.1 = name)

end Import

namespace UseTree

mutual

/-- The leaves of a tree, from left to right. -/
def imports : UseTree → List Import
  | .into word rest => rest.imports.map (.under [word])
  | .name word => [⟨[], if word = "self" then .self else .name word⟩]
  | .renamed word newName =>
    [⟨[], if word = "self" then .selfRenamed newName else .renamed word newName⟩]
  | .everything => [⟨[], .everything⟩]
  | .group trees => importsAll trees

def importsAll : List UseTree → List Import
  | [] => []
  | tree :: rest => tree.imports ++ importsAll rest

end

end UseTree

def Item.imports : Item → List Import
  | .use tree => tree.imports
  | _ => []

/-- Names with the paths they are bound to, and the modules of which everything is imported. -/
@[ext] structure Bindings where
  target : String → Option (List String) := fun _ => none
  globs : List (List String) := []

namespace Bindings

def bind (b : Bindings) (name : String) (path : List String) : Bindings :=
  { b with target := Function.update b.target name (some path) }

/-- One more import, of which the binding is read as told. -/
def take (reading : Import → Option (String × List String)) (b : Bindings) (i : Import) :
    Bindings :=
  let bound := (reading i).elim b fun (name, path) => b.bind name path
  { bound with globs := b.globs ++ i.glob?.toList }

end Bindings

def Imports.bindings (i : Imports) : Bindings := ⟨i.target?, i.globs⟩

namespace Imports

theorem bindings_bind (i : Imports) (name : String) (path : List String) :
    (i.bind name path).bindings = i.bindings.bind name path := by
  ext1
  · funext other
    by_cases same : name = other
    · subst same
      simp [bindings, bind, target?, Bindings.bind]
    · simp [bindings, bind, target?, Bindings.bind, same, Ne.symm same]
  · rfl

mutual

/-- A tree behind a path brings into scope what its leaves do, each behind the path. -/
theorem bindings_add (path : List String) : (tree : UseTree) → (i : Imports) →
    (i.add path tree).bindings =
      (tree.imports.map (.under path)).foldl (.take Import.literalBinding?) i.bindings
  | .into name rest, i => by
      rw [add, bindings_add (path ++ [name]) rest i, UseTree.imports, List.map_map]
      simp only [Function.comp_def, Import.under_under]
  | .name name, i => by
      by_cases isSelf : name = "self"
      · cases last : path.getLast? with
        | none =>
          simp [add, UseTree.imports, isSelf, last, Import.under, Bindings.take,
            Import.literalBinding?, Import.binding?, Import.glob?]
        | some name =>
          simp [add, UseTree.imports, isSelf, last, Import.under, Bindings.take,
            Import.literalBinding?, Import.binding?, Import.glob?, bindings_bind, Bindings.bind]
      · simp [add, UseTree.imports, isSelf, Import.under, Bindings.take,
          Import.literalBinding?, Import.binding?, Import.glob?, bindings_bind, Bindings.bind]
  | .renamed name newName, i => by
      by_cases isSelf : name = "self" <;>
        simp [add, UseTree.imports, isSelf, Import.under, Bindings.take,
          Import.literalBinding?, Import.binding?, Import.glob?, bindings_bind, Bindings.bind]
  | .everything, i => by
      simp [add, UseTree.imports, Import.under, Bindings.take, Import.literalBinding?,
        Import.binding?, Import.glob?, bindings]
      rfl
  | .group trees, i => by
      rw [add, UseTree.imports, bindings_addAll path trees i]

theorem bindings_addAll (path : List String) : (trees : List UseTree) → (i : Imports) →
    (i.addAll path trees).bindings =
      ((UseTree.importsAll trees).map (.under path)).foldl (.take Import.literalBinding?)
        i.bindings
  | [], _ => rfl
  | tree :: rest, i => by
      rw [addAll, bindings_addAll path rest, bindings_add path tree, UseTree.importsAll,
        List.map_append, List.foldl_append]

end

/-- The imports of a module, leaf by leaf. -/
theorem bindings_ofItems (items : List Item) :
    (ofItems items).bindings =
      (items.flatMap (·.imports)).foldl (.take Import.literalBinding?) {} := by
  suffices ∀ i : Imports, (items.foldl (fun i item =>
      match item with
      | .use tree => i.add [] tree
      | _ => i) i).bindings =
        (items.flatMap (·.imports)).foldl (.take Import.literalBinding?) i.bindings from this {}
  induction items with
  | nil => exact fun _ => rfl
  | cons item rest inductionHypothesis =>
      intro i
      rw [List.foldl_cons, inductionHypothesis, List.flatMap_cons, List.foldl_append]
      cases item with
      | use tree =>
          have unmoved : tree.imports.map (.under []) = tree.imports := List.map_id _
          rw [bindings_add, unmoved, Item.imports]
      | _ => rfl

end Imports

/-! ### The last import of a name -/

/-- The last of several imports that binds a name. -/
def lastImport? (imports : List Import) (name : String) : Option Import :=
  imports.reverse.find? (·.binds name)

namespace Bindings

variable (reading : Import → Option (String × List String)) {name : String}

theorem globs_foldl (imports : List Import) :
    (imports.foldl (take reading) {}).globs = imports.filterMap (·.glob?) := by
  induction imports using List.reverseRecOn with
  | nil => rfl
  | append_singleton earlier i inductionHypothesis =>
      rw [List.foldl_append, List.foldl_cons, List.foldl_nil, List.filterMap_append,
        ← inductionHypothesis]
      cases found : i.glob? <;> simp [take, found]

variable {reading} in
/-- A name is bound by the last import that binds it, if the reading changes no names. -/
theorem target_foldl (sameNames : ∀ i, (reading i).map (·.1) = i.binding?.map (·.1))
    (imports : List Import) :
    (imports.foldl (take reading) {}).target name =
      (lastImport? imports name).bind fun i => (reading i).map (·.2) := by
  induction imports using List.reverseRecOn with
  | nil => rfl
  | append_singleton earlier i inductionHypothesis =>
      have names := sameNames i
      rw [List.foldl_append, List.foldl_cons, List.foldl_nil, lastImport?, List.reverse_concat,
        List.find?_cons, ← lastImport?]
      cases bound : reading i with
      | none =>
          rw [bound, Option.map_none, eq_comm, Option.map_eq_none_iff] at names
          simp [take, bound, Import.binds, names, inductionHypothesis]
      | some binding =>
          rw [bound, Option.map_some, eq_comm, Option.map_eq_some_iff] at names
          obtain ⟨own, isOwn, sameName⟩ := names
          by_cases same : binding.1 = name
          · simp [take, bound, bind, Import.binds, isOwn, sameName, same]
          · simp [take, bound, bind, Import.binds, isOwn, sameName, same, Ne.symm same,
              inductionHypothesis]

end Bindings

namespace Import

theorem map_fst_literalBinding? (i : Import) :
    i.literalBinding?.map (·.1) = i.binding?.map (·.1) := by
  rcases i with ⟨path, ending⟩
  cases ending <;> rfl

/-- The two readings differ for a path under a new name, and for nothing else. -/
theorem literalBinding?_agrees_iff {i : Import} {name : String} (binds : i.binds name = true) :
    i.literalBinding?.map (·.2) = i.binding?.map (·.2) ↔ ∀ path, i ≠ ⟨path, .selfRenamed name⟩ := by
  rcases i with ⟨path, ending⟩
  cases ending with
  | selfRenamed newName =>
      have same : newName = name := by simpa [Import.binds, binding?] using binds
      simp [literalBinding?, binding?, same]
  | name | renamed | self | everything => simp [literalBinding?]

end Import

namespace Imports

variable {items : List Item} {name : String}

theorem target?_ofItems :
    (ofItems items).target? name =
      (lastImport? (items.flatMap (·.imports)) name).bind fun i =>
        i.literalBinding?.map (·.2) := by
  rw [← Bindings.target_foldl Import.map_fst_literalBinding?, ← bindings_ofItems]
  rfl

theorem globs_ofItems :
    (ofItems items).globs = (items.flatMap (·.imports)).filterMap (·.glob?) := by
  rw [← Bindings.globs_foldl Import.literalBinding?, ← bindings_ofItems]
  rfl

/-- Everything is imported of the modules of which the leaves import everything. A name is
bound as by its last leaf, unless that is a path under a new name, which is bound with the
word for itself at its end. So the imports are what the leaves bind from left to right
exactly if no name has a leaf of this kind as its last. -/
theorem bindings_agrees_iff (items : List Item) :
    let imports := items.flatMap (·.imports)
    let expected : Bindings := imports.foldl (.take Import.binding?) {}
    (ofItems items).globs = expected.globs ∧
      (∀ name, (ofItems items).target? name = expected.target name ↔
        ∀ path, lastImport? imports name ≠ some ⟨path, .selfRenamed name⟩) ∧
      (∀ name path, lastImport? imports name = some ⟨path, .selfRenamed name⟩ →
        (ofItems items).target? name = some (path ++ ["self"]) ∧
          expected.target name = some path) ∧
      ((ofItems items).bindings = expected ↔
        ∀ name path, lastImport? imports name ≠ some ⟨path, .selfRenamed name⟩) := by
  intro imports expected
  have globs : (ofItems items).globs = expected.globs := by
    rw [globs_ofItems, Bindings.globs_foldl]
  have targets : ∀ name, expected.target name =
      (lastImport? imports name).bind fun i => i.binding?.map (·.2) :=
    fun name => Bindings.target_foldl (fun _ => rfl) imports
  have agrees : ∀ name, (ofItems items).target? name = expected.target name ↔
      ∀ path, lastImport? imports name ≠ some ⟨path, .selfRenamed name⟩ := by
    intro name
    rw [target?_ofItems, targets]
    cases last : lastImport? imports name with
    | none => simp
    | some i =>
        have binds : i.binds name = true := List.find?_some last
        simpa using Import.literalBinding?_agrees_iff binds
  refine ⟨globs, agrees, ?_, ?_⟩
  · intro name path last
    rw [target?_ofItems, targets, last]
    exact ⟨rfl, rfl⟩
  · rw [Bindings.ext_iff, funext_iff]
    simp only [← agrees]
    exact and_iff_left globs

/-- A module of the standard library under a new name. -/
def formatItems : List Item :=
  [.use (.into "std" (.into "fmt" (.group [.renamed "self" "text", .name "Write"])))]

/-- The new name does not stand for the module, so that what is found behind it is no part of
the module. -/
theorem target?_selfRenamed :
    let scope : Scope := ⟨{ package := "app" }, [], ofItems formatItems⟩
    let expected : Bindings := (formatItems.flatMap (·.imports)).foldl (.take Import.binding?) {}
    expected.target "text" = some ["std", "fmt"] ∧
      (ofItems formatItems).target? "text" = some ["std", "fmt", "self"] ∧
      scope.reference ["text", "Debug"] [] =
        .ok (.named ⟨some "std.fmt.self", "Debug"⟩ "std" []) := by
  decide +kernel

end Imports

end Architecture.Source
