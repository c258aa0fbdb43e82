import Architecture.Project
import Architecture.Proofs.Files.Reading
import Architecture.Proofs.RuleFile

/-!
# Loading reads only

What a project is loaded from stays as it is. So the modules of a project depend on the
files alone, and the plan that loading gives holds no rule.
-/

namespace Architecture

open Files

theorem isReadOnly_readText (path : String) :
    IsReadOnly (readText path : Loading (StateM World) String).run := by
  refine (IsReadOnly.run_lift (IsReadOnly.readText path)).run_bind ?_
  rintro (failure | text)
  · exact .run_throw _
  · exact .run_pure _

theorem valueIn_run_readText (w : World) (path : String) :
    valueIn w (readText path : Loading (StateM World) _).run =
      (w.readText path).mapError (.unreadable path) := by
  rw [readText, (IsReadOnly.readText path).valueIn_run_lift_bind, valueIn_readText]
  cases w.readText path with
  | ok text => rfl
  | error failure => rfl

variable [Notations]

theorem isReadOnly_sourceFiles (root : String) (globs : List (String → Bool)) :
    IsReadOnly (sourceFiles root globs : Loading (StateM World) _).run := by
  refine (IsReadOnly.run_lift (IsReadOnly.walk _)).run_bind ?_
  rintro (failure | found)
  · exact .run_throw _
  · exact .run_pure _

theorem isReadOnly_sourceFile? (root : String) (strict : Bool) (file : List String) :
    IsReadOnly (sourceFile? root strict file : Loading (StateM World) _).run := by
  refine (isReadOnly_readText _).run_bind ?_
  intro text
  split
  next => exact .run_pure _
  next =>
    split
    next => exact .run_throw _
    next => exact .run_pure _

def readManifest (root : String) : Loading (StateM World) Source.Manifest := do
  let path := join root "Cargo.toml"
  match Source.Manifest.parse (← readText path) with
  | .error problem => throw (.manifest path problem)
  | .ok manifest => return manifest

/-- The source files of a package that are not left out. -/
def readSources (root : String) (options : SourceOptions) :
    Loading (StateM World) (List Source.SourceFile) := do
  match (alwaysExcluded ++ options.exclude).mapM PathNotations.glob with
  | .error reason => throw (.glob reason)
  | .ok globs =>
    let files ← (← sourceFiles root globs).mapM (sourceFile? root options.strict)
    return files.filterMap id

/-- The module that is made of a package, if its names can be looked up. -/
def makeModule (manifest : Source.Manifest) (files : List Source.SourceFile) :
    Loading (StateM World) ModuleDescriptor :=
  match packageModule manifest files with
  | .error failure => throw (.lookup failure)
  | .ok module => return module

theorem loadPackage_eq (root : String) (options : SourceOptions) :
    loadPackage root options = (do
      let manifest ← readManifest root
      let files ← readSources root options
      makeModule manifest files) := by
  unfold loadPackage readManifest readSources
  simp only [bind_assoc]
  refine bind_congr fun text => ?_
  cases Source.Manifest.parse text with
  | error problem => rfl
  | ok manifest =>
      cases (alwaysExcluded ++ options.exclude).mapM PathNotations.glob with
      | error reason => rfl
      | ok globs =>
          simp only [bind_assoc, pure_bind]
          rfl

theorem isReadOnly_readManifest (root : String) : IsReadOnly (readManifest root).run := by
  refine (isReadOnly_readText _).run_bind ?_
  intro text
  split
  next => exact .run_throw _
  next => exact .run_pure _

theorem isReadOnly_readSources (root : String) (options : SourceOptions) :
    IsReadOnly (readSources root options).run := by
  unfold readSources
  split
  next => exact .run_throw _
  next globs _ =>
    refine (isReadOnly_sourceFiles root globs).run_bind fun found => ?_
    exact (IsReadOnly.run_mapM fun _ _ => isReadOnly_sourceFile? _ _ _).run_bind fun _ =>
      .run_pure _

theorem isReadOnly_makeModule (manifest : Source.Manifest) (files : List Source.SourceFile) :
    IsReadOnly (makeModule manifest files).run := by
  unfold makeModule
  split
  next => exact .run_throw _
  next => exact .run_pure _

theorem valueIn_makeModule (w : World) (manifest : Source.Manifest)
    (files : List Source.SourceFile) :
    valueIn w (makeModule manifest files).run =
      (packageModule manifest files).mapError .lookup := by
  unfold makeModule
  cases packageModule manifest files with
  | error failure => rfl
  | ok module => rfl

theorem isReadOnly_loadPackage (root : String) (options : SourceOptions) :
    IsReadOnly (loadPackage root options : Loading (StateM World) _).run := by
  rw [loadPackage_eq]
  exact (isReadOnly_readManifest root).run_bind fun _ =>
    (isReadOnly_readSources root options).run_bind fun _ => isReadOnly_makeModule _ _

/-- A package is loaded exactly if its manifest and its files can be read and all of its names can
be looked up. -/
theorem loadPackage_eq_ok_iff {w : World} {root : String} {options : SourceOptions}
    {module : ModuleDescriptor} :
    valueIn w (loadPackage root options).run = .ok module ↔
      ∃ manifest files, valueIn w (readManifest root).run = .ok manifest ∧
        valueIn w (readSources root options).run = .ok files ∧
        packageModule manifest files = .ok module := by
  have made : ∀ manifest files, (packageModule manifest files).mapError LoadProblem.lookup =
      .ok module ↔ packageModule manifest files = .ok module := by
    intro manifest files
    cases packageModule manifest files <;> simp [Except.mapError]
  simp only [loadPackage_eq, (isReadOnly_readManifest root).valueIn_run_bind,
    (isReadOnly_readSources root options).valueIn_run_bind, bind_eq_ok_iff, valueIn_makeModule,
    made]
  constructor
  · rintro ⟨manifest, read, files, found, made⟩
    exact ⟨manifest, files, read, found, made⟩
  · rintro ⟨manifest, files, read, found, made⟩
    exact ⟨manifest, read, files, found, made⟩

/-- Files that are found in order are taken in this order. -/
theorem valueIn_sourceFiles_of_sorted {w : World} {root : String} {globs : List (String → Bool)}
    {found wanted : List (List String)} (walked : valueIn w (walk (join root "src")) = .ok found)
    (kept : (found.filter fun file => extension? (ofPieces ("src" :: file)) = some "rs" &&
      !globs.any fun holds => holds (ofPieces ("src" :: file))) = wanted)
    (sorted : wanted.Pairwise fun a b => (compare a b).isLE = true) :
    valueIn w (sourceFiles root globs).run = .ok wanted := by
  rw [sourceFiles, (IsReadOnly.walk _).valueIn_run_lift_bind, walked]
  dsimp only
  rw [kept, List.mergeSort_of_pairwise sorted, valueIn_run_pure]

theorem valueIn_sourceFile?_of_parses {w : World} {root : String} {strict : Bool}
    {file : List String} {text : String} {items : List Source.Item}
    (read : w.readText (join (join root "src") (ofPieces file)) = .ok text)
    (parsed : SourceNotation.items? text = some items) :
    valueIn w (sourceFile? root strict file).run =
      .ok (some { home := Source.modulePath (ofPieces file), items }) := by
  rw [sourceFile?, (isReadOnly_readText _).valueIn_run_bind, valueIn_run_readText, read]
  rw [bind_eq_ok_iff]
  refine ⟨text, rfl, ?_⟩
  rw [parsed]
  rfl

theorem isReadOnly_loadSnapshot (path : String) :
    IsReadOnly (loadSnapshot path : Loading (StateM World) _).run := by
  refine (isReadOnly_readText _).run_bind ?_
  intro text
  split
  next => exact .run_pure _
  next => exact .run_throw _

theorem isReadOnly_loadModules (base : String) (position : Nat) (source : ModuleSource) :
    IsReadOnly (loadModules base position source : Loading (StateM World) _).run := by
  unfold loadModules
  split
  next => exact (isReadOnly_loadPackage _ _).run_bind fun _ => .run_pure _
  next => exact isReadOnly_loadSnapshot _
  next => exact .run_throw _

/-- The steps that register the modules of one source. -/
def moduleSteps (base : String) (source : ModuleSource × Nat) :
    Loading (StateM World) (List Registration) := do
  let modules ← loadModules base source.2 source.1
  return modules.map (if source.1.referenceOnly then .referenceModule else .module)

theorem loadPlan_eq (config : Config) (base : String) :
    loadPlan config base = (do
      let steps ← config.modules.zipIdx.mapM (moduleSteps base)
      return ({ options := config.analysis } : Plan).registerAll steps.flatten) := rfl

theorem isReadOnly_moduleSteps (base : String) (source : ModuleSource × Nat) :
    IsReadOnly (moduleSteps base source).run :=
  (isReadOnly_loadModules _ _ _).run_bind fun _ => .run_pure _

theorem isReadOnly_loadPlan (config : Config) (base : String) :
    IsReadOnly (loadPlan config base : Loading (StateM World) _).run := by
  rw [loadPlan_eq]
  exact (IsReadOnly.run_mapM fun _ _ => isReadOnly_moduleSteps _ _).run_bind fun _ => .run_pure _

theorem Project.isReadOnly_plan (p : Project) :
    IsReadOnly (p.plan : ExceptT Project.Problem (StateM World) _).run := by
  refine (IsReadOnly.run_lift (isReadOnly_loadPlan _ _)).run_bind ?_
  rintro (problem | plan)
  · exact .run_throw _
  · dsimp only
    split
    next => exact .run_throw _
    next => exact .run_pure _

theorem Project.isReadOnly_analyzer (p : Project) :
    IsReadOnly (p.analyzer : ExceptT Project.Problem (StateM World) _).run := by
  refine p.isReadOnly_plan.run_bind ?_
  intro plan
  split
  next => exact .run_throw _
  next => exact .run_pure _

theorem not_isRule_of_moduleSteps {w : World} {base : String} {source : ModuleSource × Nat}
    {steps : List Registration} (loaded : valueIn w (moduleSteps base source).run = .ok steps) :
    ∀ step ∈ steps, step.isRule = false := by
  rw [moduleSteps, (isReadOnly_loadModules _ _ _).valueIn_run_bind, bind_eq_ok_iff] at loaded
  obtain ⟨modules, _, made⟩ := loaded
  cases made
  intro step member
  obtain ⟨module, _, rfl⟩ := List.mem_map.mp member
  cases source.1.referenceOnly <;> rfl

/-- Loading registers modules only. -/
theorem settings_of_loadPlan {w : World} {config : Config} {base : String} {plan : Plan}
    (loaded : valueIn w (loadPlan config base).run = .ok plan) : plan.settings = plan := by
  have each := fun source (_ : source ∈ config.modules.zipIdx) => isReadOnly_moduleSteps base source
  rw [loadPlan_eq, (IsReadOnly.run_mapM each).valueIn_run_bind, valueIn_run_mapM each,
    bind_eq_ok_iff] at loaded
  obtain ⟨steps, found, made⟩ := loaded
  cases made
  have modulesOnly : ∀ step ∈ steps.flatten, step.isRule = false := by
    intro step member
    obtain ⟨ofSource, stepsMember, member⟩ := List.mem_flatten.mp member
    obtain ⟨_, _, ofModules⟩ := exists_left_of_forall₂ (mapM_eq_ok_iff.mp found) stepsMember
    exact not_isRule_of_moduleSteps ofModules step member
  rw [Plan.settings_registerAll, List.filter_eq_self.mpr (by simpa using modulesOnly)]
  rfl

/-- An analyzer comes from a plan without rules and from the rules in the text. -/
theorem Project.exists_of_analyzer {w : World} {p : Project} {a : Analyzer}
    (prepared : valueIn w p.analyzer.run = .ok a) :
    ∃ (bare : Plan) (rules : RuleFile.Rules), bare.settings = bare ∧
      RuleFile.load p.text = .ok rules ∧ (bare.registerAll rules.registrations).build = .ok a := by
  rw [analyzer, p.isReadOnly_plan.valueIn_run_bind, bind_eq_ok_iff] at prepared
  obtain ⟨full, planned, built⟩ := prepared
  rw [plan, (isReadOnly_loadPlan _ _).valueIn_run_lift_bind] at planned
  split at planned
  next => cases planned
  next bare loaded =>
    split at planned
    next => cases planned
    next rules ruled =>
      cases planned
      split at built
      next => cases built
      next b made =>
        cases built
        exact ⟨bare, rules, settings_of_loadPlan loaded, ruled, made⟩

end Architecture
