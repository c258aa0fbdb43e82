import Architecture.Proofs.Loading
import Architecture.Proofs.Source.Extraction
import Architecture.Standard

/-!
# Test code in a package

A module belongs to the tests if its declaration says so, and with it all that is declared
inside. For a module whose items stand at its declaration, extraction leaves these out. The
items of a module with a file of its own are extracted with that file, and nobody looks at
how the module is declared. So exactly the files of test modules let test code in.
-/

namespace Architecture.Source

mutual

/-- The items of a module at any depth of inline modules. -/
def leaves : Item → List Leaf
  | .inlineModule attributes name items => (leavesAll items).map (·.inside ⟨attributes, name⟩)
  | item => [{ item }]

def leavesAll : List Item → List Leaf
  | [] => []
  | item :: rest => leaves item ++ leavesAll rest

end

/-- Where a type is declared: the module of a file, and the inline modules in that file. -/
structure Origin where
  home : List String
  around : List ModuleHeading
  name : String

namespace Origin

def modulePath (o : Origin) : List String := o.home ++ o.around.map (·.name)

/-- Whether no inline module around the declaration belongs to the tests. -/
def isKept (o : Origin) : Bool := o.around.all (!isTestOnly ·.attributes)

end Origin

def Leaf.origin? (home : List String) (l : Leaf) : Option Origin :=
  l.item.typeName?.map fun name => { home, around := l.around, name }

/-- All types that files declare, in test code or not. -/
def origins (files : List SourceFile) : List Origin :=
  files.flatMap fun f => (leavesAll f.items).filterMap (·.origin? f.home)

/-- The module and the name under which the type is collected, if it is. -/
def Origin.collected? (o : Origin) : Option (List String × String) :=
  if o.isKept then some (o.modulePath, o.name) else none

def Leaf.collected? (home : List String) (l : Leaf) : Option (List String × String) :=
  (l.origin? home).bind (·.collected?)

theorem Leaf.collected?_inside (home : List String) (m : ModuleHeading) (l : Leaf) :
    (l.inside m).collected? home =
      if isTestOnly m.attributes then none else l.collected? (home ++ [m.name]) := by
  cases declared : l.item.typeName? with
  | none => simp [collected?, origin?, inside, declared]
  | some name =>
      by_cases tested : isTestOnly m.attributes = true
      · simp [collected?, origin?, inside, declared, tested, Origin.collected?, Origin.isKept]
      · simp [collected?, origin?, inside, declared, tested, Origin.collected?, Origin.isKept,
          Origin.modulePath]

mutual

theorem typesIn_eq_leaves : (home : List String) → (item : Item) →
    typesIn home item = (leaves item).filterMap (·.collected? home)
  | home, .inlineModule attributes name items => by
      rw [typesIn, leaves, List.filterMap_map, typesInAll_eq_leavesAll (home ++ [name]) items]
      simp only [Function.comp_def, Leaf.collected?_inside]
      split
      next => simp
      next => rfl
  | _, .data _ _ | _, .interface _ _ _ | _, .implementation _ | _, .fileModule _ _
  | _, .use _ | _, .other => by
      simp [typesIn, leaves, Leaf.collected?, Leaf.origin?, Item.typeName?, Origin.collected?,
        Origin.isKept, Origin.modulePath]

theorem typesInAll_eq_leavesAll : (home : List String) → (items : List Item) →
    typesInAll home items = (leavesAll items).filterMap (·.collected? home)
  | _, [] => rfl
  | home, item :: rest => by
      rw [typesInAll, leavesAll, List.filterMap_append, typesIn_eq_leaves home item,
        typesInAll_eq_leavesAll home rest]

end

theorem types_ofFiles (package : String) (files : List SourceFile) :
    (Declarations.ofFiles package files).types =
      ((origins files).filter (·.isKept)).map fun o => (o.modulePath, o.name) := by
  have ofFile : ∀ f : SourceFile, typesInAll f.home f.items =
      ((leavesAll f.items).filterMap (·.origin? f.home)).filterMap (·.collected?) := by
    intro f
    rw [typesInAll_eq_leavesAll, List.filterMap_filterMap]
    rfl
  have collected : ∀ all : List Origin, all.filterMap (·.collected?) =
      (all.filter (·.isKept)).map fun o => (o.modulePath, o.name) := by
    intro all
    induction all with
    | nil => rfl
    | cons o rest inductionHypothesis =>
        rw [List.filterMap_cons, List.filter_cons, Origin.collected?, inductionHypothesis]
        cases o.isKept <;> rfl
  rw [← collected, origins, List.filterMap_flatMap]
  simp only [Declarations.ofFiles, ofFile]

/-- Whether the attribute is the condition that there are tests, and no other. -/
def Attribute.isCfgTest (a : Attribute) : Bool :=
  a.path.isWord "cfg" &&
    match a.input with
    | .list [.word name] => name = "test"
    | _ => false

theorem Attribute.isTestCondition_of_isCfgTest {a : Attribute} (literal : a.isCfgTest = true) :
    a.isTestCondition = true := by
  unfold isCfgTest at literal
  split at literal
  next name input =>
    simp only [Bool.and_eq_true, decide_eq_true_eq] at literal
    obtain ⟨word, rfl⟩ := literal
    rw [isTestCondition, word, input]
    decide
  next => simp at literal

/-- The module is declared to be for tests. -/
def ModuleHeading.isForTests (m : ModuleHeading) : Bool := m.attributes.any (·.isCfgTest)

/-- The headings that lead to a module with a file of its own, if the item declares one. -/
def Leaf.fileModule? (l : Leaf) : Option (List ModuleHeading) :=
  match l.item with
  | .fileModule attributes name => some (l.around ++ [⟨attributes, name⟩])
  | _ => none

def SourceFile.fileModules (f : SourceFile) : List (List ModuleHeading) :=
  (leavesAll f.items).filterMap (·.fileModule?)

/-- A file that holds the module at this path is test code: the path is declared as a module
for tests, or anywhere inside one. -/
inductive InTests (files : List SourceFile) : List String → Prop where
  | declared {f : SourceFile} {headings : List ModuleHeading} (file : f ∈ files)
      (module : headings ∈ f.fileModules) (forTests : ∃ m ∈ headings, m.isForTests = true) :
      InTests files (f.home ++ headings.map (·.name))
  | nested {f : SourceFile} {headings : List ModuleHeading} (file : f ∈ files)
      (module : headings ∈ f.fileModules) (outer : InTests files f.home) :
      InTests files (f.home ++ headings.map (·.name))

/-- The type is declared in a module for tests, or anywhere inside one. -/
def Origin.IsTestCode (files : List SourceFile) (o : Origin) : Prop :=
  (∃ m ∈ o.around, m.isForTests = true) ∨ InTests files o.home

namespace Origin

/-- The key of the type, if it is extracted. -/
def key (package : String) (o : Origin) : TypeKey :=
  Declarations.key { package } (o.modulePath, o.name)

theorem isKept_eq_false_of_isForTests {o : Origin} (inTests : ∃ m ∈ o.around, m.isForTests = true) :
    o.isKept = false := by
  obtain ⟨m, member, forTests⟩ := inTests
  obtain ⟨a, listed, literal⟩ := List.any_eq_true.mp forTests
  have testOnly : isTestOnly m.attributes = true :=
    List.any_eq_true.mpr ⟨a, listed, a.isTestCondition_of_isCfgTest literal⟩
  exact List.all_eq_false.mpr ⟨m, member, by simp [testOnly]⟩

/-- Inline modules for tests are left out, so test code that is kept has a file of its own. -/
theorem isTestCode_iff_of_isKept {files : List SourceFile} {o : Origin} (kept : o.isKept = true) :
    o.IsTestCode files ↔ InTests files o.home := by
  constructor
  · rintro (inline | inFile)
    · rw [isKept_eq_false_of_isForTests inline] at kept
      cases kept
    · exact inFile
  · exact .inr

end Origin

theorem keys_packageTypes_origins [SourceNotation] {package : String} {files : List SourceFile}
    {types : List TypeDescriptor} (extracted : packageTypes package files = .ok types) :
    types.map (·.key) = ((origins files).filter (·.isKept)).map (·.key package) := by
  rw [keys_packageTypes extracted, types_ofFiles, List.map_map]
  rfl

theorem keys_packageModule [SourceNotation] {manifest : Manifest} {files : List SourceFile}
    {module : ModuleDescriptor} (made : packageModule manifest files = .ok module) :
    module.types.map (·.key) =
      ((origins files).filter (·.isKept)).map (·.key module.name) := by
  obtain ⟨types, extracted, made⟩ := bind_eq_ok_iff.mp made
  cases made
  exact keys_packageTypes_origins extracted

theorem name_packageModule [SourceNotation] {manifest : Manifest} {files : List SourceFile}
    {module : ModuleDescriptor} (made : packageModule manifest files = .ok module) :
    module.name = packageIdentifier manifest.name := by
  obtain ⟨types, _, made⟩ := bind_eq_ok_iff.mp made
  cases made
  rfl

/-- A package has a module if each single name of which everything is imported is known. -/
theorem exists_packageModule [SourceNotation] {manifest : Manifest} {files : List SourceFile}
    (known : ∀ v ∈ visitsOf (.ofFiles (packageIdentifier manifest.name) files) files,
      v.scope.KnowsGlobs) : ∃ module, packageModule manifest files = .ok module :=
  exists_bind_eq_ok (exists_bind_eq_ok (exists_extracted known) fun _ => ⟨_, rfl⟩) fun _ => ⟨_, rfl⟩

open Files

/-- The types of a package are all that its files declare, except in inline modules for
tests. Test code among them is what stands in the files of modules for tests, so there is
none exactly if nothing is declared there outside inline modules for tests. -/
theorem testCode_of_loadPackage [Notations] {w : World} {root : String} {options : SourceOptions}
    {module : ModuleDescriptor} (loaded : valueIn w (loadPackage root options).run = .ok module) :
    ∃ files, valueIn w (readSources root options).run = .ok files ∧
      module.types.map (·.key) =
        ((origins files).filter (·.isKept)).map (·.key module.name) ∧
      (∀ o ∈ origins files, (∃ m ∈ o.around, m.isForTests = true) → o.isKept = false) ∧
      ((∀ o ∈ (origins files).filter (·.isKept), ¬ o.IsTestCode files) ↔
        ∀ o ∈ origins files, InTests files o.home → o.isKept = false) := by
  obtain ⟨manifest, files, _, read, made⟩ := loadPackage_eq_ok_iff.mp loaded
  refine ⟨files, read, keys_packageModule made, ?_, ?_⟩
  · exact fun o _ inline => Origin.isKept_eq_false_of_isForTests inline
  · constructor
    · intro clean o member inFile
      by_contra kept
      rw [Bool.not_eq_false] at kept
      refine clean o (List.mem_filter.mpr ⟨member, kept⟩) ?_
      exact (Origin.isTestCode_iff_of_isKept kept).mpr inFile
    · intro clean o member testCode
      obtain ⟨member, kept⟩ := List.mem_filter.mp member
      rw [clean o member ((Origin.isTestCode_iff_of_isKept kept).mp testCode)] at kept
      cases kept

open scoped Standard

/-- A library with two modules for tests, one of them in a file of its own. -/
def libText : String :=
  "struct Kept;\n#[cfg(test)] mod tests;\n#[cfg(test)] mod inline \x7b struct Inside; \x7d\n"

def testsText : String := "struct Fixture;\n"

def testedPackage : World where
  root := .directory [("app", .directory [
    ("Cargo.toml", .file (some "[package]\nname = \"app\"\n")),
    ("src", .directory [("lib.rs", .file (some libText)), ("tests.rs", .file (some testsText))])])]

def testedFile (path text : String) : SourceFile where
  home := modulePath path
  items := (parseFile? text).getD []

def testedFiles : List SourceFile := [testedFile "lib.rs" libText, testedFile "tests.rs" testsText]

theorem testedFiles_outline :
    [libText, testsText].all (fun text => (parseFile? text).isSome) = true ∧
      ((origins testedFiles).filter (·.isKept)).map (fun o => (o.home, o.key "app")) =
        [([], ⟨⟨some "app", "Kept"⟩, "app"⟩),
          (["tests"], ⟨⟨some "app.tests", "Fixture"⟩, "app"⟩)] ∧
      (testedFile "lib.rs" libText).fileModules.map
        (fun headings => (headings.map (·.name), headings.any (·.isForTests))) =
        [(["tests"], true)] := by
  decide +kernel

/-- The pattern of what builds leave behind. -/
def targetGlob : Glob := ⟨.anyComponents :: ("target/".toList.map .char ++ [.anyComponents])⟩

theorem readSources_testedPackage :
    valueIn testedPackage (readSources "/app" {}).run = .ok testedFiles := by
  have parses : ∀ text ∈ [libText, testsText],
      parseFile? text = some ((parseFile? text).getD []) := by
    intro text member
    have some := List.all_eq_true.mp testedFiles_outline.1 text member
    obtain ⟨items, parsed⟩ := Option.isSome_iff_exists.mp some
    rw [parsed]
    rfl
  have first : valueIn testedPackage (sourceFile? "/app" false ["lib.rs"]).run =
      .ok (some (testedFile "lib.rs" libText)) :=
    valueIn_sourceFile?_of_parses (by decide +kernel) (parses _ (by simp))
  have second : valueIn testedPackage (sourceFile? "/app" false ["tests.rs"]).run =
      .ok (some (testedFile "tests.rs" testsText)) :=
    valueIn_sourceFile?_of_parses (by decide +kernel) (parses _ (by simp))
  have parsed : Glob.parse "**/target/**" = .ok targetGlob := by decide +kernel
  have globs : (alwaysExcluded ++ ({} : SourceOptions).exclude).mapM PathNotations.glob =
      .ok [targetGlob.holds] := by
    simp [alwaysExcluded, PathNotations.glob, parsed]
  have walked : valueIn testedPackage (walk (join "/app" "src")) =
      .ok [["lib.rs"], ["tests.rs"]] := by
    decide +kernel
  have found : valueIn testedPackage (sourceFiles "/app" [targetGlob.holds]).run =
      .ok [["lib.rs"], ["tests.rs"]] :=
    valueIn_sourceFiles_of_sorted walked (by decide +kernel) (by decide +kernel)
  have each := fun file (_ : file ∈ [["lib.rs"], ["tests.rs"]]) =>
    isReadOnly_sourceFile? "/app" false file
  rw [readSources, globs]
  dsimp only
  rw [(isReadOnly_sourceFiles _ _).valueIn_run_bind, bind_eq_ok_iff]
  refine ⟨_, found, ?_⟩
  rw [(IsReadOnly.run_mapM each).valueIn_run_bind, valueIn_run_mapM each, bind_eq_ok_iff]
  exact ⟨_, mapM_eq_ok_iff.mpr (.cons first (.cons second .nil)), rfl⟩

theorem knowsGlobs_testedFiles :
    ∀ v ∈ visitsOf (.ofFiles "app" testedFiles) testedFiles, v.scope.KnowsGlobs := by
  have noGlobs : ∀ v ∈ visitsOf (.ofFiles "app" testedFiles) testedFiles,
      v.scope.imports.globs = [] := by
    decide +kernel
  intro v visited name member
  rw [noGlobs v visited] at member
  cases member

theorem loadPackage_testedPackage :
    ∃ module, valueIn testedPackage (loadPackage "/app" {}).run = .ok module ∧
      module.name = "app" ∧
      module.types.map (·.key) = ((origins testedFiles).filter (·.isKept)).map (·.key "app") := by
  have named : (valueIn testedPackage (readManifest "/app").run).toOption.map (·.name) =
      some "app" := by
    decide +kernel
  have identifier : packageIdentifier "app" = "app" := by decide +kernel
  generalize read : valueIn testedPackage (readManifest "/app").run = manifest at named
  cases manifest with
  | error problem => cases named
  | ok manifest =>
      have name : packageIdentifier manifest.name = "app" :=
        (congrArg packageIdentifier (Option.some.inj named)).trans identifier
      obtain ⟨module, made⟩ : ∃ module, packageModule manifest testedFiles = .ok module := by
        apply exists_packageModule
        rw [name]
        exact knowsGlobs_testedFiles
      have own : module.name = "app" := (name_packageModule made).trans name
      have loaded := loadPackage_eq_ok_iff.mpr ⟨manifest, _, read, readSources_testedPackage, made⟩
      refine ⟨module, loaded, own, ?_⟩
      rw [keys_packageModule made, own]

/-- Of the two modules for tests, only the inline one is left out. -/
theorem testCode_of_loadPackage_testedPackage :
    ∃ module, valueIn testedPackage (loadPackage "/app" {}).run = .ok module ∧
      module.types.map (·.key) =
        [⟨⟨some "app", "Kept"⟩, "app"⟩, ⟨⟨some "app.tests", "Fixture"⟩, "app"⟩] := by
  obtain ⟨module, loaded, name, _⟩ := loadPackage_testedPackage
  obtain ⟨files, read, keys, _⟩ := testCode_of_loadPackage loaded
  cases read.symm.trans readSources_testedPackage
  refine ⟨module, loaded, keys.trans ?_⟩
  have outline := congrArg (List.map Prod.snd) testedFiles_outline.2.1
  rw [List.map_map] at outline
  rw [name]
  exact outline

theorem testCode_extracted :
    ∃ module, valueIn testedPackage (loadPackage "/app" {}).run = .ok module ∧
      valueIn testedPackage (readSources "/app" {}).run = .ok testedFiles ∧
      ∃ o ∈ origins testedFiles, o.IsTestCode testedFiles ∧
        o.key module.name ∈ module.types.map (·.key) := by
  obtain ⟨module, loaded, name, keys⟩ := loadPackage_testedPackage
  obtain ⟨_, kept, declared⟩ := testedFiles_outline
  have fixture : (["tests"], ⟨⟨some "app.tests", "Fixture"⟩, "app"⟩) ∈
      ((origins testedFiles).filter (·.isKept)).map (fun o => (o.home, o.key "app")) := by
    rw [kept]
    exact List.mem_cons_of_mem _ List.mem_cons_self
  have heading : (["tests"], true) ∈ (testedFile "lib.rs" libText).fileModules.map
      (fun headings => (headings.map (·.name), headings.any (·.isForTests))) := by
    rw [declared]
    exact List.mem_cons_self
  obtain ⟨o, member, home⟩ := List.mem_map.mp fixture
  obtain ⟨headings, testModule, named⟩ := List.mem_map.mp heading
  rw [Prod.mk.injEq] at home named
  have inTests : InTests testedFiles o.home := by
    have inside : InTests testedFiles _ :=
      .declared List.mem_cons_self testModule (List.any_eq_true.mp named.2)
    rwa [named.1, ← home.1] at inside
  refine ⟨module, loaded, readSources_testedPackage, o, (List.mem_filter.mp member).1,
    .inr inTests, ?_⟩
  rw [keys, name]
  exact List.mem_map_of_mem member

end Architecture.Source
