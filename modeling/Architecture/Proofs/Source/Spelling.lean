import Architecture.Proofs.Source.Extraction
import Architecture.Standard

/-!
# Ways to spell a declared type

A path to a declared type may start at the root, at the package's own name, at the module
in which it stands or one around that; it may be a single name that is imported, declared
nearby or brought into scope with all of a module; or it may go through a module below.
Each way leads to the key of the descriptor that the declaration becomes. Words for
modules and the name of the package come before all that is declared under such a name.
-/

namespace Architecture.Source.Scope

/-- A name that starts no path at a fixed place. -/
def Plain (s : Scope) (name : String) : Prop :=
  name ∉ ["crate", "self", "super", "", s.declarations.package]

instance (s : Scope) (name : String) : Decidable (s.Plain name) := inferInstanceAs (Decidable (¬ _))

/-- The paths by which code in a module may name a type that is declared at home. -/
inductive Spells (s : Scope) (home : List String) (name : String) : List String → Prop where
  | fromRoot : Spells s home name ("crate" :: (home ++ [name]))
  | fromPackage : s.declarations.package ∉ ["self", "super", ""] →
      Spells s home name (s.declarations.package :: (home ++ [name]))
  | fromHere (below : List String) : home = s.path ++ below →
      Spells s home name ("self" :: (below ++ [name]))
  | fromAbove (ups : Nat) (below : List String) : 1 ≤ ups → ups ≤ s.path.length →
      home = s.path.take (s.path.length - ups) ++ below →
      (below ++ [name]).head? ≠ some "super" →
      Spells s home name (List.replicate ups "super" ++ (below ++ [name]))
  | imported (handle : String) : s.Plain handle →
      s.imports.target? handle = some ("crate" :: (home ++ [name])) → Spells s home name [handle]
  | declaredHere : s.Plain name → home = s.path → s.expansion? name = none →
      s.isChild name = false → Spells s home name [name]
  | throughChild (child : String) (below : List String) : s.Plain child →
      s.isChild child = true → s.expansion? child = none →
      home = s.path ++ child :: below → Spells s home name (child :: (below ++ [name]))
  | throughGlob (earlier later : List (List String)) : s.Plain name →
      s.imports.globs = earlier ++ ("crate" :: home) :: later → s.expansion? name = none →
      s.isChild name = false → s.declarations.declares s.path name = false →
      (∀ glob ∈ earlier, ∃ calls place, s.lookup calls aliasLimit glob = .ok place ∧
        s.offered? name place = none) →
      Spells s home name [name]

variable {s : Scope} {home : List String} {name : String} {segments : List String}

theorem target_of_anchored? {place : Target} (anchored : s.anchored? segments = some place) :
    s.target segments = .ok place :=
  lookupBy_of_anchored? anchored

theorem anchored?_of_plain {first : String} (plain : s.Plain first) (rest : List String) :
    s.anchored? (first :: rest) = none := by
  simp only [Plain, List.mem_cons, List.not_mem_nil, or_false, not_or] at plain
  rcases plain with ⟨notCrate, notSelf, notSuper, notEmpty, notPackage⟩
  rw [anchored?, if_neg notCrate, if_neg notSelf, if_neg notSuper, if_neg notEmpty,
    if_neg notPackage]

theorem anchored?_super {ups : Nat} {rest : List String} (positive : 1 ≤ ups)
    (noMore : rest.head? ≠ some "super") :
    s.anchored? (List.replicate ups "super" ++ rest) =
      some (.inside (s.path.take (s.path.length - ups) ++ rest)) := by
  have stops : rest.takeWhile (· = "super") = [] := by
    cases rest with
    | nil => rfl
    | cons first rest =>
        have differs : first ≠ "super" := fun same => noMore (congrArg some same)
        simp [differs]
  have counted : ((List.replicate ups "super" ++ rest).takeWhile (· = "super")).length = ups := by
    rw [List.takeWhile_append_of_pos, stops]
    · simp
    · simp [List.mem_replicate]
  have dropped : (List.replicate ups "super" ++ rest).drop ups = rest :=
    List.drop_left' List.length_replicate
  cases ups with
  | zero => cases positive
  | succ ups =>
      rw [List.replicate_succ, List.cons_append] at counted dropped ⊢
      rw [anchored?, if_neg (by decide), if_neg (by decide), if_pos rfl]
      simp only [counted, dropped]

/-- What a path leads to that starts with no imported name is declared somewhere. -/
theorem target_of_plain {first : String} {rest : List String} (plain : s.Plain first)
    (unimported : s.expansion? first = none) :
    s.target (first :: rest) =
      s.lookupDeclared (s.lookup (aliasLimit + s.imports.globs.length)) (first :: rest) :=
  lookupBy_of_notFollowed (anchored?_of_plain plain rest) (followed?_of_notImported unimported 0)

theorem target_of_nearby? {first : String} {rest : List String} {place : Target}
    (plain : s.Plain first) (unimported : s.expansion? first = none)
    (near : s.nearby? (first :: rest) = some place) : s.target (first :: rest) = .ok place := by
  rw [target_of_plain plain unimported, lookupDeclared_of_nearby? near]

/-- A name is found in the first module that offers it of those of which everything is
imported. -/
theorem seek_of_split {call : Nat → List String → Found Target} {place : Target}
    {glob : List String} {earlier later : List (List String)}
    (imported : s.imports.globs = earlier ++ glob :: later)
    (passed : ∀ glob ∈ earlier, s.through call name glob = .ok none)
    (offers : s.through call name glob = .ok (some place)) : s.seek call name = .ok place := by
  rw [seek, imported, findSomeM?_append_of_none (findSomeM?_eq_none passed), List.findSomeM?,
    offers]
  rfl

theorem target_throughGlob {earlier later : List (List String)} (plain : s.Plain name)
    (imported : s.imports.globs = earlier ++ ("crate" :: home) :: later)
    (unimported : s.expansion? name = none) (unknown : s.nearby? [name] = none)
    (declared : s.declarations.declares home name = true)
    (notEarlier : ∀ glob ∈ earlier, ∃ calls place,
      s.lookup calls aliasLimit glob = .ok place ∧ s.offered? name place = none) :
    s.target [name] = .ok (.inside (home ++ [name])) := by
  have leads : ∀ {glob calls place}, s.lookup calls aliasLimit glob = .ok place →
      s.lookup (aliasLimit + s.imports.globs.length) aliasLimit glob = .ok place := by
    intro glob calls place found
    have enough : aliasLimit - aliasLimit + s.imports.globs.length + 1 ≤
        aliasLimit + s.imports.globs.length := by
      simp only [aliasLimit]
      omega
    exact (lookup_eq_of_enough (ended_of_eq_ok found) enough).trans found
  have reached : s.lookup 1 aliasLimit ("crate" :: home) = .ok (.inside home) :=
    lookupBy_of_anchored? rfl
  rw [target_of_plain plain unimported, lookupDeclared_single unknown]
  apply seek_of_split imported
  · intro glob member
    obtain ⟨calls, place, found, nothing⟩ := notEarlier glob member
    exact map_eq_ok_iff.mpr ⟨place, leads found, nothing⟩
  · exact map_eq_ok_iff.mpr ⟨_, leads reached, if_pos declared⟩

theorem target_of_spells (declared : s.declarations.declares home name = true)
    (spelled : s.Spells home name segments) :
    s.target segments = .ok (.inside (home ++ [name])) := by
  cases spelled with
  | fromRoot => exact target_of_anchored? rfl
  | fromPackage notWord =>
      simp only [List.mem_cons, List.not_mem_nil, or_false, not_or] at notWord
      rcases notWord with ⟨notSelf, notSuper, notEmpty⟩
      apply target_of_anchored?
      simp [anchored?, notSelf, notSuper, notEmpty]
  | fromHere below here =>
      rw [here, List.append_assoc]
      exact target_of_anchored? rfl
  | fromAbove ups below positive _ above noMore =>
      rw [above, List.append_assoc]
      exact target_of_anchored? (anchored?_super positive noMore)
  | imported handle plain bound =>
      have expands : s.expansion? handle = some ("crate" :: (home ++ [name])) := by
        rw [expansion?, bound]
        simp
      have mayFollow : 0 < aliasLimit := by decide
      have follows := followed?_of_expansion? expands (List.cons_ne_nil _ _) mayFollow
      apply target_of_lookup 2
      rw [lookup, lookupBy_of_followed (anchored?_of_plain plain []) follows, List.append_nil]
      exact lookupBy_of_anchored? rfl
  | declaredHere plain here unimported noChild =>
      subst here
      apply target_of_nearby? plain unimported
      rw [nearby?, noChild, declared]
      rfl
  | throughChild child below plain isChild unimported inside =>
      rw [inside]
      apply target_of_nearby? plain unimported
      simp [nearby?, isChild]
  | throughGlob earlier later plain imported unimported noChild notHere notEarlier =>
      have unknown : s.nearby? [name] = none := by
        simp [nearby?, noChild, notHere]
      exact target_throughGlob plain imported unimported unknown declared notEarlier

theorem reference_of_target (leads : s.target segments = .ok (.inside (home ++ [name])))
    (args : List TypeRef) :
    s.reference segments args =
      .ok (.named (s.declarations.typeName home name) s.declarations.package args) := by
  rw [reference, locate, leads]
  simp [Except.map, keyAt]

/-- Every spelling of a declared type resolves to the key of its descriptor. -/
theorem reference_of_spells [SourceNotation] (s : Scope) {home : List String} {name : String}
    (declared : s.declarations.declares home name = true) {segments : List String}
    (spelled : s.Spells home name segments) (args : List TypeRef) :
    s.reference segments args =
        .ok (.named (s.declarations.typeName home name) s.declarations.package args) ∧
      ∀ files types, s.declarations = .ofFiles s.declarations.package files →
        packageTypes s.declarations.package files = .ok types →
          ∃ t ∈ types, t.key = ⟨s.declarations.typeName home name, s.declarations.package⟩ := by
  constructor
  · exact reference_of_target (target_of_spells declared spelled) args
  · intro files types collected extracted
    have declaredInFiles := declared
    rw [collected] at declaredInFiles
    rcases exists_mem_of_packageTypes extracted declaredInFiles with ⟨t, member, sameKey⟩
    rw [← collected] at sameKey
    exact ⟨t, member, sameKey⟩

/-- A package with a module in a file and another one inside it. -/
def fishFiles : List SourceFile := [
  { home := [], items := [.fileModule [] "tuna"] },
  { home := ["tuna"]
    items := [
      .use (.into "Tuna" .everything),
      .use (.into "crate" (.into "tuna" (.into "atlantic" (.group
        [.renamed "Bluefin" "Blue", .everything])))),
      .data { name := "Tuna" } [],
      .inlineModule [] "atlantic" [.data { name := "Bluefin" } []]] }]

/-- The module of the second file. -/
def tunaScope : Scope where
  declarations := .ofFiles "app" fishFiles
  path := ["tuna"]
  imports := .ofItems (fishFiles.flatMap (·.items))

open scoped Standard

theorem reference_of_spells_tunaScope :
    tunaScope.declarations.declares ["tuna"] "Tuna" = true ∧
      tunaScope.declarations.declares ["tuna", "atlantic"] "Bluefin" = true ∧
      tunaScope.Spells ["tuna"] "Tuna" ["Tuna"] ∧
      tunaScope.reference ["Tuna"] [] = .ok (.named ⟨some "app.tuna", "Tuna"⟩ "app" []) ∧
      (∀ segments ∈ [["crate", "tuna", "atlantic", "Bluefin"],
          ["app", "tuna", "atlantic", "Bluefin"], ["self", "atlantic", "Bluefin"],
          ["super", "tuna", "atlantic", "Bluefin"], ["Blue"], ["atlantic", "Bluefin"],
          ["Bluefin"]],
        tunaScope.Spells ["tuna", "atlantic"] "Bluefin" segments ∧
          tunaScope.reference segments [] =
            .ok (.named ⟨some "app.tuna.atlantic", "Bluefin"⟩ "app" [])) ∧
      ∃ types, packageTypes "app" fishFiles = .ok types ∧
        ∃ t ∈ types, t.key = ⟨⟨some "app.tuna.atlantic", "Bluefin"⟩, "app"⟩ := by
  have tuna : tunaScope.declarations.declares ["tuna"] "Tuna" = true := by decide
  have bluefin : tunaScope.declarations.declares ["tuna", "atlantic"] "Bluefin" = true := by decide
  have here : tunaScope.Spells ["tuna"] "Tuna" ["Tuna"] := by
    apply Spells.declaredHere <;> decide
  have above : tunaScope.Spells ["tuna", "atlantic"] "Bluefin"
      ["super", "tuna", "atlantic", "Bluefin"] := by
    apply Spells.fromAbove 1 ["tuna", "atlantic"] <;> decide
  have imported : tunaScope.Spells ["tuna", "atlantic"] "Bluefin" ["Blue"] := by
    apply Spells.imported <;> decide
  have child : tunaScope.Spells ["tuna", "atlantic"] "Bluefin" ["atlantic", "Bluefin"] := by
    apply Spells.throughChild "atlantic" [] <;> decide
  have glob : tunaScope.Spells ["tuna", "atlantic"] "Bluefin" ["Bluefin"] := by
    have passed : tunaScope.lookup 1 aliasLimit ["Tuna"] = .ok (.inside ["tuna", "Tuna"]) := by
      decide
    refine .throughGlob [["Tuna"]] [] (by decide) rfl (by decide) (by decide) (by decide) ?_
    exact List.forall_mem_singleton.mpr ⟨1, _, passed, by decide⟩
  have resolves : ∀ {segments}, tunaScope.Spells ["tuna", "atlantic"] "Bluefin" segments →
      tunaScope.Spells ["tuna", "atlantic"] "Bluefin" segments ∧
        tunaScope.reference segments [] =
          .ok (.named ⟨some "app.tuna.atlantic", "Bluefin"⟩ "app" []) :=
    fun spelled => ⟨spelled, (reference_of_spells tunaScope bluefin spelled []).1⟩
  obtain ⟨types, extracted⟩ : ∃ types, packageTypes "app" fishFiles = .ok types := by
    have extracts : (packageTypes "app" fishFiles).toBool = true := by decide +kernel
    cases found : packageTypes "app" fishFiles with
    | error failure => rw [found] at extracts; cases extracts
    | ok types => exact ⟨types, rfl⟩
  refine ⟨tuna, bluefin, here, (reference_of_spells tunaScope tuna here []).1, ?_, types, extracted,
    (reference_of_spells tunaScope bluefin glob []).2 fishFiles types rfl extracted⟩
  simp only [List.forall_mem_cons]
  exact ⟨resolves .fromRoot, resolves (.fromPackage (by decide)),
    resolves (.fromHere ["atlantic"] rfl), resolves above, resolves imported, resolves child,
    resolves glob, by simp⟩

/-- A module of a package, without imports other than of all that a module has. -/
def bareScope (package : String) (declared : List (List String × String)) (path : List String)
    (globs : List (List String)) : Scope where
  declarations := .ofFiles package
    (declared.map fun (home, name) => { home, items := [.data { name } []] })
  path
  imports := { globs }

/-- Words for modules and the name of the package come first. So a module below that has
the package's name is not reached by its name, nor is a type of that name that all of a
module brings into scope, a module of a package that is named like the module around it,
or a module above that is named like the word for it. And a name is not found in a module at all
if everything is imported before of a name that nothing declares. -/
theorem reference_shadowed :
    let childOfPackageName := bareScope "app" [(["app"], "Tuna")] [] []
    let typeOfPackageName := bareScope "app" [(["tuna"], "app")] [] [["crate", "tuna"]]
    let packageOfWord := bareScope "self" [(["tuna"], "Tuna")] ["tuna"] []
    let moduleOfWord := bareScope "app" [(["super"], "Tuna")] ["tuna"] []
    let behindUnknown := bareScope "app" [(["tuna"], "Tuna")] [] [["rayon"], ["crate", "tuna"]]
    (childOfPackageName.declarations.declares ["app"] "Tuna" = true ∧
      childOfPackageName.isChild "app" = true ∧
      childOfPackageName.imports.target? "app" = none ∧
      childOfPackageName.reference ["app", "Tuna"] [] ≠
        .ok (.named (childOfPackageName.declarations.typeName ["app"] "Tuna") "app" [])) ∧
    (typeOfPackageName.declarations.declares ["tuna"] "app" = true ∧
      typeOfPackageName.imports.target? "app" = none ∧
      typeOfPackageName.isChild "app" = false ∧
      typeOfPackageName.declarations.declares [] "app" = false ∧
      typeOfPackageName.reference ["app"] [] ≠
        .ok (.named (typeOfPackageName.declarations.typeName ["tuna"] "app") "app" [])) ∧
    (packageOfWord.declarations.declares ["tuna"] "Tuna" = true ∧
      packageOfWord.reference ["self", "tuna", "Tuna"] [] ≠
        .ok (.named (packageOfWord.declarations.typeName ["tuna"] "Tuna") "self" [])) ∧
    (moduleOfWord.declarations.declares ["super"] "Tuna" = true ∧
      moduleOfWord.reference ["super", "super", "Tuna"] [] ≠
        .ok (.named (moduleOfWord.declarations.typeName ["super"] "Tuna") "app" [])) ∧
    behindUnknown.declarations.declares ["tuna"] "Tuna" = true ∧
      behindUnknown.imports.target? "Tuna" = none ∧
      behindUnknown.nearby? ["Tuna"] = none ∧
      behindUnknown.reference ["Tuna"] [] = .error .tooDeep := by
  decide

end Architecture.Source.Scope
