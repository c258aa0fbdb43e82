import Architecture.Proofs.Source.Spelling

/-!
# How paths go on from their first segments

A path may start with words that lead up from the module in which it stands. They are counted
where they come first, but behind the word for the module itself they are taken for names.

A path may also start with an imported name. The name gives way to the path that it stands for,
and so does the first segment of that path if it is an imported name in turn. So a path that is
imported under the name of its own first segment grows until no more imported names are followed.
-/

namespace Architecture.Source.Scope

variable {s : Scope} {name first : String} {more below : List String}

/-! ### Words for the modules around -/

/-- Words that lead up have their meaning where they come first. Behind the word for the module
itself they have it only if there are none. -/
theorem target_relative_iff (s : Scope) (ups : Nat) (enough : ups ≤ s.path.length)
    (rest : List String) (noMore : rest.head? ≠ some "super") :
    let upwards := List.replicate ups "super" ++ rest
    let reached := Target.inside (s.path.take (s.path.length - ups) ++ rest)
    (1 ≤ ups → s.target upwards = .ok reached) ∧
      s.target ("self" :: upwards) = .ok (.inside (s.path ++ upwards)) ∧
      (s.target ("self" :: upwards) = .ok reached ↔ ups = 0) := by
  intro upwards reached
  have fromHere : s.target ("self" :: upwards) = .ok (.inside (s.path ++ upwards)) :=
    target_of_anchored? rfl
  refine ⟨fun positive => target_of_anchored? (anchored?_super positive noMore), fromHere, ?_⟩
  rw [fromHere]
  constructor
  · intro same
    have lengths := congrArg List.length (Target.inside.inj (Except.ok.inj same))
    simp only [upwards, List.length_append, List.length_replicate, List.length_take] at lengths
    omega
  · rintro rfl
    simp [upwards, reached]

/-- A module below another one, in which a type is declared. -/
def nestedScope : Scope := bareScope "app" [([], "Salmon")] ["tuna", "atlantic"] []

theorem target_relative_iff_nestedScope :
    2 ≤ nestedScope.path.length ∧ ["Salmon"].head? ≠ some "super" ∧
      nestedScope.target ["super", "super", "Salmon"] = .ok (.inside ["Salmon"]) ∧
      nestedScope.target ["self", "Salmon"] = .ok (.inside ["tuna", "atlantic", "Salmon"]) := by
  have noMore : ["Salmon"].head? ≠ some "super" := by decide
  have up := target_relative_iff nestedScope 2 (by decide) ["Salmon"] noMore
  have stay := target_relative_iff nestedScope 0 (by decide) ["Salmon"] noMore
  exact ⟨by decide, noMore, up.1 (by decide), stay.2.2.mpr rfl⟩

/-- The module above the module itself is not the module above. -/
theorem target_selfSuper :
    1 ≤ nestedScope.path.length ∧
      nestedScope.target ["super", "Salmon"] = .ok (.inside ["tuna", "Salmon"]) ∧
      nestedScope.target ["self", "super", "Salmon"] ≠ .ok (.inside ["tuna", "Salmon"]) := by
  decide

/-! ### Imported names -/

/-- Outside the package, a path whose first segment is not followed leads to itself. -/
theorem lookup_of_notFollowed {depth : Nat} (plain : s.Plain first)
    (noChild : s.isChild first = false) (stays : s.followed? depth first = .ok none)
    (longer : below ≠ []) (calls : Nat) :
    s.lookup (calls + 1) depth (first :: below) = .ok (.outside (first :: below)) := by
  have unknown : s.nearby? (first :: below) = none := by
    simp [nearby?, noChild, longer]
  rw [lookup, lookupBy_of_notFollowed (anchored?_of_plain plain below) stays,
    lookupDeclared_longer unknown longer]

/-- A path that is imported under the name of its own first segment grows once for every
imported name that may be followed. -/
theorem lookup_of_ownFirst (plain : s.Plain first) (noChild : s.isChild first = false)
    (expands : s.expansion? first = some (first :: more)) (longer : below ≠ []) {depth left : Nat}
    (budget : depth + left = aliasLimit) :
    s.lookup (left + 1) depth (first :: below) =
      .ok (.outside (first :: ((List.replicate left more).flatten ++ below))) := by
  induction left generalizing depth below with
  | zero =>
      have stays := s.followed?_of_limit (Nat.le_of_eq budget.symm) first
      exact lookup_of_notFollowed plain noChild stays longer 0
  | succ left inductionHypothesis =>
      have follows : s.followed? depth first = .ok (some (first :: more)) :=
        followed?_of_expansion? expands (List.cons_ne_nil first more) (by omega)
      have stillLonger : more ++ below ≠ [] := List.append_ne_nil_of_right_ne_nil more longer
      rw [lookup, lookupBy_of_followed (anchored?_of_plain plain below) follows, List.cons_append,
        inductionHypothesis stillLonger (by omega), List.replicate_succ', List.flatten_concat,
        List.append_assoc]

theorem expansion?_of_longer (imported : s.imports.target? name = some (first :: more))
    (longer : more ≠ []) : s.expansion? name = some (first :: more) := by
  rw [expansion?, imported]
  simp [longer]

/-- A path goes on from what its first name was imported as. -/
theorem target_of_expansion? {path rest : List String} {place : Target} (calls : Nat)
    (plain : s.Plain name) (expands : s.expansion? name = some path) (nonempty : path ≠ [])
    (leads : s.lookup calls 1 (path ++ rest) = .ok place) :
    s.target (name :: rest) = .ok place := by
  have mayFollow : 0 < aliasLimit := by decide
  have follows := followed?_of_expansion? expands nonempty mayFollow
  apply target_of_lookup (calls + 1)
  rw [lookup, lookupBy_of_followed (anchored?_of_plain plain rest) follows, leads]

theorem target_of_ownFirst (plain : s.Plain first) (noChild : s.isChild first = false)
    (longer : more ≠ []) (expands : s.expansion? first = some (first :: more))
    (rest : List String) :
    s.target (first :: rest) =
      .ok (.outside (first :: ((List.replicate aliasLimit more).flatten ++ rest))) := by
  have stillLonger : more ++ rest ≠ [] := List.append_ne_nil_of_left_ne_nil longer rest
  have oneMore : List.replicate aliasLimit more = List.replicate 15 more ++ [more] :=
    List.replicate_succ'
  apply target_of_expansion? 16 plain expands (List.cons_ne_nil first more)
  have budget : 1 + 15 = aliasLimit := rfl
  rw [List.cons_append, lookup_of_ownFirst plain noChild expands stillLonger budget, oneMore,
    List.flatten_concat, List.append_assoc]

/-- What has grown is not what it was. -/
theorem grown_ne (longer : more ≠ []) (rest : List String) :
    Target.outside (first :: ((List.replicate aliasLimit more).flatten ++ rest)) ≠
      .outside (first :: (more ++ rest)) := by
  intro same
  have lengths := congrArg List.length (Target.outside.inj same)
  have positive := List.length_pos_iff.mpr longer
  simp only [aliasLimit, List.length_cons, List.length_append, List.length_flatten,
    List.map_replicate, List.sum_replicate_nat] at lengths
  omega

/-- An imported name stands for the path that is imported under it, if that is not the name of
the path's own first segment. -/
theorem target_import_iff (s : Scope) {name first : String} {more : List String}
    (plainName : s.Plain name) (plain : s.Plain first) (noChild : s.isChild first = false)
    (longer : more ≠ []) (imported : s.imports.target? name = some (first :: more))
    (noOther : first ≠ name → s.imports.target? first = none) (rest : List String) :
    let times := if name = first then aliasLimit else 1
    s.target (name :: rest) =
        .ok (.outside (first :: ((List.replicate times more).flatten ++ rest))) ∧
      (s.target (name :: rest) = .ok (.outside (first :: (more ++ rest))) ↔ name ≠ first) := by
  intro times
  have expands := expansion?_of_longer imported longer
  by_cases same : name = first
  · subst same
    have grown := target_of_ownFirst plain noChild longer expands rest
    refine ⟨by simpa [times] using grown, ?_⟩
    rw [grown]
    exact iff_of_false (fun equal => grown_ne longer rest (Except.ok.inj equal))
      (fun differs => differs rfl)
  · have notImported : s.expansion? first = none := by
      rw [expansion?, noOther (Ne.symm same), Option.filter_none]
    have reached : s.target (name :: rest) = .ok (.outside (first :: (more ++ rest))) := by
      apply target_of_expansion? 1 plainName expands (List.cons_ne_nil first more)
      exact lookup_of_notFollowed plain noChild (followed?_of_notImported notImported 1)
        (List.append_ne_nil_of_left_ne_nil longer rest) 0
    exact ⟨by simpa [times, same] using reached, iff_of_true reached same⟩

/-- A module that imports two paths from outside, one of them under the name of its first
segment. -/
def importingScope : Scope where
  declarations := { package := "app" }
  path := []
  imports := .ofItems [
    .use (.into "std" (.name "fmt")),
    .use (.into "foo" (.name "foo"))]

theorem target_import_iff_importingScope :
    importingScope.Plain "fmt" ∧ importingScope.Plain "std" ∧
      importingScope.isChild "std" = false ∧
      importingScope.imports.target? "fmt" = some ["std", "fmt"] ∧
      importingScope.imports.target? "std" = none ∧
      importingScope.target ["fmt", "Debug"] = .ok (.outside ["std", "fmt", "Debug"]) := by
  have plainName : importingScope.Plain "fmt" := by decide
  have plain : importingScope.Plain "std" := by decide
  have noChild : importingScope.isChild "std" = false := by decide
  have imported : importingScope.imports.target? "fmt" = some ["std", "fmt"] := by decide
  have noOther : importingScope.imports.target? "std" = none := by decide
  have resolves := target_import_iff importingScope plainName plain noChild (by decide) imported
    (fun _ => noOther) ["Debug"]
  exact ⟨plainName, plain, noChild, imported, noOther, resolves.2.mpr (by decide)⟩

/-- A path that is imported under the name of its own first segment is not what the name stands
for. -/
theorem target_ownFirst :
    importingScope.Plain "foo" ∧ importingScope.isChild "foo" = false ∧
      importingScope.imports.target? "foo" = some ["foo", "foo"] ∧
      importingScope.target ["foo", "Tuna"] ≠ .ok (.outside ["foo", "foo", "Tuna"]) ∧
      importingScope.target ["foo", "Tuna"] =
        .ok (.outside (List.replicate 17 "foo" ++ ["Tuna"])) := by
  decide

end Architecture.Source.Scope
