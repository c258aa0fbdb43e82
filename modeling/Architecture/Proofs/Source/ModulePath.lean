import Architecture.Proofs.Files.Location
import Architecture.Source.ModulePath

/-!
# Files that hold the same module

The module of a source file is found from the path of the file alone. A module below the root
may have three files: one of its own name beside the files of its parent, and `mod.rs` or
`lib.rs` in a directory of its name. The root has `lib.rs`, `main.rs` and `mod.rs`. Any other
two files hold different modules.
-/

namespace Architecture.Source

open Files

/-- A path of a source file that goes down only, from name to name. -/
structure IsSourcePath (path : String) : Prop where
  named : ∀ move ∈ moves path, IsName move
  source : extension? path = some "rs"

/-- Nothing but dots stands in front of the extension, and without it they are no name. -/
def OnlyDots (path : String) : Prop :=
  fileName? path = some "..rs" ∨ fileName? path = some "...rs"

/-- A file of this name, without the extension, holds the module of the directory it is in. -/
def NamesParent (directories : List String) (name : String) : Prop :=
  name = "mod" ∨ name = "lib" ∨ name = "main" ∧ directories = []

instance (directories : List String) (name : String) : Decidable (NamesParent directories name) :=
  inferInstanceAs (Decidable (_ ∨ _ ∨ _))

/-- The files `D.rs`, `D/mod.rs` and `D/lib.rs` of a directory `D`, given by its name and the
names above it; a `D.rs` that stands for the directory it is in does not count. -/
def filesOf (above : List String) (name : String) : List (List String) :=
  if NamesParent above name then [above ++ [name, "mod.rs"], above ++ [name, "lib.rs"]]
  else [above ++ [name ++ ".rs"], above ++ [name, "mod.rs"], above ++ [name, "lib.rs"]]

def rootFiles : List (List String) := [["lib.rs"], ["main.rs"], ["mod.rs"]]

/-- The module of a file that stands in directories, by its name without the extension. -/
def moduleOf (directories : List String) (name : String) : List String :=
  if NamesParent directories name then directories else directories ++ [name]

section Names

variable {directories above : List String} {last name : String}

theorem concat_source_inj :
    directories ++ [last ++ ".rs"] = above ++ [name ++ ".rs"] ↔
      directories = above ∧ last = name := by
  rw [List.append_singleton_inj, String.append_left_inj]

theorem concat_mem_rootFiles_iff :
    directories ++ [last ++ ".rs"] ∈ rootFiles ↔
      directories = [] ∧ (last = "lib" ∨ last = "main" ∨ last = "mod") := by
  have atRoot (file : String) : directories ++ [last ++ ".rs"] = [file ++ ".rs"] ↔
      directories = [] ∧ last = file := @concat_source_inj directories [] last file
  rw [rootFiles, List.mem_cons, List.mem_cons, List.mem_singleton, and_or_left, and_or_left]
  exact or_congr (atRoot "lib") (or_congr (atRoot "main") (atRoot "mod"))

theorem concat_mem_filesOf_iff :
    directories ++ [last ++ ".rs"] ∈ filesOf above name ↔
      (¬ NamesParent above name ∧ directories = above ∧ last = name) ∨
        directories = above ++ [name] ∧ (last = "mod" ∨ last = "lib") := by
  have inside (file : String) : directories ++ [last ++ ".rs"] = above ++ [name, file ++ ".rs"] ↔
      directories = above ++ [name] ∧ last = file := by
    rw [← concat_source_inj, List.append_assoc, List.singleton_append]
  -- both sides are put in the names of files; that of `mod` is `mod.rs` by computation
  rw [filesOf, and_or_left, ← inside "mod", ← inside "lib"]
  by_cases taken : NamesParent above name
  · rw [if_pos taken, List.mem_cons, List.mem_singleton]
    simp only [taken, not_true_eq_false, false_and, false_or]
    rfl
  · rw [if_neg taken, List.mem_cons, List.mem_cons, List.mem_singleton, concat_source_inj]
    simp only [taken, not_false_eq_true, true_and]
    rfl

theorem moduleOf_eq_nil_iff :
    moduleOf directories last = [] ↔ directories ++ [last ++ ".rs"] ∈ rootFiles := by
  rw [concat_mem_rootFiles_iff, moduleOf]
  have atRoot : NamesParent [] last ↔ last = "lib" ∨ last = "main" ∨ last = "mod" := by
    simp only [NamesParent, and_true]
    tauto
  split
  · next taken =>
    constructor
    · rintro rfl
      exact ⟨rfl, atRoot.mp taken⟩
    · exact And.left
  · next free =>
    constructor
    · simp
    · rintro ⟨rfl, named⟩
      exact absurd (atRoot.mpr named) free

theorem moduleOf_eq_concat_iff :
    moduleOf directories last = above ++ [name] ↔
      directories ++ [last ++ ".rs"] ∈ filesOf above name := by
  rw [concat_mem_filesOf_iff, moduleOf]
  split
  · next taken =>
    constructor
    · rintro rfl
      rcases taken with mod | lib | ⟨-, atRoot⟩
      · exact .inr ⟨rfl, .inl mod⟩
      · exact .inr ⟨rfl, .inr lib⟩
      · simp at atRoot
    · rintro (⟨free, rfl, rfl⟩ | ⟨below, -⟩)
      · exact absurd taken free
      · exact below
  · next free =>
    rw [List.append_singleton_inj]
    constructor
    · rintro ⟨rfl, rfl⟩
      exact .inl ⟨free, rfl, rfl⟩
    · rintro (⟨-, same⟩ | ⟨-, mod | lib⟩)
      · exact same
      · exact absurd (.inl mod) free
      · exact absurd (.inr (.inl lib)) free

end Names

section Paths

variable {path : String}

theorem pathNames_eq_moves (path : String) : pathNames path = moves path := by
  rw [pathNames, moves, pieces]
  refine List.filter_congr fun piece _ => ?_
  simp [isIdle]

theorem exists_moves_of_fileName? {name : String} (named : fileName? path = some name) :
    ∃ directories, moves path = directories ++ [name] := by
  obtain ⟨last, counts⟩ := Option.filter_eq_some_iff.mp named
  obtain ⟨first, rest, cut⟩ := exists_pieces_eq_cons path
  have trims : trimmed (pieces path) = first :: rest.rdropWhile isIdle := by rw [cut]; rfl
  obtain ⟨before, ends⟩ := List.getLast?_eq_some_iff.mp last
  rw [Bool.and_eq_true] at counts
  refine ⟨before.filter (!isIdle ·), ?_⟩
  rw [moves_eq cut, ← trims, ends, List.filter_append, List.filter_singleton, counts.1]
  rfl

theorem exists_stem_of_source (source : extension? path = some "rs") :
    ∃ last, fileName? path = some (last ++ ".rs") ∧ stem (last ++ ".rs") = last := by
  obtain ⟨name, named, divided⟩ := Option.bind_eq_some_iff.mp source
  cases split : Text.splitLast '.' name.toList with
  | none => simp [split] at divided
  | some parts =>
      obtain ⟨_ | ⟨c, before⟩, after⟩ := parts
      · simp [split] at divided
      · have extension : String.ofList after = "rs" := by simpa [split] using divided
        have whole : String.ofList (c :: before) ++ ".rs" = name := by
          have letters : after = ['r', 's'] := by simpa using congrArg String.toList extension
          rw [← String.toList_inj, Text.splitLast_append split, letters]
          simp
        refine ⟨String.ofList (c :: before), ?_, ?_⟩
        · rw [whole, named]
        · rw [whole, stem, split]

theorem ne_dots_of_source {directories : List String} {last part : String}
    (isSource : IsSourcePath path) (kept : ¬ OnlyDots path)
    (named : fileName? path = some (last ++ ".rs"))
    (steps : moves path = directories ++ [last ++ ".rs"]) (member : part ∈ directories ++ [last]) :
    part ≠ "." ∧ part ≠ ".." := by
  rcases List.mem_append.mp member with above | here
  · obtain ⟨-, counts, forward⟩ := isSource.named part (steps ▸ List.mem_append_left _ above)
    refine ⟨?_, forward⟩
    rintro rfl
    simp [isIdle] at counts
  · rw [List.mem_singleton.mp here]
    constructor
    · rintro rfl
      exact kept (.inl named)
    · rintro rfl
      exact kept (.inr named)

/-- The module of a source file is that of its directories and its name without the extension,
unless this consists of dots. -/
theorem modulePath_of_source (isSource : IsSourcePath path) (kept : ¬ OnlyDots path) :
    ∃ directories last, moves path = directories ++ [last ++ ".rs"] ∧
      modulePath path = moduleOf directories last := by
  obtain ⟨last, named, stemmed⟩ := exists_stem_of_source isSource.source
  obtain ⟨directories, steps⟩ := exists_moves_of_fileName? named
  refine ⟨directories, last, steps, ?_⟩
  have parts : (directories ++ [last]).filter (fun part => part ≠ "." && part ≠ "..") =
      directories ++ [last] := by
    rw [List.filter_eq_self]
    intro part member
    simpa using ne_dots_of_source isSource kept named steps member
  have forward : last ++ ".rs" ≠ ".." := by
    have isName := isSource.named (last ++ ".rs") (by rw [steps]; exact List.mem_concat_self)
    exact isName.2.2
  simp only [modulePath, pathNames_eq_moves, steps, List.getLast?_concat, Option.map_some,
    if_neg forward, stemmed, List.dropLast_concat, Option.toList_some, parts, moduleOf]
  refine if_congr ?_ rfl rfl
  simp [NamesParent, or_assoc]

end Paths

/-- Two source files hold the same module if they are files of one directory or if both are
files of the root, and else never. -/
theorem modulePath_shared_iff {path other : String} (isSource : IsSourcePath path)
    (otherIsSource : IsSourcePath other) (kept : ¬ OnlyDots path) (otherKept : ¬ OnlyDots other) :
    modulePath path = modulePath other ↔
      (∃ above name, moves path ∈ filesOf above name ∧ moves other ∈ filesOf above name) ∨
        moves path ∈ rootFiles ∧ moves other ∈ rootFiles := by
  obtain ⟨directories, last, steps, held⟩ := modulePath_of_source isSource kept
  obtain ⟨otherDirectories, otherLast, otherSteps, otherHeld⟩ :=
    modulePath_of_source otherIsSource otherKept
  rw [held, otherHeld, steps, otherSteps]
  simp only [← moduleOf_eq_concat_iff, ← moduleOf_eq_nil_iff]
  constructor
  · intro same
    rcases List.eq_nil_or_concat (moduleOf directories last) with root | ⟨above, name, below⟩
    · exact .inr ⟨root, same ▸ root⟩
    · rw [List.concat_eq_append] at below
      exact .inl ⟨above, name, below, same ▸ below⟩
  · rintro (⟨above, name, first, second⟩ | ⟨first, second⟩)
    · rw [first, second]
    · rw [first, second]

theorem modulePath_shared_iff_tuna :
    IsSourcePath "tuna.rs" ∧ IsSourcePath "tuna/mod.rs" ∧ ¬ OnlyDots "tuna.rs" ∧
      ¬ OnlyDots "tuna/mod.rs" ∧ modulePath "tuna.rs" = modulePath "tuna/mod.rs" := by
  have isSource : IsSourcePath "tuna.rs" := ⟨by decide, by decide⟩
  have otherIsSource : IsSourcePath "tuna/mod.rs" := ⟨by decide, by decide⟩
  have kept : ¬ OnlyDots "tuna.rs" := by simp only [OnlyDots]; decide
  have otherKept : ¬ OnlyDots "tuna/mod.rs" := by simp only [OnlyDots]; decide
  refine ⟨isSource, otherIsSource, kept, otherKept, ?_⟩
  rw [modulePath_shared_iff isSource otherIsSource kept otherKept]
  exact .inl ⟨[], "tuna", by decide, by decide⟩

/-- The files are `D.rs` and `D/mod.rs` of one directory `D`, or both are files of the root. -/
def AreOwnAndMod (file other : List String) : Prop :=
  (∃ above name, file ∈ [above ++ [name ++ ".rs"], above ++ [name, "mod.rs"]] ∧
    other ∈ [above ++ [name ++ ".rs"], above ++ [name, "mod.rs"]]) ∨
  file ∈ rootFiles ∧ other ∈ rootFiles

/-- A `lib.rs` below the root shares the module of its directory, and dots before the extension
are lost. -/
theorem modulePath_shared_unlisted :
    (IsSourcePath "tuna.rs" ∧ IsSourcePath "tuna/lib.rs" ∧ moves "tuna.rs" ≠ moves "tuna/lib.rs" ∧
      modulePath "tuna.rs" = modulePath "tuna/lib.rs" ∧
      ¬ AreOwnAndMod (moves "tuna.rs") (moves "tuna/lib.rs")) ∧
    (IsSourcePath "..rs" ∧ IsSourcePath "...rs" ∧ moves "..rs" ≠ moves "...rs" ∧
      modulePath "..rs" = modulePath "...rs" ∧
      ¬ AreOwnAndMod (moves "..rs") (moves "...rs")) := by
  have tuna : moves "tuna.rs" = ["tuna.rs"] := by decide
  have lib : moves "tuna/lib.rs" = ["tuna", "lib.rs"] := by decide
  have two : moves "..rs" = ["..rs"] := by decide
  have three : moves "...rs" = ["...rs"] := by decide
  have atRoot {file name : String} {above : List String}
      (member : [file] ∈ [above ++ [name ++ ".rs"], above ++ [name, "mod.rs"]]) :
      above = [] ∧ file = name ++ ".rs" := by
    cases above <;> simp_all
  have unlisted : ¬ AreOwnAndMod ["tuna.rs"] ["tuna", "lib.rs"] := by
    rintro (⟨above, name, first, second⟩ | ⟨first, -⟩)
    · obtain ⟨rfl, -⟩ := atRoot first
      simp at second
    · exact absurd first (by decide)
  have dotsUnlisted : ¬ AreOwnAndMod ["..rs"] ["...rs"] := by
    rintro (⟨above, name, first, second⟩ | ⟨first, -⟩)
    · obtain ⟨-, same⟩ := atRoot first
      obtain ⟨-, otherSame⟩ := atRoot second
      exact absurd (same.trans otherSame.symm) (by decide)
    · exact absurd first (by decide)
  rw [tuna, lib, two, three]
  exact ⟨⟨⟨by decide, by decide⟩, ⟨by decide, by decide⟩, by decide, by decide, unlisted⟩,
    ⟨by decide, by decide⟩, ⟨by decide, by decide⟩, by decide, by decide, dotsUnlisted⟩

end Architecture.Source
