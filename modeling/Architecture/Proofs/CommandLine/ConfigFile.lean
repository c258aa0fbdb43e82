import Architecture.CommandLine.ConfigFile
import Architecture.Proofs.Files.Reading
import Architecture.Proofs.Files.Tree

/-!
# The configuration above a path

The search for a configuration follows the text of a path, not the directories. An absolute
path without moves back goes up through all directories above. A relative path ends at the
current directory, and what lies above it is not looked at.
-/

namespace Architecture.CommandLine

open Files

/-- The configuration that a directory holds, by its place. -/
def configAt? (root : Entry) (home : List String) : Option (List String) :=
  (configNames.map fun name => home ++ [name]).find? root.isFileAt

def isRepository (root : Entry) (home : List String) : Bool :=
  (root.find? (home ++ [".git"])).isSome

/-- The first configuration in directories, no further than the first root of a repository. -/
def nearest? (root : Entry) : List (List String) → Option (List String)
  | [] => none
  | home :: above =>
    (configAt? root home).or (if isRepository root home then none else nearest? root above)

section Nearest

variable {root : Entry} {homes above : List (List String)} {home : List String}

theorem nearest?_append (root : Entry) (homes above : List (List String)) :
    nearest? root (homes ++ above) =
      (nearest? root homes).or
        (if homes.any (isRepository root) then none else nearest? root above) := by
  induction homes with
  | nil => simp [nearest?]
  | cons home rest inductionHypothesis =>
      rw [List.cons_append, nearest?, nearest?, inductionHypothesis, Option.or_assoc,
        List.any_cons]
      cases isRepository root home <;> simp

/-- A search without result has seen nothing in any of the directories. -/
theorem configAt?_of_nearest?_eq_none (none : nearest? root homes = none)
    (free : homes.any (isRepository root) = false) (member : home ∈ homes) :
    configAt? root home = .none := by
  induction homes with
  | nil => cases member
  | cons first rest inductionHypothesis =>
      rw [nearest?, Option.or_eq_none_iff] at none
      rw [List.any_cons, Bool.or_eq_false_iff] at free
      rcases List.mem_cons.mp member with rfl | member
      · exact none.1
      · rw [free.1] at none
        exact inductionHypothesis none.2 free.2 member

/-- Looking into a directory again makes no difference. -/
theorem nearest?_revisit (member : home ∈ homes) (above : List (List String)) :
    nearest? root (homes ++ home :: above) = nearest? root (homes ++ above) := by
  rw [nearest?_append, nearest?_append]
  cases found : nearest? root homes with
  | some place => rfl
  | none =>
      cases free : homes.any (isRepository root) with
      | true => rfl
      | false =>
          have unmarked : isRepository root home = false := by
            simpa using List.any_eq_false.mp free home member
          simp [nearest?, configAt?_of_nearest?_eq_none found free member, unmarked]

/-- Nothing is found in what is no directory. -/
theorem nearest?_filter (root : Entry) (homes : List (List String)) :
    nearest? root (homes.filter root.isDirectoryAt) = nearest? root homes := by
  induction homes with
  | nil => rfl
  | cons home rest inductionHypothesis =>
      cases directory : root.isDirectoryAt home with
      | true =>
          rw [List.filter_cons_of_pos directory, nearest?, nearest?, inductionHypothesis]
      | false =>
          have missing : ∀ name, root.find? (home ++ [name]) = none := by
            intro name
            cases found : root.find? (home ++ [name]) with
            | none => rfl
            | some e =>
                rw [Entry.isDirectoryAt_of_find?_concat found] at directory
                cases directory
          have unconfigured : configAt? root home = none := by
            simp [configAt?, List.find?_eq_none, Entry.isFileAt, missing]
          rw [List.filter_cons_of_neg (by simp [directory]), inductionHypothesis, nearest?]
          simp [unconfigured, isRepository, missing]

end Nearest

/-- The place of the configuration that is found for a path. -/
def projectConfig? (w : World) (path : String) : Option (List String) :=
  (valueIn w (findAmong? (ancestors path))).bind fun file => (w.place file).toOption

section Search

variable (w : World) (dir : String)

theorem isFile_join {name : String} (named : IsName name) :
    decide (w.kind? (join dir name) = some .file) =
      (w.home? dir).any fun home => w.root.isFileAt (home ++ [name]) := by
  rw [World.kind?_join named]
  cases w.home? dir with
  | none => rfl
  | some home => cases found : w.root.find? (home ++ [name]) <;> simp [Entry.isFileAt, found]

theorem place_find? {names : List String} (named : ∀ name ∈ names, IsName name) :
    ((names.map (join dir)).find? fun path => decide (w.kind? path = some .file)).bind
        (fun file => (w.place file).toOption) =
      (w.home? dir).bind fun home =>
        (names.map fun name => home ++ [name]).find? w.root.isFileAt := by
  induction names with
  | nil => cases w.home? dir <;> rfl
  | cons name rest inductionHypothesis =>
      obtain ⟨first, others⟩ := List.forall_mem_cons.mp named
      have holds := isFile_join w dir first
      have follow := inductionHypothesis others
      rw [List.map_cons, List.find?_cons, holds]
      cases home : w.home? dir with
      | none =>
          rw [home] at follow
          exact follow
      | some place =>
          rw [home] at follow
          have placed := @World.toOption_place_join w dir name first
          rw [home] at placed
          rw [Option.any_some, Option.bind_some, List.map_cons, List.find?_cons]
          cases file : w.root.isFileAt (place ++ [name]) with
          | false => exact follow
          | true =>
              have present : (w.root.find? (place ++ [name])).isSome = true :=
                Option.isSome_of_any file
              rw [Option.map_some, Option.filter_some, if_pos present] at placed
              exact placed

theorem isSome_git :
    (w.kind? (join dir ".git")).isSome = (w.home? dir).any (isRepository w.root) := by
  rw [World.kind?_join (by decide)]
  cases w.home? dir with
  | none => rfl
  | some home => simp [isRepository]

theorem valueIn_findAmong?_cons (rest : List String) :
    valueIn w (findAmong? (dir :: rest)) =
      ((configNames.map (join dir)).find? fun path => decide (w.kind? path = some .file)).or
        (if (w.kind? (join dir ".git")).isSome then none else valueIn w (findAmong? rest)) := by
  have each := fun path (_ : path ∈ configNames.map (join dir)) => IsReadOnly.isFile path
  rw [findAmong?, (IsReadOnly.findM? each).valueIn_bind, valueIn_findM? each]
  simp only [valueIn_isFile]
  cases (configNames.map (join dir)).find? fun path => decide (w.kind? path = some .file) with
  | some path => rfl
  | none =>
      dsimp only
      rw [(IsReadOnly.pathExists _).valueIn_bind, valueIn_pathExists, Option.none_or]
      split
      next => rfl
      next => rfl

theorem place_findAmong? (dirs : List String) :
    (valueIn w (findAmong? dirs)).bind (fun file => (w.place file).toOption) =
      nearest? w.root (dirs.filterMap w.home?) := by
  induction dirs with
  | nil => rfl
  | cons dir rest inductionHypothesis =>
      have config := @place_find? w dir configNames (by decide)
      rw [valueIn_findAmong?_cons, isSome_git]
      cases found : (configNames.map (join dir)).find?
          fun path => decide (w.kind? path = some .file) with
      | some path =>
          rw [found] at config
          have file : w.kind? path = some .file := by simpa using List.find?_some found
          rw [World.kind?_eq] at file
          obtain ⟨place, placed, _⟩ := Option.bind_eq_some_iff.mp file
          rw [Option.bind_some, placed] at config
          obtain ⟨home, leads, configured⟩ := Option.bind_eq_some_iff.mp config.symm
          rw [List.filterMap_cons_some leads, nearest?, configAt?, configured]
          exact placed
      | none =>
          rw [found] at config
          rw [Option.none_or]
          cases home : w.home? dir with
          | none =>
              -- what is no directory neither has a configuration nor ends the search
              rw [List.filterMap_cons_none home]
              exact inductionHypothesis
          | some place =>
              rw [home] at config
              have unconfigured : configAt? w.root place = none := config.symm
              rw [List.filterMap_cons_some home, nearest?, unconfigured, Option.any_some,
                Option.none_or, ← inductionHypothesis]
              split
              next => rfl
              next => rfl

end Search

section Homes

variable {w : World}

/-- The directories in which the search for a path looks. -/
theorem filterMap_home?_ancestors (w : World) (path : String) :
    (ancestors path).filterMap w.home? =
      (upwards (moves path) ++ if leadingDot path then [[]] else []).filterMap
        (w.root.homeFrom (w.start path)) := by
  rw [← map_moves_ancestors, List.filterMap_map]
  refine List.filterMap_congr ?_
  intro dir member
  rw [World.home?, World.start, isAbsolute_of_mem_ancestorsFrom member]
  rfl

theorem projectConfig?_eq (w : World) (path : String) :
    projectConfig? w path = nearest? w.root ((ancestors path).filterMap w.home?) :=
  place_findAmong? w (ancestors path)

/-- The current directory as a path. -/
def currentPath (w : World) : String := valueIn w FileAccess.current

theorem homes_currentPath (settled : w.Settled) {path : String}
    (relative : isAbsolute path = false) :
    (ancestors (join (currentPath w) path)).filterMap w.home? =
      (upwards (w.current ++ moves path)).filterMap (w.root.homeFrom []) := by
  have absolute : isAbsolute (join (currentPath w) path) = true := by
    rw [isAbsolute_join relative]
    exact isAbsolute_of_names w.current
  have led : moves (currentPath w) = w.current := moves_of_names settled.named
  rw [filterMap_home?_ancestors, World.start, absolute, moves_join relative, led,
    leadingDot_of_isAbsolute absolute]
  simp

theorem homes_upwards {names : List String} (root : Entry)
    (named : ∀ name ∈ names, IsName name) :
    (upwards names).filterMap (root.homeFrom []) = (upwards names).filter root.isDirectoryAt := by
  rw [← List.filterMap_eq_filter]
  refine List.filterMap_congr ?_
  intro home member
  rw [Entry.homeFrom_of_names fun name early => named name ((mem_upwards.mp member).subset early),
    Option.filter_some]
  rfl

/-- From the current directory the search goes on to all directories above. -/
theorem projectConfig?_currentPath (settled : w.Settled) {path : String}
    (relative : isAbsolute path = false) :
    projectConfig? w (join (currentPath w) path) =
      nearest? w.root ((ancestors path).filterMap w.home? ++ (upwards w.current).tail) := by
  have starts : w.start path = w.current := by simp [World.start, relative]
  have above : ((upwards w.current).tail).filterMap (w.root.homeFrom []) =
      (upwards w.current).tail := by
    have each : ∀ home ∈ (upwards w.current).tail, w.root.homeFrom [] home = some home := by
      intro home member
      have early := mem_upwards.mp (List.mem_of_mem_tail member)
      rw [Entry.homeFrom_of_names fun name inside => settled.named name (early.subset inside),
        Option.filter_some, if_pos (Entry.isDirectoryAt_of_prefix early settled.directory)]
    rw [List.filterMap_congr each, List.filterMap_some]
  rw [projectConfig?_eq, homes_currentPath settled relative, upwards_append,
    List.filterMap_append, above, List.filterMap_map]
  have shifted : (w.root.homeFrom []) ∘ (w.current ++ ·) = w.root.homeFrom w.current :=
    funext (Entry.homeFrom_append settled.walk_current)
  rw [shifted, filterMap_home?_ancestors, starts, List.filterMap_append]
  split
  next =>
    -- a path with a dot at its start looks into the current directory twice
    have here : w.root.homeFrom w.current [] = some w.current := by
      change (some w.current).filter w.root.isDirectoryAt = _
      rw [Option.filter_some, if_pos settled.directory]
    have member : w.current ∈ (upwards (moves path)).filterMap (w.root.homeFrom w.current) :=
      List.mem_filterMap.mpr ⟨[], mem_upwards.mpr List.nil_prefix, here⟩
    rw [List.filterMap_cons_some here, List.filterMap_nil, List.append_assoc]
    exact (nearest?_revisit member _).symm
  next => rw [List.filterMap_nil, List.append_nil]

theorem any_isRepository_homes (w : World) (dirs : List String) :
    (dirs.filterMap w.home?).any (isRepository w.root) =
      dirs.any fun dir => (w.kind? (join dir ".git")).isSome := by
  induction dirs with
  | nil => rfl
  | cons dir rest inductionHypothesis =>
      rw [List.any_cons, isSome_git, ← inductionHypothesis]
      cases home : w.home? dir with
      | none =>
          rw [List.filterMap_cons_none home]
          rfl
      | some place =>
          rw [List.filterMap_cons_some home, List.any_cons]
          rfl

/-- A path without moves back leads to the place that its names make. -/
theorem current_append_moves (settled : w.Settled) {path : String}
    (relative : isAbsolute path = false) (forward : ".." ∉ pieces path) {place : List String}
    (placed : w.place path = .ok place) :
    (∀ name ∈ w.current ++ moves path, IsName name) ∧ w.current ++ moves path = place := by
  have named : ∀ name ∈ w.current ++ moves path, IsName name := by
    intro name member
    rcases List.mem_append.mp member with current | move
    · exact settled.named name current
    · exact isName_of_mem_moves forward move
  refine ⟨named, ?_⟩
  rw [World.place] at placed
  split at placed
  next => cases placed
  next =>
    rw [World.pathPieces, relative] at placed
    have walked : w.root.walk w.current (moves path) = .ok place := Entry.walk_filter_eq_ok placed
    have whole : w.root.walk [] (w.current ++ moves path) = .ok place := by
      rw [Entry.walk_append, settled.walk_current]
      exact walked
    exact ((Entry.walk_eq_ok_iff_of_names named).mp whole).1

end Homes

/-- A relative path and the same path from the root lead to the same configuration unless
nothing stops the search at the current directory and there is a configuration above it. For
a path without moves back, the one from the root is the nearest in the directories above. -/
theorem projectConfig?_spelling (w : World) (settled : w.Settled) (path : String)
    (relative : isAbsolute path = false) :
    (projectConfig? w path = projectConfig? w (join (currentPath w) path) ↔
        (projectConfig? w path).isSome = true ∨
          (∃ dir ∈ ancestors path, (w.kind? (join dir ".git")).isSome = true) ∨
          nearest? w.root (upwards w.current).tail = none) ∧
      ∀ place, ".." ∉ pieces path → w.place path = .ok place →
        projectConfig? w (join (currentPath w) path) = nearest? w.root (upwards place) := by
  constructor
  · rw [projectConfig?_currentPath settled relative, nearest?_append, any_isRepository_homes,
      ← projectConfig?_eq, ← List.any_eq_true]
    cases projectConfig? w path with
    | some place => simp
    | none =>
        cases (ancestors path).any fun dir => (w.kind? (join dir ".git")).isSome with
        | true => simp
        | false => simp [eq_comm]
  · intro place forward placed
    obtain ⟨named, rfl⟩ := current_append_moves settled relative forward placed
    rw [projectConfig?_eq, homes_currentPath settled relative, homes_upwards w.root named,
      nearest?_filter]

/-- A package far below the configuration of its repository. -/
def repository : World where
  root := .directory [("repo", .directory [
    (".git", .directory []),
    ("archgraph.toml", .file (some "")),
    ("crates", .directory [("app", .directory [])])])]
  current := ["repo", "crates", "app"]

theorem projectConfig?_spelling_repository :
    repository.Settled ∧ isAbsolute "." = false ∧ repository.place "." = .ok repository.current ∧
      projectConfig? repository (join (currentPath repository) ".") =
        nearest? repository.root (upwards repository.current) ∧
      projectConfig? repository "." ≠
        projectConfig? repository (join (currentPath repository) ".") := by
  have settled : repository.Settled := ⟨by decide, by decide⟩
  have placed : repository.place "." = .ok repository.current := by decide +kernel
  obtain ⟨same, nearest⟩ := projectConfig?_spelling repository settled "." (by decide)
  refine ⟨settled, by decide, placed, nearest _ (by decide) placed, ?_⟩
  rw [Ne, same]
  decide +kernel

/-- A package with a configuration of its own in a directory without one. -/
def outerDirectory : World where
  root := .directory [("repo", .directory [
    ("app", .directory [("archgraph.toml", .file (some ""))])])]
  current := ["repo", "app"]

/-- The dot misses the configuration of the repository, and two dots find one that is not
above. -/
theorem projectConfig?_misled :
    projectConfig? repository "." = none ∧
      projectConfig? repository (join (currentPath repository) ".") =
        some ["repo", "archgraph.toml"] ∧
      nearest? repository.root (upwards repository.current) = some ["repo", "archgraph.toml"] ∧
      outerDirectory.place ".." = .ok ["repo"] ∧
      projectConfig? outerDirectory ".." = some ["repo", "app", "archgraph.toml"] ∧
      nearest? outerDirectory.root (upwards ["repo"]) = none := by
  decide +kernel

end Architecture.CommandLine
