import Architecture.Files.Tree
import Architecture.Proofs.Files.Location

/-!
# Where a path leads

Only the moves of a path matter for where it leads, as long as a name stands last. A path
made of names leads to the place that they name.
-/

namespace Architecture.Files

namespace Entry

variable {root : Entry} {start place home : List String}

theorem walk_append (root : Entry) (start before after : List String) :
    root.walk start (before ++ after) =
      (root.walk start before >>= fun place => root.walk place after) := by
  induction before generalizing start with
  | nil => rfl
  | cons piece rest inductionHypothesis =>
      simp only [List.cons_append, walk]
      cases root.find? start with
      | none => rfl
      | some e =>
          cases e with
          | file text => rfl
          | directory entries =>
              dsimp only
              split
              next => exact inductionHypothesis start
              next =>
                split
                next => exact inductionHypothesis start.dropLast
                next =>
                  split
                  next => exact inductionHypothesis (start ++ [piece])
                  next => rfl

/-- A piece that does not count may be left out if a move follows. -/
theorem walk_idle {piece : String} (idle : isIdle piece = true) {rest : List String}
    (follows : rest ≠ []) : root.walk start (piece :: rest) = root.walk start rest := by
  obtain ⟨next, others, rfl⟩ := List.exists_cons_of_ne_nil follows
  rw [walk]
  cases found : root.find? start with
  | none => simp only [walk, found]
  | some e =>
      cases e with
      | file text => simp only [walk, found]
      | directory entries => simp only [idle, if_true]

theorem walk_filter (name : String) (pieces : List String) :
    root.walk start (pieces ++ [name]) = root.walk start (pieces.filter (!isIdle ·) ++ [name]) := by
  induction pieces generalizing start with
  | nil => rfl
  | cons piece rest inductionHypothesis =>
      by_cases idle : isIdle piece = true
      · -- the name that stands last follows in any case
        rw [List.cons_append, walk_idle idle (by simp), inductionHypothesis,
          List.filter_cons_of_neg (by simp [idle])]
      · rw [List.filter_cons_of_pos (by simp [idle])]
        have split : ∀ others : List String,
            piece :: others ++ [name] = [piece] ++ (others ++ [name]) := fun _ => rfl
        rw [split, split, walk_append, walk_append]
        simp only [inductionHypothesis]

theorem find?_append (root : Entry) (before after : List String) :
    root.find? (before ++ after) = (root.find? before).bind (·.find? after) := by
  induction before generalizing root with
  | nil => rfl
  | cons name rest inductionHypothesis =>
      rw [List.cons_append, find?, find?]
      cases root.child? name with
      | none => rfl
      | some e => exact inductionHypothesis e

theorem find?_concat (root : Entry) (home : List String) (name : String) :
    root.find? (home ++ [name]) = (root.find? home).bind (·.child? name) := by
  rw [find?_append]
  cases root.find? home with
  | none => rfl
  | some e => simp [find?]

def isDirectoryAt (root : Entry) (place : List String) : Bool :=
  (root.find? place).any (·.kind = .directory)

def isFileAt (root : Entry) (place : List String) : Bool :=
  (root.find? place).any (·.kind = .file)

/-- Along the way to a directory there are only directories. -/
theorem isDirectoryAt_of_prefix (above : home <+: place)
    (directory : root.isDirectoryAt place = true) : root.isDirectoryAt home = true := by
  obtain ⟨rest, rfl⟩ := above
  rw [isDirectoryAt, find?_append] at directory
  rw [isDirectoryAt]
  cases found : root.find? home with
  | none => simp [found] at directory
  | some e =>
      rw [found] at directory
      cases e with
      | directory entries => rfl
      | file text =>
          cases rest with
          | nil => exact directory
          | cons name others => simp [find?, child?] at directory

/-- A walk that succeeds leads to the same place without the pieces that do not count. -/
theorem walk_filter_eq_ok {pieces : List String} (walked : root.walk start pieces = .ok place) :
    root.walk start (pieces.filter (!isIdle ·)) = .ok place := by
  induction pieces generalizing start with
  | nil => exact walked
  | cons piece rest inductionHypothesis =>
      by_cases idle : isIdle piece = true
      · rw [List.filter_cons_of_neg (by simp [idle])]
        by_cases last : rest = []
        · subst last
          simp only [walk, idle, if_true] at walked
          split at walked
          next => cases walked
          next => cases walked
          next => exact walked
        · rw [walk_idle idle last] at walked
          exact inductionHypothesis walked
      · rw [List.filter_cons_of_pos (by simp [idle])]
        change root.walk start ([piece] ++ _) = _ at walked ⊢
        rw [walk_append] at walked ⊢
        cases first : root.walk start [piece] with
        | error failure =>
            rw [first] at walked
            cases walked
        | ok next =>
            rw [first] at walked
            exact inductionHypothesis walked

/-- The directory to which moves lead, if they do. -/
def homeFrom (root : Entry) (start moves : List String) : Option (List String) :=
  (root.walk start moves).toOption.filter root.isDirectoryAt

/-- A name leads from a directory to its entry of this name. -/
theorem walk_concat {name : String} (named : IsName name) (start moves : List String) :
    (root.walk start (moves ++ [name])).toOption =
      ((root.homeFrom start moves).map (· ++ [name])).filter fun place =>
        (root.find? place).isSome := by
  rw [walk_append, homeFrom]
  cases root.walk start moves with
  | error failure => rfl
  | ok home =>
      change (root.walk home [name]).toOption =
        (((some home).filter root.isDirectoryAt).map (· ++ [name])).filter _
      obtain ⟨_, counts, forward⟩ := named
      rw [Option.filter_some]
      cases found : root.find? home with
      | none => simp [walk, found, isDirectoryAt, Except.toOption]
      | some e =>
          cases e with
          | file text => simp [walk, found, isDirectoryAt, kind, Except.toOption]
          | directory entries =>
              have listed : root.find? (home ++ [name]) = entries.lookup name := by
                rw [find?_concat, found]
                rfl
              cases present : entries.lookup name <;>
                simp [walk, found, isDirectoryAt, kind, counts, forward, listed, present,
                  Except.toOption, Option.filter_some]

theorem isDirectoryAt_of_find?_concat {name : String} {e : Entry}
    (found : root.find? (home ++ [name]) = some e) : root.isDirectoryAt home = true := by
  rw [find?_concat] at found
  obtain ⟨outer, foundOuter, child⟩ := Option.bind_eq_some_iff.mp found
  cases outer with
  | file text => cases child
  | directory entries => simp [isDirectoryAt, foundOuter, kind]

/-- Names lead to the place that they name, if there is one. -/
theorem toOption_walk_of_names {names : List String} (named : ∀ name ∈ names, IsName name) :
    (root.walk [] names).toOption = (some names).filter fun place => (root.find? place).isSome := by
  induction names using List.reverseRecOn with
  | nil => rfl
  | append_singleton home name inductionHypothesis =>
      obtain ⟨before, last⟩ := List.forall_mem_append.mp named
      rw [walk_concat (last name List.mem_cons_self), homeFrom, inductionHypothesis before]
      cases found : root.find? (home ++ [name]) with
      | none =>
          rw [Option.filter_some, Option.filter_some]
          split <;> split <;> simp_all [Option.filter_some]
      | some e =>
          have directory := isDirectoryAt_of_find?_concat found
          have present : (root.find? home).isSome = true := Option.isSome_of_any directory
          simp [Option.filter_some, directory, present, found]

theorem homeFrom_of_names {names : List String} (named : ∀ name ∈ names, IsName name) :
    root.homeFrom [] names = (some names).filter root.isDirectoryAt := by
  rw [homeFrom, toOption_walk_of_names named, Option.filter_some, Option.filter_some]
  by_cases directory : root.isDirectoryAt names = true
  · have found : (root.find? names).isSome = true := Option.isSome_of_any directory
    simp [found, directory, Option.filter_some]
  · split <;> simp [directory, Option.filter_some]

theorem homeFrom_append (arrives : root.walk [] home = .ok home) (moves : List String) :
    root.homeFrom [] (home ++ moves) = root.homeFrom home moves := by
  rw [homeFrom, walk_append, arrives]
  rfl

theorem walk_eq_ok_iff_of_names {names : List String} (named : ∀ name ∈ names, IsName name) :
    root.walk [] names = .ok place ↔ names = place ∧ (root.find? names).isSome = true := by
  have led := @toOption_walk_of_names root names named
  rw [Option.filter_some] at led
  cases walked : root.walk [] names with
  | error failure =>
      rw [walked] at led
      split at led
      next => cases led
      next missing => simp [missing]
  | ok reached =>
      rw [walked] at led
      split at led
      next present =>
        cases led
        simp [present]
      next => cases led

end Entry

/-- The current directory exists. -/
structure World.Settled (w : World) : Prop where
  named : ∀ name ∈ w.current, IsName name
  directory : w.root.isDirectoryAt w.current = true

namespace World

variable {w : World} {dir name : String}

theorem Settled.walk_current (settled : w.Settled) : w.root.walk [] w.current = .ok w.current :=
  (Entry.walk_eq_ok_iff_of_names settled.named).mpr ⟨rfl, Option.isSome_of_any settled.directory⟩

/-- Where the moves of a path start. -/
def start (w : World) (path : String) : List String := if isAbsolute path then [] else w.current

/-- The directory to which a path leads, if it does. -/
def home? (w : World) (path : String) : Option (List String) :=
  w.root.homeFrom (w.start path) (moves path)

theorem place_join (named : IsName name) :
    w.place (join dir name) = w.root.walk (w.start dir) (moves dir ++ [name]) := by
  have relative := named.isAbsolute_eq_false
  obtain ⟨before, cut, kept⟩ := @exists_pieces_join dir name relative
  rw [named.pieces_eq] at cut
  have nonempty : join dir name ≠ "" := by
    intro empty
    have last := congrArg List.getLast? (cut.symm.trans (congrArg pieces empty))
    rw [List.getLast?_concat] at last
    cases last
    exact absurd named.2.1 (by decide)
  rw [place, if_neg nonempty, pathPieces, isAbsolute_join relative]
  change w.root.walk _ (pieces (join dir name)) = _
  rw [cut, Entry.walk_filter, kept]
  rfl

theorem toOption_place_join (named : IsName name) :
    (w.place (join dir name)).toOption =
      ((w.home? dir).map (· ++ [name])).filter fun place => (w.root.find? place).isSome := by
  rw [place_join named, Entry.walk_concat named]
  rfl

theorem kind?_eq (w : World) (path : String) :
    w.kind? path = (w.place path).toOption.bind fun place => (w.root.find? place).map (·.kind) := by
  rw [kind?, entry]
  cases w.place path with
  | error failure => rfl
  | ok place =>
      simp only [bind, Except.bind]
      cases found : w.root.find? place with
      | none => simp [found, Except.map, Except.toOption]
      | some e => simp [found, Except.map, Except.toOption]

theorem kind?_join (named : IsName name) :
    w.kind? (join dir name) =
      (w.home? dir).bind fun home => (w.root.find? (home ++ [name])).map (·.kind) := by
  rw [kind?_eq, toOption_place_join named]
  cases w.home? dir with
  | none => rfl
  | some home =>
      rw [Option.map_some, Option.filter_some]
      cases found : w.root.find? (home ++ [name]) <;> simp [found]

end World

end Architecture.Files
