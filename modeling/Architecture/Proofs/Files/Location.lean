import Architecture.Files.Location
import Architecture.Proofs.Name
import Mathlib.Data.List.DropRight
import Mathlib.Data.List.Infix

/-!
# Ancestors of a path

A path makes moves: into an entry by its name, or back by two dots. Its other pieces do not
count. The ancestors of a path take its moves back one by one, whatever they are, so where
a relative path starts, its ancestors end.
-/

namespace Architecture

namespace Text

variable {sep : Char}

theorem segments_append_cons (before after : List Char) :
    segments sep (before ++ sep :: after) = segments sep before ++ segments sep after := by
  induction before with
  | nil => simp [segments]
  | cons c rest inductionHypothesis =>
      obtain ⟨first, others, cut⟩ := exists_segments_eq_cons sep rest
      by_cases separates : c = sep
      · simp [segments, separates, inductionHypothesis]
      · simp [segments, separates, inductionHypothesis, cut]

theorem segments_of_not_mem {cs : List Char} (absent : sep ∉ cs) : segments sep cs = [cs] := by
  induction cs with
  | nil => rfl
  | cons c rest inductionHypothesis =>
      rw [List.mem_cons, not_or] at absent
      simp [segments, Ne.symm absent.1, inductionHypothesis absent.2]

theorem not_mem_of_mem_segments {cs piece : List Char} (member : piece ∈ segments sep cs) :
    sep ∉ piece := by
  induction cs generalizing piece with
  | nil => simp_all [segments]
  | cons c rest inductionHypothesis =>
      obtain ⟨first, others, cut⟩ := exists_segments_eq_cons sep rest
      rw [cut] at inductionHypothesis
      by_cases separates : c = sep
      · simp only [segments, separates, if_true, cut, List.mem_cons] at member
        rcases member with rfl | member
        · exact List.not_mem_nil
        · exact inductionHypothesis (List.mem_cons.mpr member)
      · simp only [segments, separates, if_false, cut, List.mem_cons] at member
        rcases member with rfl | member
        · rw [List.mem_cons, not_or]
          exact ⟨Ne.symm separates, inductionHypothesis List.mem_cons_self⟩
        · exact inductionHypothesis (List.mem_cons_of_mem _ member)

end Text

namespace Files

/-- The lists from which a list comes by adding at its end, the longest first. -/
def upwards {α : Type} (l : List α) : List (List α) := l.inits.reverse

section Upwards

variable {α : Type}

@[simp]
theorem upwards_nil : upwards ([] : List α) = [[]] := rfl

@[simp]
theorem upwards_concat (l : List α) (x : α) : upwards (l ++ [x]) = (l ++ [x]) :: upwards l := by
  simp [upwards, List.inits_append]

theorem mem_upwards {l start : List α} : start ∈ upwards l ↔ start <+: l := by
  simp [upwards]

theorem upwards_append (start l : List α) :
    upwards (start ++ l) = (upwards l).map (start ++ ·) ++ (upwards start).tail := by
  induction l using List.reverseRecOn with
  | nil =>
      induction start using List.reverseRecOn with
      | nil => rfl
      | append_singleton start x _ => simp
  | append_singleton l x inductionHypothesis =>
      rw [← List.append_assoc, upwards_concat, upwards_concat, inductionHypothesis]
      simp

end Upwards

/-- The piece is the name of an entry. -/
def IsName (piece : String) : Prop := '/' ∉ piece.toList ∧ isIdle piece = false ∧ piece ≠ ".."

instance (piece : String) : Decidable (IsName piece) := inferInstanceAs (Decidable (_ ∧ _ ∧ _))

/-- What a path does from where it starts. -/
def moves (path : String) : List String := (pieces path).filter (!isIdle ·)

theorem pieces_append (before after : String) :
    pieces (before ++ "/" ++ after) = pieces before ++ pieces after := by
  have split : (before ++ "/" ++ after).toList = before.toList ++ '/' :: after.toList := by simp
  rw [pieces, split, Text.segments_append_cons, List.map_append]
  rfl

theorem pieces_of_not_mem {piece : String} (single : '/' ∉ piece.toList) :
    pieces piece = [piece] := by
  simp [pieces, Text.segments_of_not_mem single]

theorem exists_pieces_eq_cons (path : String) : ∃ first rest, pieces path = first :: rest := by
  obtain ⟨first, rest, cut⟩ := Text.exists_segments_eq_cons '/' path.toList
  exact ⟨_, _, by rw [pieces, cut, List.map_cons]⟩

theorem not_mem_of_mem_pieces {path piece : String} (member : piece ∈ pieces path) :
    '/' ∉ piece.toList := by
  obtain ⟨cs, cut, rfl⟩ := List.mem_map.mp member
  rw [String.toList_ofList]
  exact Text.not_mem_of_mem_segments cut

theorem pieces_ofPieces {first : String} {rest : List String}
    (single : ∀ piece ∈ first :: rest, '/' ∉ piece.toList) :
    pieces (ofPieces (first :: rest)) = first :: rest := by
  induction rest generalizing first with
  | nil => exact pieces_of_not_mem (single first List.mem_cons_self)
  | cons next others inductionHypothesis =>
      obtain ⟨head, tail⟩ := List.forall_mem_cons.mp single
      have put : ofPieces (first :: next :: others) =
          first ++ "/" ++ ofPieces (next :: others) := rfl
      rw [put, pieces_append, pieces_of_not_mem head, inductionHypothesis tail]
      rfl

theorem isAbsolute_iff {path first : String} {rest : List String}
    (cut : pieces path = first :: rest) : isAbsolute path = true ↔ first = "" ∧ rest ≠ [] := by
  unfold pieces at cut
  unfold isAbsolute
  generalize path.toList = cs at cut ⊢
  cases cs with
  | nil =>
      rw [Text.segments, List.map_singleton, List.cons.injEq] at cut
      simp [← cut.2]
  | cons c cs =>
      obtain ⟨next, others, cutRest⟩ := Text.exists_segments_eq_cons '/' cs
      by_cases separates : c = '/'
      · simp only [Text.segments, separates, if_true, cutRest, List.map_cons,
          List.cons.injEq] at cut
        simp [separates, ← cut.1, ← cut.2]
      · simp only [Text.segments, separates, if_false, cutRest, List.map_cons,
          List.cons.injEq] at cut
        simp [separates, ← cut.1]

/-- Whether the path starts with a dot that its ancestors keep. -/
def leadingDot (path : String) : Bool := (pieces path).head? = some "."

theorem moves_empty : moves "" = [] := rfl

theorem leadingDot_empty : leadingDot "" = false := rfl

theorem filter_rdropWhile (l : List String) :
    (l.rdropWhile isIdle).filter (!isIdle ·) = l.filter (!isIdle ·) := by
  induction l using List.reverseRecOn with
  | nil => rfl
  | append_singleton l x inductionHypothesis =>
      by_cases idle : isIdle x = true
      · simp [idle, inductionHypothesis]
      · simp [idle]

theorem filter_cons_rdropWhile (first : String) (l : List String) :
    (first :: l.rdropWhile isIdle).filter (!isIdle ·) = (first :: l).filter (!isIdle ·) := by
  rw [List.filter_cons, List.filter_cons, filter_rdropWhile]

/-- What is left of a path when its last move is taken back. -/
inductive Retreats (path : String) : Option String → Prop where
  | top (noMoves : moves path = []) (noDot : leadingDot path = false) : Retreats path none
  | dot (noMoves : moves path = []) (dot : leadingDot path = true)
      (relative : isAbsolute path = false) : Retreats path (some "")
  | back {parent move : String} (added : moves path = moves parent ++ [move])
      (sameDot : leadingDot parent = leadingDot path)
      (sameStart : isAbsolute parent = isAbsolute path) : Retreats path (some parent)

theorem parent?_of_trimmed {path first move : String} {others : List String}
    (trims : trimmed (pieces path) = first :: (others ++ [move])) :
    parent? path = some (if trimmed (first :: others) = [""] then "/"
      else ofPieces (trimmed (first :: others))) := by
  rw [parent?, trims]
  cases others with
  | nil =>
      simp only [List.nil_append, List.dropLast_singleton]
      split <;> simp_all
  | cons next rest =>
      have dropped : (next :: (rest ++ [move])).dropLast = next :: rest := by
        rw [← List.cons_append, List.dropLast_concat]
      simp only [List.cons_append, dropped]
      split <;> simp_all

section Retreat

variable {path first move : String} {rest others : List String} (cut : pieces path = first :: rest)

include cut

theorem leadingDot_eq : leadingDot path = decide (first = ".") := by simp [leadingDot, cut]

theorem moves_eq : moves path = (first :: rest.rdropWhile isIdle).filter (!isIdle ·) := by
  rw [moves, cut, filter_cons_rdropWhile]

theorem isAbsolute_eq_false (named : first ≠ "") : isAbsolute path = false := by
  rw [← Bool.not_eq_true, isAbsolute_iff cut]
  exact fun starts => named starts.1

theorem retreats_of_single (single : rest.rdropWhile isIdle = []) :
    Retreats path (parent? path) := by
  have kept := moves_eq cut
  have parent : parent? path = if first = "" then none else some "" := by
    have trims : trimmed (pieces path) = first :: rest.rdropWhile isIdle := by rw [cut]; rfl
    rw [parent?, trims, single]
  rw [single] at kept
  rw [parent]
  by_cases empty : first = ""
  · subst empty
    exact .top kept (leadingDot_eq cut)
  · rw [if_neg empty]
    by_cases dot : first = "."
    · subst dot
      exact .dot kept (leadingDot_eq cut) (isAbsolute_eq_false cut empty)
    · have added : moves path = moves "" ++ [first] := by
        rw [kept, moves_empty]
        simp [isIdle, empty, dot]
      refine .back added ?_ ?_
      · rw [leadingDot_eq cut, leadingDot_empty]
        simp [dot]
      · rw [isAbsolute_eq_false cut empty]
        rfl

theorem retreats_of_concat (last : rest.rdropWhile isIdle = others ++ [move]) :
    Retreats path (parent? path) := by
  have trims : trimmed (pieces path) = first :: (others ++ [move]) := by
    rw [cut, ← last]
    rfl
  have moving : isIdle move = false := by
    have ends := List.rdropWhile_last_not isIdle rest (by simp [last])
    simpa [last] using ends
  have added : moves path = (first :: others.rdropWhile isIdle).filter (!isIdle ·) ++ [move] := by
    rw [moves_eq cut, last, ← List.cons_append, List.filter_append, filter_cons_rdropWhile]
    simp [moving]
  have shorter : trimmed (first :: others) = first :: others.rdropWhile isIdle := rfl
  rw [parent?_of_trimmed trims, shorter]
  have follows : rest ≠ [] := by
    rintro rfl
    simp at last
  -- the root is the one parent that is not its pieces put together
  by_cases rooted : first :: others.rdropWhile isIdle = [""]
  · rw [rooted] at added
    rw [if_pos rooted]
    rw [List.cons.injEq] at rooted
    refine .back added ?_ ?_
    · rw [leadingDot_eq cut, rooted.1]
      rfl
    · rw [(isAbsolute_iff cut).mpr ⟨rooted.1, follows⟩]
      rfl
  · rw [if_neg rooted]
    have single : ∀ piece ∈ first :: others.rdropWhile isIdle, '/' ∉ piece.toList := by
      intro piece member
      refine @not_mem_of_mem_pieces path piece ?_
      rw [cut]
      rcases List.mem_cons.mp member with rfl | member
      · exact List.mem_cons_self
      · have early : piece ∈ rest.rdropWhile isIdle := by
          rw [last]
          exact List.mem_append_left _ ((List.rdropWhile_prefix isIdle _).subset member)
        exact List.mem_cons_of_mem _ ((List.rdropWhile_prefix isIdle _).subset early)
    have cutParent := pieces_ofPieces single
    have addedParent : moves path =
        moves (ofPieces (first :: others.rdropWhile isIdle)) ++ [move] := by
      rw [added, moves, cutParent]
    refine .back addedParent ?_ ?_
    · rw [leadingDot_eq cut, leadingDot_eq cutParent]
    · rw [Bool.eq_iff_iff, isAbsolute_iff cut, isAbsolute_iff cutParent]
      simp only [List.cons.injEq, not_and] at rooted
      constructor
      · exact fun starts => ⟨starts.1, follows⟩
      · exact fun starts => ⟨starts.1, rooted starts.1⟩

end Retreat

theorem retreats_parent? (path : String) : Retreats path (parent? path) := by
  obtain ⟨first, rest, cut⟩ := exists_pieces_eq_cons path
  rcases List.eq_nil_or_concat (rest.rdropWhile isIdle) with single | ⟨others, move, last⟩
  · exact retreats_of_single cut single
  · exact retreats_of_concat cut (by simpa using last)

section Ancestors

theorem map_moves_ancestorsFrom {fuel : Nat} {path : String}
    (enough : (moves path).length + (leadingDot path).toNat ≤ fuel) :
    (ancestorsFrom fuel path).map moves =
      upwards (moves path) ++ if leadingDot path then [[]] else [] := by
  induction fuel generalizing path with
  | zero =>
      have noMoves : moves path = [] := List.length_eq_zero_iff.mp (by omega)
      have noDot : leadingDot path = false := by
        rw [← Bool.toNat_eq_zero]
        omega
      simp [ancestorsFrom, noMoves, noDot]
  | succ fuel inductionHypothesis =>
      have retreats := retreats_parent? path
      rw [ancestorsFrom]
      cases found : parent? path with
      | none =>
          rw [found] at retreats
          obtain ⟨noMoves, noDot⟩ := retreats
          simp [noMoves, noDot]
      | some parent =>
          rw [found] at retreats
          cases retreats with
          | dot noMoves dot _ =>
              have top := @inductionHypothesis "" (Nat.zero_le _)
              rw [moves_empty, leadingDot_empty] at top
              simp [top, noMoves, dot]
          | @back parent move added sameDot _ =>
              have fewer : (moves parent).length + (leadingDot parent).toNat ≤ fuel := by
                rw [added, List.length_append, List.length_singleton, ← sameDot] at enough
                omega
              simp only [List.map_cons, inductionHypothesis fewer, added, sameDot, upwards_concat,
                List.cons_append]

/-- The ancestors of a path take back its moves one by one; only a dot at its start is an
ancestor that takes back nothing. -/
theorem map_moves_ancestors (path : String) :
    (ancestors path).map moves =
      upwards (moves path) ++ if leadingDot path then [[]] else [] := by
  apply map_moves_ancestorsFrom
  obtain ⟨first, rest, cut⟩ := exists_pieces_eq_cons path
  have fewer := List.length_filter_le (!isIdle ·) rest
  rw [leadingDot_eq cut, moves, cut, List.length_cons]
  by_cases dot : first = "."
  · subst dot
    simpa [isIdle] using fewer
  · have atMost := List.length_filter_le (!isIdle ·) (first :: rest)
    simpa [dot] using atMost

theorem isAbsolute_of_mem_ancestorsFrom {fuel : Nat} {path dir : String}
    (member : dir ∈ ancestorsFrom fuel path) : isAbsolute dir = isAbsolute path := by
  induction fuel generalizing path with
  | zero => rw [List.mem_singleton.mp member]
  | succ fuel inductionHypothesis =>
      have retreats := retreats_parent? path
      rw [ancestorsFrom] at member
      cases found : parent? path with
      | none =>
          rw [found] at member
          rw [List.mem_singleton.mp member]
      | some parent =>
          rw [found] at member retreats
          rcases List.mem_cons.mp member with rfl | member
          · rfl
          · rw [inductionHypothesis member]
            cases retreats with
            | dot _ _ relative => exact relative.symm
            | back _ _ sameStart => exact sameStart

end Ancestors

theorem leadingDot_of_isAbsolute {path : String} (absolute : isAbsolute path = true) :
    leadingDot path = false := by
  obtain ⟨first, rest, cut⟩ := exists_pieces_eq_cons path
  rw [leadingDot_eq cut, ((isAbsolute_iff cut).mp absolute).1]
  rfl

section Joining

variable {base path : String}

/-- What stands before a relative path makes the moves of the base. -/
theorem exists_pieces_join (relative : isAbsolute path = false) :
    ∃ before, pieces (join base path) = before ++ pieces path ∧
      before.filter (!isIdle ·) = moves base := by
  rw [join, relative, Bool.false_or]
  by_cases empty : base = ""
  · subst empty
    exact ⟨[], rfl, rfl⟩
  · rw [if_neg (by simpa using empty)]
    split
    next slash =>
      obtain ⟨shorter, rfl⟩ : ∃ shorter, base = shorter ++ "/" := by
        refine ⟨String.ofList base.toList.dropLast, String.toList_injective ?_⟩
        simpa using (List.dropLast_append_getLast? '/' slash).symm
      refine ⟨pieces shorter, pieces_append shorter path, ?_⟩
      have ends : pieces (shorter ++ "/") = pieces shorter ++ [""] := by
        have cut := pieces_append shorter ""
        rwa [String.append_empty] at cut
      rw [moves, ends, List.filter_append]
      simp [isIdle]
    next => exact ⟨pieces base, pieces_append base path, rfl⟩

theorem moves_join (relative : isAbsolute path = false) :
    moves (join base path) = moves base ++ moves path := by
  obtain ⟨before, cut, kept⟩ := @exists_pieces_join base path relative
  rw [moves, cut, List.filter_append, kept]
  rfl

theorem isAbsolute_join (relative : isAbsolute path = false) :
    isAbsolute (join base path) = isAbsolute base := by
  rw [join, relative, Bool.false_or]
  by_cases empty : base = ""
  · subst empty
    exact relative
  · have nonempty : base.toList ≠ [] := by simpa using empty
    rw [if_neg (by simpa using empty)]
    split <;> simp [isAbsolute, List.head?_append, List.head?_eq_some_head nonempty]

end Joining

namespace IsName

variable {name : String} (named : IsName name)

include named

theorem pieces_eq : pieces name = [name] := pieces_of_not_mem named.1

theorem isAbsolute_eq_false : isAbsolute name = false := by
  rw [← Bool.not_eq_true, isAbsolute_iff named.pieces_eq]
  exact fun starts => starts.2 rfl

end IsName

theorem isName_of_mem_moves {path move : String} (forward : ".." ∉ pieces path)
    (member : move ∈ moves path) : IsName move := by
  obtain ⟨piece, counts⟩ := List.mem_filter.mp member
  refine ⟨not_mem_of_mem_pieces piece, by simpa using counts, ?_⟩
  rintro rfl
  exact forward piece

theorem moves_of_names {names : List String} (named : ∀ name ∈ names, IsName name) :
    moves ("/" ++ ofPieces names) = names := by
  have cut : pieces ("/" ++ ofPieces names) = "" :: pieces (ofPieces names) :=
    pieces_append "" (ofPieces names)
  have kept : names.filter (!isIdle ·) = names := by
    rw [List.filter_eq_self]
    intro name member
    simp [(named name member).2.1]
  rw [moves, cut]
  cases names with
  | nil => rfl
  | cons name rest =>
      rw [pieces_ofPieces fun piece member => (named piece member).1,
        List.filter_cons_of_neg (by decide), kept]

theorem isAbsolute_of_names (names : List String) :
    isAbsolute ("/" ++ ofPieces names) = true := by
  simp [isAbsolute]

end Files

end Architecture
