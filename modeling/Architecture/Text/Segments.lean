/-!
Cutting text at a separator.

`splitLast` cuts at the last separator and `segments` at every one. Both work on characters, so
that their laws need nothing but list induction.
-/

namespace Architecture.Text

/-- What stands before and after the last `sep`. -/
def splitLast (sep : Char) : List Char → Option (List Char × List Char)
  | [] => none
  | c :: rest =>
    match splitLast sep rest with
    | some (before, after) => some (c :: before, after)
    | none => if c = sep then some ([], rest) else none

/-- What stands before and after the first `sep`. -/
def splitFirst (sep : Char) : List Char → Option (List Char × List Char)
  | [] => none
  | c :: rest =>
    if c = sep then some ([], rest)
    else (splitFirst sep rest).map fun (before, after) => (c :: before, after)

/-- The pieces between separators: one more than there are separators. -/
def segments (sep : Char) : List Char → List (List Char)
  | [] => [[]]
  | c :: rest =>
    if c = sep then [] :: segments sep rest
    else match segments sep rest with
      | [] => [[c]]
      | first :: others => (c :: first) :: others

/-- Pieces with a separator between neighbours. -/
def join (sep : String) : List String → String
  | [] => ""
  | [piece] => piece
  | piece :: next :: others => piece ++ sep ++ join sep (next :: others)

/-- The lines of a text, without their line feeds. -/
def lines (text : String) : List String :=
  (segments '\n' text.toList).map String.ofList

def replaceChar (old new : Char) (text : String) : String :=
  String.ofList (text.toList.map fun c => if c = old then new else c)

/-- The rest of a text that starts with `head`. -/
def dropHead? (head text : List Char) : Option (List Char) :=
  if head.isPrefixOf text then some (text.drop head.length) else none

/-- Whether `part` stands somewhere in a text. -/
def contains (part : List Char) : List Char → Bool
  | [] => part.isEmpty
  | c :: rest => part.isPrefixOf (c :: rest) || contains part rest

theorem splitLast_append {sep : Char} {cs before after : List Char}
    (split : splitLast sep cs = some (before, after)) : cs = before ++ sep :: after := by
  induction cs generalizing before with
  | nil => cases split
  | cons c rest inductionHypothesis =>
    simp only [splitLast] at split
    split at split
    · next later =>
      cases split
      exact congrArg (c :: ·) (inductionHypothesis later)
    · split at split <;> simp_all

theorem not_mem_of_splitLast_eq_none {sep : Char} {cs : List Char}
    (whole : splitLast sep cs = none) : sep ∉ cs := by
  induction cs with
  | nil => exact List.not_mem_nil
  | cons c rest inductionHypothesis =>
    simp only [splitLast] at whole
    split at whole
    · cases whole
    · next restWhole =>
      split at whole
      · cases whole
      · next differs => simp [inductionHypothesis restWhole, Ne.symm differs]

theorem splitLast_not_mem {sep : Char} {cs before after : List Char}
    (split : splitLast sep cs = some (before, after)) : sep ∉ after := by
  induction cs generalizing before after with
  | nil => cases split
  | cons c rest inductionHypothesis =>
    simp only [splitLast] at split
    split at split
    · next later =>
      cases split
      exact inductionHypothesis later
    · next restWhole =>
      split at split
      · cases split
        exact not_mem_of_splitLast_eq_none restWhole
      · cases split

end Architecture.Text
