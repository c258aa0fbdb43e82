import Architecture.Name
import Mathlib.Order.Defs.Unbundled

/-!
# Order and nesting of names

Sorting a list and dropping what is there twice gives a strictly increasing list of
the same elements. One namespace contains another if its segments are the first of
the other's segments, so what contains one namespace forms a chain. A name that was read
from a text can be read again from its full form, which is that text, unless the text has
its only dot in front.
-/

namespace Architecture

section Order

variable {α : Type} [Ord α] [DecidableEq α]

@[simp]
theorem mem_sortedDistinct {xs : List α} {a : α} : a ∈ sortedDistinct xs ↔ a ∈ xs := by
  simp [sortedDistinct]

variable [Std.TransOrd α] [Std.LawfulEqOrd α]

theorem pairwise_eraseDups {xs : List α} (sorted : xs.Pairwise fun a b => (compare a b).isLE) :
    xs.eraseDups.Pairwise fun a b => compare a b = .lt := by
  match xs with
  | [] => simp
  | x :: rest =>
      rcases List.pairwise_cons.mp sorted with ⟨least, restSorted⟩
      rw [List.eraseDups_cons]
      refine List.pairwise_cons.mpr ⟨?_, pairwise_eraseDups (restSorted.filter _)⟩
      intro y member
      rw [List.mem_eraseDups, List.mem_filter] at member
      have differs : compare x y ≠ .eq := by
        intro equal
        have same := Std.LawfulEqCmp.eq_of_compare equal
        simp [same] at member
      exact (Ordering.isLE_iff_eq_lt_or_eq_eq.mp (least y member.1)).resolve_right differs
termination_by xs.length
decreasing_by exact Nat.lt_succ_of_le (List.length_filter_le _ _)

theorem sortedDistinct_pairwise (xs : List α) :
    (sortedDistinct xs).Pairwise fun a b => compare a b = .lt := by
  apply pairwise_eraseDups
  apply List.pairwise_mergeSort
  · exact fun a b c first second => Std.TransCmp.isLE_trans first second
  · intro a b
    rw [Bool.or_eq_true, ← Std.OrientedCmp.isGE_iff_isLE (a := a)]
    cases compare a b <;> simp

omit [DecidableEq α] [Std.TransOrd α] in
theorem ne_of_compare_lt {a b : α} (less : compare a b = .lt) : a ≠ b := by
  rintro rfl
  have equal : compare a a = .eq := Std.ReflCmp.compare_self
  rw [equal] at less
  cases less

/-- What a sorted list without repetitions looks like depends on its elements only. -/
theorem sortedDistinct_congr {xs ys : List α} (same : ∀ a, a ∈ xs ↔ a ∈ ys) :
    sortedDistinct xs = sortedDistinct ys := by
  have xsSorted := sortedDistinct_pairwise xs
  have ysSorted := sortedDistinct_pairwise ys
  have elements : (sortedDistinct xs).Perm (sortedDistinct ys) := by
    rw [List.perm_ext_iff_of_nodup (xsSorted.imp ne_of_compare_lt) (ysSorted.imp ne_of_compare_lt)]
    simpa using same
  refine elements.eq_of_pairwise ?_ xsSorted ysSorted
  intro a b _ _ less greater
  exact absurd rfl (ne_of_compare_lt (Std.TransCmp.lt_trans less greater))

end Order

namespace Text

theorem exists_segments_eq_cons (sep : Char) (cs : List Char) :
    ∃ first others, segments sep cs = first :: others := by
  cases cs with
  | nil => exact ⟨[], [], rfl⟩
  | cons c rest =>
      simp only [segments]
      split
      · exact ⟨_, _, rfl⟩
      · split
        · exact ⟨_, _, rfl⟩
        · exact ⟨_, _, rfl⟩

theorem segments_prefix_iff (sep : Char) (outer inner : List Char) :
    segments sep outer <+: segments sep inner ↔ inner = outer ∨ outer ++ [sep] <+: inner := by
  induction outer generalizing inner with
  | nil =>
      cases inner with
      | nil => simp [segments]
      | cons d rest =>
          rcases exists_segments_eq_cons sep rest with ⟨first, others, cut⟩
          by_cases separates : d = sep
          · simp [segments, separates]
          · simp [segments, separates, cut, Ne.symm separates]
  | cons c outer inductionHypothesis =>
      rcases exists_segments_eq_cons sep outer with ⟨outerFirst, outerOthers, outerCut⟩
      cases inner with
      | nil =>
          by_cases separates : c = sep
          · simp [segments, separates, outerCut]
          · simp [segments, separates, outerCut]
      | cons d rest =>
          rcases exists_segments_eq_cons sep rest with ⟨first, others, cut⟩
          have follow := inductionHypothesis rest
          by_cases outerSeparates : c = sep
          · by_cases separates : d = sep
            · simpa [segments, outerSeparates, separates] using follow
            · simp [segments, outerSeparates, separates, cut, Ne.symm separates]
          · by_cases separates : d = sep
            · subst separates
              simp [segments, outerSeparates, outerCut, Ne.symm outerSeparates]
            · rw [outerCut, cut] at follow
              simp only [List.cons_prefix_cons] at follow
              simp [segments, outerSeparates, separates, outerCut, cut, follow, and_assoc,
                and_or_left, eq_comm]

theorem segments_eq_splitOn (sep : Char) (cs : List Char) : segments sep cs = cs.splitOn sep := by
  induction cs with
  | nil => rfl
  | cons c rest inductionHypothesis =>
      rcases exists_segments_eq_cons sep rest with ⟨first, others, cut⟩
      rw [List.splitOn, List.splitOnP_cons_eq_if_modifyHead, ← List.splitOn,
        ← inductionHypothesis, segments]
      by_cases separates : c = sep
      · simp [separates]
      · simp [separates, cut]

theorem splitLast_eq_none_of_not_mem {sep : Char} {cs : List Char} (absent : sep ∉ cs) :
    splitLast sep cs = none := by
  cases split : splitLast sep cs with
  | none => rfl
  | some parts =>
      rcases parts with ⟨before, after⟩
      rw [splitLast_append split] at absent
      simp at absent

theorem splitLast_append_cons {sep : Char} {after : List Char} (absent : sep ∉ after)
    (before : List Char) : splitLast sep (before ++ sep :: after) = some (before, after) := by
  induction before with
  | nil => simp [splitLast, splitLast_eq_none_of_not_mem absent]
  | cons c rest inductionHypothesis =>
      rw [List.cons_append, splitLast, inductionHypothesis]

end Text

theorem namespaceContains_some_iff (outer inner : String) :
    namespaceContains outer (some inner) = true ↔
      Text.segments '.' outer.toList <+: Text.segments '.' inner.toList := by
  rw [Text.segments_prefix_iff]
  simp [namespaceContains, String.toList_inj]

/-- Containment of namespaces is the order of their lists of segments by prefix: a partial
order, in which any two namespaces that contain a third one are comparable. -/
theorem namespaceContains_prefixOrder :
    (∀ outer inner : String, namespaceContains outer (some inner) = true ↔
        outer.toList.splitOn '.' <+: inner.toList.splitOn '.') ∧
      IsPartialOrder String (fun outer inner => namespaceContains outer (some inner) = true) ∧
      ∀ outer other inner : String, namespaceContains outer (some inner) = true →
        namespaceContains other (some inner) = true →
        namespaceContains outer (some other) = true ∨
          namespaceContains other (some outer) = true := by
  have isPrefix (outer inner : String) : namespaceContains outer (some inner) = true ↔
      outer.toList.splitOn '.' <+: inner.toList.splitOn '.' := by
    rw [namespaceContains_some_iff, Text.segments_eq_splitOn, Text.segments_eq_splitOn]
  have joined (space : String) : ['.'].intercalate (space.toList.splitOn '.') = space.toList :=
    List.intercalate_splitOn '.'
  refine ⟨isPrefix, ?_, ?_⟩
  · simp only [isPrefix]
    exact {
      refl := fun _ => List.prefix_refl _
      trans := fun _ _ _ => List.IsPrefix.trans
      antisymm := by
        intro outer inner below above
        have sameSegments := below.eq_of_length_le above.length_le
        rw [← String.toList_inj, ← joined outer, sameSegments, joined inner] }
  · simp only [isPrefix]
    intro outer other inner first second
    exact List.prefix_or_prefix_of_prefix first second

-- A dot at either end leaves an empty segment there.
example : namespaceContains "" (some ".App") = true ∧ namespaceContains "App" (some "App.") = true ∧
    namespaceContains "" (some "App") = false := by decide

/-- The name has a namespace, and this begins with the segments of another. -/
def TypeName.LiesIn (n : TypeName) (outer : String) : Prop :=
  ∃ space, n.space = some space ∧
    Text.segments '.' outer.toList <+: Text.segments '.' space.toList

theorem TypeName.liesIn_iff (n : TypeName) (outer : String) :
    n.LiesIn outer ↔ namespaceContains outer n.space = true := by
  cases present : n.space with
  | none => simp [LiesIn, present, namespaceContains]
  | some space => simp [LiesIn, present, namespaceContains_some_iff]

/-- A name that is read from some text. -/
def TypeName.IsParsed (n : TypeName) : Prop := ∃ text, parse text = n

namespace TypeName

theorem parse_of_not_mem {text : String} (plain : '.' ∉ text.toList) :
    parse text = inSpace none text := by
  rw [parse, Text.splitLast_eq_none_of_not_mem plain]

theorem parse_append {simple : String} (plain : '.' ∉ simple.toList) (space : String) :
    parse (space ++ "." ++ simple) = inSpace (some space) simple := by
  have split : Text.splitLast '.' (space ++ "." ++ simple).toList =
      some (space.toList, simple.toList) := by
    rw [← Text.splitLast_append_cons plain]
    simp
  simp only [parse, split, String.ofList_toList]

theorem isParsed_inSpace {simple : String} (plain : '.' ∉ simple.toList)
    (space : Option String) : (inSpace space simple).IsParsed := by
  cases space with
  | none => exact ⟨simple, parse_of_not_mem plain⟩
  | some space => exact ⟨space ++ "." ++ simple, parse_append plain space⟩

/-- A dot stands in front of the text, and there is no other. -/
def DotInFront (text : String) : Prop :=
  ∃ simple : String, '.' ∉ simple.toList ∧ text = "." ++ simple

theorem parse_dotted {simple : String} (plain : '.' ∉ simple.toList) :
    parse ("." ++ simple) = inSpace none simple := by
  have named : parse ("" ++ "." ++ simple) = inSpace none simple := parse_append plain ""
  rwa [String.empty_append] at named

theorem full_parse_dotted {simple : String} (plain : '.' ∉ simple.toList) :
    (parse ("." ++ simple)).full = simple := by
  rw [parse_dotted plain]
  rfl

theorem full_parse_of_not_dotInFront {text : String} (kept : ¬ DotInFront text) :
    (parse text).full = text := by
  cases split : Text.splitLast '.' text.toList with
  | none =>
      rw [parse, split]
      rfl
  | some parts =>
      rcases parts with ⟨before, after⟩
      have whole := Text.splitLast_append split
      have plain := Text.splitLast_not_mem split
      cases before with
      | nil =>
          refine absurd ⟨String.ofList after, ?_, ?_⟩ kept
          · rwa [String.toList_ofList]
          · rw [← String.toList_inj, whole]
            simp
      | cons c before =>
          rw [← String.toList_inj, parse, split, whole]
          simp [inSpace, full, Option.filter]

/-- A name that was read once is read again from its full form. -/
theorem parse_full {n : TypeName} (parsed : n.IsParsed) : parse n.full = n := by
  rcases parsed with ⟨text, rfl⟩
  by_cases inFront : DotInFront text
  · rcases inFront with ⟨simple, plain, rfl⟩
    rw [full_parse_dotted plain, parse_of_not_mem plain, parse_dotted plain]
  · rw [full_parse_of_not_dotInFront inFront]

/-- A name that was read is read again from its full form, so no other name has this form. The
form is the text that was read, unless its only dot stands in front; that dot is lost. A name
that is put together from any namespace and a simple name without dots is read again, too. -/
theorem parse_canonical :
    (∀ text, parse (parse text).full = parse text) ∧
      (∀ text other, (parse text).full = (parse other).full → parse text = parse other) ∧
      (∀ text, (parse text).full = text ↔ ¬ DotInFront text) ∧
      (∀ simple : String, '.' ∉ simple.toList → (parse ("." ++ simple)).full = simple) ∧
      ∀ (space : Option String) (simple : String), '.' ∉ simple.toList →
        parse (inSpace space simple).full = inSpace space simple := by
  have again (text : String) : parse (parse text).full = parse text := parse_full ⟨text, rfl⟩
  refine ⟨again, ?_, ?_, ?_, ?_⟩
  · intro text other same
    rw [← again text, same, again other]
  · intro text
    constructor
    · rintro whole ⟨simple, plain, rfl⟩
      rw [full_parse_dotted plain, ← String.toList_inj] at whole
      simp at whole
    · exact full_parse_of_not_dotInFront
  · exact fun _ => full_parse_dotted
  · exact fun space _ plain => parse_full (isParsed_inSpace plain space)

end TypeName

end Architecture
