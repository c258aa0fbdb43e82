import Architecture.Text.Blank
import Mathlib.Data.List.DropRight

/-!
# Trimmed text

Trimming takes the blanks away from the two ends of a text. It leaves nothing exactly when the
text has nothing but blanks, and what it leaves has no blank at either end.
-/

namespace Architecture.Text

/-- The text has a character that is not blank. -/
def NotBlank (text : String) : Prop := ∃ c ∈ text.toList, isBlank c = false

instance (text : String) : Decidable (NotBlank text) :=
  decidable_of_iff (text.toList.any (!isBlank ·) = true) (by simp [NotBlank])

/-- The text has characters, and neither the first nor the last of them is blank. -/
structure IsTrimmed (text : String) : Prop where
  nonempty : text.toList ≠ []
  first : isBlank (text.toList.head nonempty) = false
  last : isBlank (text.toList.getLast nonempty) = false

variable {text : String}

theorem toList_trim (text : String) :
    (trim text).toList = (text.toList.dropWhile isBlank).rdropWhile isBlank := by
  rw [trim, String.toList_ofList]
  rfl

theorem toList_trim_ne_nil_iff : (trim text).toList ≠ [] ↔ NotBlank text := by
  rw [toList_trim, Ne, List.rdropWhile_eq_nil_iff]
  constructor
  · intro left
    by_contra blank
    apply left
    intro c member
    by_contra visible
    exact blank ⟨c, (List.dropWhile_suffix isBlank).subset member, by simpa using visible⟩
  · rintro ⟨c, member, visible⟩ blank
    rw [← List.takeWhile_append_dropWhile (p := isBlank) (l := text.toList),
      List.mem_append] at member
    have isBlank : isBlank c = true := member.elim List.mem_takeWhile_imp (blank c)
    cases visible.symm.trans isBlank

theorem trim_ne_empty_iff : trim text ≠ "" ↔ NotBlank text := by
  rw [← toList_trim_ne_nil_iff, Ne, Ne, String.toList_eq_nil_iff]

theorem isTrimmed_trim (visible : NotBlank text) : IsTrimmed (trim text) := by
  have left := toList_trim_ne_nil_iff.mpr visible
  refine ⟨left, ?_, ?_⟩
  · -- What is cut off at the end comes after the first character.
    simp only [toList_trim] at left ⊢
    rw [(List.rdropWhile_prefix isBlank _).head left]
    exact List.head_dropWhile_not isBlank _
  · simp only [toList_trim] at left ⊢
    exact Bool.eq_false_iff.mpr (List.rdropWhile_last_not isBlank _ left)

end Architecture.Text
