/-
This file says what selections of plain text keep. Between its commas such a selection has
the fragments it was joined from. Each of them is a pattern that occurs exactly in the names
that contain it, so a mode is kept when its name contains one of the fragments.
-/

import ColdStart.Proofs.Pattern.Literal
import ColdStart.Proofs.Selection

namespace ColdStart

/-! ### Fragments -/

/-- A text can stand in a selection for itself: it is plain text without a comma, is not empty and
has no blank at either end. -/
structure IsPlainFragment (fragment : String) : Prop where
  nonempty : fragment ≠ ""
  plain : IsPlainText fragment.toList
  noComma : ',' ∉ fragment.toList
  head : ∀ first ∈ fragment.toList.head?, isBlank first = false
  last : ∀ final ∈ fragment.toList.getLast?, isBlank final = false

instance (fragment : String) : Decidable (IsPlainFragment fragment) :=
  decidable_of_iff (fragment ≠ "" ∧ IsPlainText fragment.toList ∧ ',' ∉ fragment.toList ∧
      fragment.toList.head?.all (!isBlank ·) = true ∧
      fragment.toList.getLast?.all (!isBlank ·) = true) <| by
    simp only [Option.all_eq_true, Bool.not_eq_true']
    exact ⟨fun ⟨nonempty, plain, noComma, head, last⟩ => ⟨nonempty, plain, noComma, head, last⟩,
      fun ⟨nonempty, plain, noComma, head, last⟩ => ⟨nonempty, plain, noComma, head, last⟩⟩

theorem IsPlainFragment.isWholeFragment {fragment : String} (isPlain : IsPlainFragment fragment) :
    IsWholeFragment fragment :=
  ⟨isPlain.nonempty, isPlain.noComma, isPlain.head, isPlain.last⟩

variable (names : CharacterNames)

theorem occursIn_naming_iff (text name : String) : (PatternEngine.naming names).OccursIn text name ↔
    ∃ pattern, Pattern.parse names text = .ok pattern ∧ pattern.occursIn name = true := Iff.rfl

/-- A plain fragment is a pattern that occurs in the names that contain it. -/
theorem occursIn_iff_of_isPlainFragment {fragment : String} (isPlain : IsPlainFragment fragment)
    (name : String) :
    (PatternEngine.naming names).OccursIn fragment name ↔ fragment.toList <:+: name.toList := by
  rw [← occursIn_literal, occursIn_naming_iff, parse_of_plain names isPlain.plain]
  simp

section

variable {fragments : List String} (someFragment : fragments ≠ [])
  (plain : ∀ fragment ∈ fragments, IsPlainFragment fragment)

include someFragment plain

theorem fragments_intercalate :
    selectionFragments (",".intercalate fragments) = fragments :=
  selectionFragments_intercalate someFragment fun fragment member =>
    (plain fragment member).isWholeFragment

theorem isSelection_intercalate :
    (PatternEngine.naming names).IsSelection (",".intercalate fragments) := by
  rw [PatternEngine.isSelection_iff, fragments_intercalate someFragment plain]
  exact ⟨someFragment, fun fragment member =>
    ⟨_, parse_of_plain names (plain fragment member).plain⟩⟩

theorem keeps_intercalate_iff (name : String) :
    (PatternEngine.naming names).Keeps (",".intercalate fragments) name ↔
      ∃ fragment ∈ fragments, fragment.toList <:+: name.toList := by
  rw [PatternEngine.keeps_iff, fragments_intercalate someFragment plain]
  exact exists_congr fun fragment => and_congr_right fun member =>
    occursIn_iff_of_isPlainFragment names (plain fragment member) name

end

/-! ### Selecting -/

/-- Plain fragments mean containment. A selection that is joined from one or more plain fragments
is never refused, and it keeps, in their order, exactly the modes whose name contains one of the
fragments, character by character. -/
theorem Matrix.select_plainFragments (matrix : Matrix) {fragments : List String}
    (someFragment : fragments ≠ []) (plain : ∀ fragment ∈ fragments, IsPlainFragment fragment) :
    matrix.select (",".intercalate fragments) (.naming names) = .ok ⟨matrix.modes.filter fun mode =>
      decide (∃ fragment ∈ fragments, fragment.toList <:+: mode.name.toList)⟩ := by
  rw [matrix.select_eq_ok (isSelection_intercalate names someFragment plain)]
  simp only [keeps_intercalate_iff names someFragment plain]

/-- Modes with dashes, quotes, blanks, letters beyond ASCII and marks of patterns in their names. -/
def oddModes : List Mode := [
  { name := "jit-platform" },
  { name := "it's \"fast\" (.*)" },
  { name := "größe \t 世界#1" },
  { name := "JIT-Platform" },
  { name := "x-platform-avx2" }]

theorem Matrix.select_plainFragments_oddModes :
    let fragments := ["-plat", "s \"fa", "ße \t 世", "jit"]
    fragments ≠ [] ∧ (∀ fragment ∈ fragments, IsPlainFragment fragment) ∧
      (Matrix.mk oddModes).select (",".intercalate fragments) = .ok ⟨oddModes.filter fun mode =>
        decide (∃ fragment ∈ fragments, fragment.toList <:+: mode.name.toList)⟩ ∧
      (oddModes.filter fun mode =>
        decide (∃ fragment ∈ fragments, fragment.toList <:+: mode.name.toList)).map (·.name) =
        ["jit-platform", "it's \"fast\" (.*)", "größe \t 世界#1", "x-platform-avx2"] := by
  intro fragments
  have someFragment : fragments ≠ [] := List.cons_ne_nil _ _
  have plain : ∀ fragment ∈ fragments, IsPlainFragment fragment := by decide +kernel
  exact ⟨someFragment, plain, (Matrix.mk oddModes).select_plainFragments _ someFragment plain,
    by decide +kernel⟩

end ColdStart
