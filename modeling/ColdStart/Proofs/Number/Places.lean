/-
This file says what doubles look like in decimal. Few characters are used whatever the
double is, so no mark that stands beside a number is taken for a part of it. A whole
number is written as an integer when no places are asked for, and up to `2 ^ 53` it
reads back; below ten it does so with one place as well.
-/

import ColdStart.Number.Shortest
import ColdStart.Proofs.Number.Decimal

namespace ColdStart

/-! ### Characters -/

/-- The characters with which doubles are written: digits, the signs, the point, the mark of an
exponent, and the letters in the names of the doubles that are not finite. -/
def IsNumeralMark (character : Char) : Prop :=
  character.isDigit ∨ character ∈ ['-', '+', '.', 'e', 'i', 'n', 'f', 'a']

instance (character : Char) : Decidable (IsNumeralMark character) :=
  inferInstanceAs (Decidable (_ ∨ _))

/-- All characters of a text are such that doubles are written with them. -/
def IsNumeralText (text : String) : Prop := ∀ character ∈ text.toList, IsNumeralMark character

instance (text : String) : Decidable (IsNumeralText text) := List.decidableBAll _ _

namespace IsNumeralText

theorem append {front back : String} (first : IsNumeralText front) (second : IsNumeralText back) :
    IsNumeralText (front ++ back) := by
  rw [IsNumeralText, String.toList_append, List.forall_mem_append]
  exact ⟨first, second⟩

/-- Any other character is not in the text. -/
theorem notMem {text : String} (isNumeral : IsNumeralText text) {mark : Char}
    (foreign : ¬ IsNumeralMark mark) : mark ∉ text.toList :=
  fun member => foreign (isNumeral mark member)

theorem ofList {characters : List Char}
    (marks : ∀ character ∈ characters, IsNumeralMark character) :
    IsNumeralText (String.ofList characters) := by
  rwa [IsNumeralText, String.toList_ofList]

end IsNumeralText

theorem isNumeralText_integerText (value : Int) : IsNumeralText (integerText value) :=
  fun _ member => (mem_integerText member).imp_right fun same => by rw [same]; decide

theorem isDigit_of_mem_paddedDigits {width number : Nat} {character : Char}
    (member : character ∈ paddedDigits width number) : character.isDigit := by
  rcases List.mem_append.mp member with padding | digit
  · rw [List.eq_of_mem_replicate padding]
    decide
  · exact isDigit_of_mem_decimal digit

theorem isNumeralText_pointText (places units : Nat) : IsNumeralText (pointText places units) := by
  have digits : ∀ character ∈ paddedDigits (places + 1) units, IsNumeralMark character :=
    fun _ member => .inl (isDigit_of_mem_paddedDigits member)
  rw [pointText]
  split
  · exact .ofList digits
  · refine .ofList fun character member => ?_
    rcases List.mem_append.mp member with before | pointed
    · exact digits character (List.mem_of_mem_take before)
    · rcases List.mem_cons.mp pointed with rfl | behind
      · decide
      · exact digits character (List.mem_of_mem_drop behind)

theorem isNumeralText_exponentText (exponent : Int) : IsNumeralText (exponentText exponent) := by
  refine .append ?_ (.ofList fun _ member => .inl (isDigit_of_mem_paddedDigits member))
  split <;> decide

/-- A layout writes a numeral in place or with an exponent, and either way only in such
characters. -/
theorem isNumeralText_layoutText (layout : NumeralLayout) (numeral : Numeral) :
    IsNumeralText (layout.text numeral) := by
  have digits : ∀ character ∈ Nat.toDigits 10 numeral.digits, IsNumeralMark character :=
    fun _ member => .inl (isDigit_of_mem_decimal member)
  rw [NumeralLayout.text]
  split
  · split
    · refine .append (.ofList fun character member => ?_) (by decide)
      rcases List.mem_append.mp member with digit | zero
      · exact digits character digit
      · rw [List.eq_of_mem_replicate zero]
        decide
    · exact isNumeralText_pointText _ _
  · split
    · next only single =>
      rw [single] at digits
      exact (IsNumeralText.ofList digits).append (isNumeralText_exponentText _)
    · next first rest _ several =>
      rw [several] at digits
      obtain ⟨firstDigit, later⟩ := List.forall_mem_cons.mp digits
      refine (IsNumeralText.ofList ?_).append (isNumeralText_exponentText _)
      exact List.forall_mem_cons.mpr ⟨firstDigit, List.forall_mem_cons.mpr ⟨by decide, later⟩⟩
    · exact isNumeralText_exponentText _

theorem isNumeralText_infinite (negative : Bool) :
    IsNumeralText (if negative then "-inf" else "inf") := by
  cases negative <;> decide

theorem isNumeralText_undefined : IsNumeralText "nan" := by
  decide

theorem isNumeralText_sign (negative : Bool) : IsNumeralText (if negative then "-" else "") := by
  cases negative <;> decide

namespace Binary64

theorem isNumeralText_signedText {magnitudeText : Rat → String}
    (magnitudes : ∀ magnitude, IsNumeralText (magnitudeText magnitude)) (value : Binary64) :
    IsNumeralText (value.signedText magnitudeText) := by
  cases value with
  | infinite negative => exact isNumeralText_infinite negative
  | undefined => exact isNumeralText_undefined
  | finite negative significand exponent =>
    exact (isNumeralText_sign negative).append (magnitudes _)

theorem isNumeralText_fixedText (places : Nat) (value : Binary64) :
    IsNumeralText (value.fixedText places) :=
  value.isNumeralText_signedText fun _ => isNumeralText_pointText _ _

theorem isNumeralText_shortestText (layout : NumeralLayout) (value : Binary64) :
    IsNumeralText (value.shortestText layout) := by
  cases value with
  | infinite negative => exact isNumeralText_infinite negative
  | undefined => exact isNumeralText_undefined
  | finite negative significand exponent =>
    refine (isNumeralText_sign negative).append ?_
    split
    · decide
    · exact isNumeralText_layoutText _ _

end Binary64

/-! ### Whole numbers -/

theorem pointText_zero (units : Nat) : pointText 0 units = decimalText units := by
  have some_digit : 0 < (Nat.toDigits 10 units).length :=
    List.length_pos_iff.mpr Nat.toDigits_ne_nil
  have unpadded : paddedDigits 1 units = Nat.toDigits 10 units := by
    rw [paddedDigits, Nat.sub_eq_zero_of_le some_digit]
    rfl
  rw [pointText, if_pos rfl, unpadded, decimalText]

/-- A whole number up to `2 ^ 53` is written without places as an integer is. -/
theorem fixedText_zero_ofInt (value : Int) (small : value.natAbs ≤ 2 ^ 53) :
    (Binary64.ofInt value).fixedText 0 = integerText value := by
  obtain ⟨significand, exponent, nearest, exact'⟩ := ofInt_whole value small
  have units : decimalUnits (value.natAbs : Rat) (0 : Nat) = value.natAbs := by
    rw [decimalUnits, if_pos (Int.natCast_nonneg 0), Rat.num_natCast, Rat.den_natCast]
    exact roundRatio_mul value.natAbs 1 one_pos
  rw [nearest, Binary64.fixedText, Binary64.signedText, exact', units, pointText_zero,
    ← String.toList_inj, toList_integerText, String.toList_append, decimalText,
    String.toList_ofList, signText]
  by_cases negative : value < 0
  · simp [negative]
  · simp [negative]

/-- Below ten a whole number is read from its text with one place. -/
theorem readBinary64?_fixedText_one (value : Int) (small : value.natAbs < 10) :
    readBinary64? ((Binary64.ofInt value).fixedText 1).toList = some (.ofInt value) := by
  have positive : ∀ digit : Nat, digit < 10 →
      readBinary64? ((Binary64.ofInt digit).fixedText 1).toList = some (.ofInt digit) := by
    decide +kernel
  have negative : ∀ digit : Nat, digit < 10 →
      readBinary64? ((Binary64.ofInt (-digit)).fixedText 1).toList = some (.ofInt (-digit)) := by
    decide +kernel
  obtain ⟨digit, rfl | rfl⟩ := Int.eq_nat_or_neg value
  · exact positive digit (by simpa using small)
  · exact negative digit (by simpa using small)

end ColdStart
