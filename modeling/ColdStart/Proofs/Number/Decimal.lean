/-
This file shows that an integer written in decimal reads back as itself: as an
integer while it has no more digits than one may have, and as a double while its
magnitude is at most `2 ^ 53`, the point up to which every integer is a double.
In that range rounding never moves a number, so the detour through doubles that
reading a time takes loses nothing.
-/

import ColdStart.Number.Quantity
import ColdStart.Number.Reading
import ColdStart.Proofs.Number.Nearest
import ColdStart.Proofs.Text.Trimming
import ColdStart.Text.Columns
import Mathlib.Data.List.TakeWhile
import Mathlib.Tactic.NormNum
import Mathlib.Tactic.Ring

namespace ColdStart

/-! ### Digits -/

/-- What a digit from `0` to `9` is worth. -/
theorem digitValue?_of_isDigit {character : Char} (digit : character.isDigit) :
    digitValue? character = some (character.toNat - '0'.toNat) := by
  obtain ⟨low, high⟩ := Char.isDigit_iff_toNat.mp digit
  have found : (48 ≤ character.toNat ∧ character.toNat < 48 + 10) :=
    ⟨low, Nat.lt_succ_of_le high⟩
  simp [digitValue?, digitZeros, found]

/-- The values of the digits from `0` to `9` in a text of such digits. -/
def plainDigits (characters : List Char) : List Nat :=
  characters.map fun character => character.toNat - '0'.toNat

theorem digitRun_of_isDigit {characters : List Char}
    (digits : ∀ character ∈ characters, character.isDigit) :
    digitRun characters = (plainDigits characters, []) := by
  induction characters with
  | nil => rfl
  | cons first rest inductionHypothesis =>
    have value := digitValue?_of_isDigit (digits first List.mem_cons_self)
    have later := inductionHypothesis fun other member =>
      digits other (List.mem_cons_of_mem _ member)
    have noScore : ∀ next others, rest = '_' :: next :: others → False := by
      rintro next others rfl
      exact absurd (digits '_' (by simp)) (by decide)
    rw [digitRun.eq_3 _ _ noScore]
    simp [value, later, plainDigits]

theorem ofDigits_plainDigits (characters : List Char) :
    ofDigits (plainDigits characters) = Nat.ofDigitChars 10 characters 0 := by
  rw [ofDigits, plainDigits, List.foldl_map, Nat.ofDigitChars_eq_foldl]

theorem isDigit_of_mem_decimal {number : Nat} {character : Char}
    (member : character ∈ Nat.toDigits 10 number) : character.isDigit :=
  Nat.isDigit_of_mem_toDigits (by decide) (by decide) member

theorem digitRun_decimal (number : Nat) :
    digitRun (Nat.toDigits 10 number) = (plainDigits (Nat.toDigits 10 number), []) :=
  digitRun_of_isDigit fun _ member => isDigit_of_mem_decimal member

theorem ofDigits_decimal (number : Nat) :
    ofDigits (plainDigits (Nat.toDigits 10 number)) = number := by
  rw [ofDigits_plainDigits, Nat.ofDigitChars_ten_toDigits]

theorem plainDigits_decimal_ne_nil (number : Nat) :
    plainDigits (Nat.toDigits 10 number) ≠ [] := by
  simp [plainDigits]

/-! ### The text of an integer -/

/-- The sign in front of an integer's digits. -/
def signText (value : Int) : List Char := if value < 0 then ['-'] else []

/-- An integer is written as its sign and the digits of its magnitude. -/
theorem toList_integerText (value : Int) :
    (integerText value).toList = signText value ++ Nat.toDigits 10 value.natAbs := by
  rw [integerText, Int.toString_eq_repr, Int.repr_eq_if, signText]
  by_cases negative : value < 0
  · rw [if_neg (by omega), if_pos negative, String.toList_append, Nat.toList_repr,
      show (-value).toNat = value.natAbs by omega]
    rfl
  · rw [if_pos (by omega), if_neg negative, Nat.toList_repr,
      show value.toNat = value.natAbs by omega, List.nil_append]

/-- Every character of an integer's text is a digit or the sign. -/
theorem mem_integerText {value : Int} {character : Char}
    (member : character ∈ (integerText value).toList) :
    character.isDigit ∨ character = '-' := by
  rw [toList_integerText, List.mem_append] at member
  rcases member with sign | digit
  · rw [signText] at sign
    split at sign
    · exact .inr (List.mem_singleton.mp sign)
    · cases sign
  · exact .inl (isDigit_of_mem_decimal digit)

theorem splitSign_integerText (value : Int) :
    splitSign (integerText value).toList =
      (decide (value < 0), Nat.toDigits 10 value.natAbs) := by
  rw [toList_integerText, signText]
  by_cases negative : value < 0
  · rw [if_pos negative, decide_eq_true negative]
    rfl
  · rw [if_neg negative, decide_eq_false negative, List.nil_append]
    cases digits : Nat.toDigits 10 value.natAbs with
    | nil => exact absurd digits Nat.toDigits_ne_nil
    | cons first rest =>
      have digit : first.isDigit := isDigit_of_mem_decimal (digits ▸ List.mem_cons_self)
      rw [splitSign]
      · rintro others equal
        rw [(List.cons.inj equal).1] at digit
        exact absurd digit (by decide)
      · rintro others equal
        rw [(List.cons.inj equal).1] at digit
        exact absurd digit (by decide)

/-- No blank is a digit or a sign. -/
theorem isBlank_of_numeral {character : Char} (numeral : character.isDigit ∨ character = '-') :
    isBlank character = false := by
  rcases numeral with digit | rfl
  · obtain ⟨low, high⟩ := Char.isDigit_iff_toNat.mp digit
    have between : 48 ≤ character.toNat ∧ character.toNat ≤ 57 := ⟨low, high⟩
    simp only [isBlank, blankRanges, CodeRanges.contains]
    rw [if_neg (by omega), if_neg (by omega), if_neg (by omega), if_neg (by omega),
      if_pos (by omega)]
  · decide

theorem isNumeralBlank_of_numeral {character : Char}
    (numeral : character.isDigit ∨ character = '-') : isNumeralBlank character = false := by
  rw [isNumeralBlank, isBlank_of_numeral numeral, Bool.false_and]

theorem trimWhere_integerText {drop : Char → Bool} (value : Int)
    (keeps : ∀ character : Char, character.isDigit ∨ character = '-' → drop character = false) :
    trimWhere drop (integerText value).toList = (integerText value).toList := by
  refine trimWhere_eq_self (fun first member => ?_) (fun final member => ?_)
  · exact keeps first (mem_integerText (List.mem_of_mem_head? member))
  · exact keeps final (mem_integerText (List.mem_of_mem_getLast? member))

/-- An integer reads back from its text while it has no more digits than one may have. -/
theorem readInteger?_integerText (value : Int) (short : value.natAbs < 10 ^ integerDigitLimit) :
    readInteger? (integerText value).toList = some value := by
  have fits : (plainDigits (Nat.toDigits 10 value.natAbs)).length ≤ integerDigitLimit := by
    rw [plainDigits, List.length_map]
    exact (Nat.length_toDigits_le_iff (by decide) (by decide)).mpr short
  have some_digits : (plainDigits (Nat.toDigits 10 value.natAbs)).isEmpty = false :=
    List.isEmpty_eq_false_iff.mpr (plainDigits_decimal_ne_nil _)
  rw [readInteger?, trimWhere_integerText value fun _ => isNumeralBlank_of_numeral,
    splitSign_integerText]
  simp only [digitRun_decimal, some_digits, ofDigits_decimal, List.isEmpty_nil, Bool.not_true,
    Bool.or_false, Bool.false_or, decide_eq_true_eq, not_lt.mpr fits, if_false]
  split
  · next negative => congr 1; omega
  · next negative => congr 1; omega

/-! ### Whole numbers as doubles -/

theorem scaled_nonneg (significand : Nat) (exponent : Int) :
    0 ≤ Binary64.scaled significand exponent := by
  rw [Binary64.scaled]
  split
  · exact Nat.cast_nonneg _
  · rw [Rat.mkRat_eq_div]
    exact div_nonneg (by simp) (Nat.cast_nonneg _)

theorem scaled_zero (exponent : Int) : Binary64.scaled 0 exponent = 0 := by
  rw [Binary64.scaled]
  split <;> simp

/-- The whole part of a double is its exact value with the fraction dropped. -/
theorem toWhole_eq_ok_iff (value : Binary64) (whole : Int) :
    value.toWhole = .ok whole ↔ value.truncate? = some whole := by
  cases value with
  | infinite negative => simp [Binary64.toWhole, Binary64.truncate?, Binary64.toRat?]
  | undefined => simp [Binary64.toWhole, Binary64.truncate?, Binary64.toRat?]
  | finite negative significand exponent =>
    have nonneg : 0 ≤ (Binary64.scaled significand exponent).num :=
      Rat.num_nonneg.mpr (scaled_nonneg significand exponent)
    have below : (Binary64.scaled significand exponent).floor =
        (Binary64.scaled significand exponent).num.tdiv
          (Binary64.scaled significand exponent).den := by
      rw [Rat.floor_def, Int.tdiv_eq_ediv_of_nonneg nonneg]
    cases negative <;>
      simp [Binary64.toWhole, Binary64.truncate?, Binary64.toRat?, below]

/-- A whole number up to `2 ^ 53` is not rounded. -/
theorem nearestMagnitude_whole {number : Nat} (small : number ≤ 2 ^ 53) :
    Binary64.nearestMagnitude number 1 = number := by
  obtain inside | rfl := small.lt_or_eq
  · have double : Binary64.nearestMagnitude number 1 = number * 2 ^ (0 : Int) :=
      Binary64.nearestMagnitude_of_ratio one_pos inside (by decide) (by simp)
    rwa [zpow_zero, mul_one] at double
  · -- The edge itself takes one bit more, so it is counted in twos.
    have double : Binary64.nearestMagnitude (2 ^ 53) 1 = (2 ^ 52 : Nat) * 2 ^ (1 : Int) :=
      Binary64.nearestMagnitude_of_ratio one_pos (by norm_num) (by decide) (by norm_num)
    rw [double]
    norm_num

/-- The double of a whole number up to `2 ^ 53` is its sign and its magnitude. -/
theorem ofInt_whole (value : Int) (small : value.natAbs ≤ 2 ^ 53) :
    ∃ significand exponent, Binary64.ofInt value =
      .finite (decide (value < 0)) significand exponent ∧
        Binary64.scaled significand exponent = value.natAbs := by
  obtain ⟨significand, exponent, rounded, magnitude⟩ := Binary64.exists_ofRatio_eq one_pos
    (by rw [Nat.mul_one]; exact Binary64.lt_limit small) (decide (value < 0))
  rw [Binary64.ofInt, rounded]
  exact ⟨significand, exponent, rfl, magnitude.trans (nearestMagnitude_whole small)⟩

theorem toRat?_ofInt (value : Int) (small : value.natAbs ≤ 2 ^ 53) :
    (Binary64.ofInt value).toRat? = some (value : Rat) := by
  obtain ⟨significand, exponent, nearest, exact'⟩ := ofInt_whole value small
  rw [nearest, Binary64.toRat?, exact']
  by_cases negative : value < 0
  · have magnitude : ((value.natAbs : Int) : Rat) = -(value : Rat) := by
      rw [Int.ofNat_natAbs_of_nonpos negative.le, Int.cast_neg]
    rw [Int.cast_natCast] at magnitude
    simp [negative, magnitude]
  · have magnitude : ((value.natAbs : Int) : Rat) = (value : Rat) := by
      rw [Int.natAbs_of_nonneg (not_lt.mp negative)]
    rw [Int.cast_natCast] at magnitude
    simp [negative, magnitude]

theorem truncate?_ofInt (value : Int) (small : value.natAbs ≤ 2 ^ 53) :
    (Binary64.ofInt value).truncate? = some value := by
  rw [Binary64.truncate?, toRat?_ofInt value small, Option.map_some, Rat.num_intCast,
    Rat.den_intCast, Nat.cast_one, Int.tdiv_one]

/-- Reading a whole number in that range never leaves the range of doubles. -/
theorem ofDecimal_eq_ofInt (value : Int) (small : value.natAbs ≤ 2 ^ 53) :
    Binary64.ofDecimal (decide (value < 0)) value.natAbs 0 = .ofInt value := by
  rw [Binary64.ofDecimal, Binary64.ofInt]
  split
  · next zero => rw [Binary64.ofRatio, if_pos zero]
  · next nonzero =>
    have short : value.natAbs.log2 < 54 := (Nat.log2_lt nonzero).mpr (by omega)
    rw [if_pos (le_refl _), if_neg (by omega), Int.toNat_zero, Nat.pow_eq, Nat.pow_zero,
      Nat.mul_one]

/-! ### Decimal numerals -/

/-- A numeral of digits alone is none of the words for the special doubles. -/
theorem lower_digits_ne {digits : List Char} (plain : ∀ character ∈ digits, character.isDigit)
    (first : Char) (rest : List Char) (letter : first.isDigit = false) :
    String.ofList (digits.map Char.toLower) ≠ String.ofList (first :: rest) := by
  intro equal
  cases digits with
  | nil => cases String.ofList_injective equal
  | cons head tail =>
    have digit : head.isDigit := plain head List.mem_cons_self
    have small : head.toLower = head := by
      obtain ⟨low, high⟩ := Char.isDigit_iff_toNat.mp digit
      refine dif_neg fun capital => ?_
      have above : 65 ≤ head.toNat := capital.1
      have upper : head.toNat ≤ 57 := high
      omega
    obtain ⟨same, -⟩ := List.cons.inj (String.ofList_injective equal)
    rw [small] at same
    rw [same, letter] at digit
    cases digit

theorem readMagnitude?_decimal (negative : Bool) (number : Nat) :
    readMagnitude? negative (Nat.toDigits 10 number) = some (.ofDecimal negative number 0) := by
  have plain : ∀ character ∈ Nat.toDigits 10 number, character.isDigit :=
    fun _ member => isDigit_of_mem_decimal member
  have notInf := lower_digits_ne plain 'i' ['n', 'f'] (by decide)
  have notInfinity := lower_digits_ne plain 'i' ['n', 'f', 'i', 'n', 'i', 't', 'y'] (by decide)
  have notNan := lower_digits_ne plain 'n' ['a', 'n'] (by decide)
  have some_digits : (plainDigits (Nat.toDigits 10 number)).isEmpty = false :=
    List.isEmpty_eq_false_iff.mpr (plainDigits_decimal_ne_nil _)
  rw [readMagnitude?]
  simp only [Bool.or_eq_true, decide_eq_true_eq]
  rw [if_neg (not_or.mpr ⟨notInf, notInfinity⟩), if_neg notNan]
  simp [digitRun_decimal, readFraction, readExponent?, some_digits, ofDigits_decimal]

/-- An integer up to `2 ^ 53` in magnitude is read as its double. -/
theorem readBinary64?_whole (value : Int) (small : value.natAbs ≤ 2 ^ 53) :
    readBinary64? (integerText value).toList = some (.ofInt value) := by
  rw [readBinary64?, trimWhere_integerText value fun _ => isNumeralBlank_of_numeral,
    splitSign_integerText, ← ofDecimal_eq_ofInt value small]
  exact readMagnitude?_decimal _ _

/-- An integer up to `2 ^ 53` in magnitude reads back from its text through a double. -/
theorem readBinary64?_integerText (value : Int) (small : value.natAbs ≤ 2 ^ 53) :
    ∃ double, readBinary64? (integerText value).toList = some double ∧
      double.truncate? = some value :=
  ⟨_, readBinary64?_whole value small, truncate?_ofInt value small⟩

end ColdStart
