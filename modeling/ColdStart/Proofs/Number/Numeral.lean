/-
This file reads decimal numerals without exponent, in digits of any script. Such a numeral
denotes a ratio, and what is read is the double nearest to it. Still no time is read with
another whole part than its numeral has, as long as the numeral has no more than 15 digits:
a ratio of so small numbers lies well enough below the next whole number for a double to
stand between them, and rounding never carries a number past a double.
-/

import ColdStart.Proofs.Number.Range
import ColdStart.Proofs.Series.Intake
import Mathlib.Data.Nat.Digits.Defs

namespace ColdStart

/-! ### Whole parts of rounded ratios -/

namespace Binary64

/-- A number has a power of two between it and its double. -/
theorem exists_two_pow_between {number : Nat} (positive : 0 < number) :
    ∃ bits, number ≤ 2 ^ bits ∧ 2 ^ bits ≤ 2 * number := by
  refine ⟨number.log2 + 1, Nat.lt_log2_self.le, ?_⟩
  rw [Nat.pow_succ, Nat.mul_comm]
  exact Nat.mul_le_mul_left 2 (Nat.log2_self_le positive.ne')

/-- A ratio with small parts below a whole number lies below it by at least one part in the
denominator. That leaves room for a double in between, which has as many binary places as the
denominator has bits. -/
theorem exists_isDouble_between {numerator denominator next : Nat} (positive : 0 < denominator)
    (below : numerator + 1 ≤ next * denominator) (fits : 2 * (next * denominator) ≤ 2 ^ 53) :
    ∃ between : ℚ, IsDouble between ∧ numerator / denominator ≤ between ∧ between < next := by
  obtain ⟨bits, low, high⟩ := exists_two_pow_between positive
  have someNext : 0 < next := Nat.pos_of_mul_pos_right (by omega : 0 < next * denominator)
  have scaledFits : next * 2 ^ bits ≤ 2 ^ 53 := by
    calc next * 2 ^ bits ≤ next * (2 * denominator) := Nat.mul_le_mul_left _ high
      _ = 2 * (next * denominator) := by ring
      _ ≤ 2 ^ 53 := fits
  have fewBits : bits ≤ 1074 := by
    have bound : 2 ^ bits ≤ 2 ^ 53 := (Nat.le_mul_of_pos_left _ someNext).trans scaledFits
    have exponents := (Nat.pow_le_pow_iff_right Nat.one_lt_two).mp bound
    omega
  have room : numerator * 2 ^ bits + denominator ≤ next * 2 ^ bits * denominator := by
    calc numerator * 2 ^ bits + denominator ≤ numerator * 2 ^ bits + 2 ^ bits := by omega
      _ = (numerator + 1) * 2 ^ bits := by ring
      _ ≤ next * denominator * 2 ^ bits := Nat.mul_le_mul_right _ below
      _ = next * 2 ^ bits * denominator := by ring
  refine ⟨(next * 2 ^ bits - 1 : Int) / 2 ^ bits, isDouble_div_two_pow ?_ fewBits, ?_, ?_⟩
  · have some : 0 < next * 2 ^ bits := by positivity
    zify at scaledFits some
    omega
  · have cast : (numerator * 2 ^ bits + denominator : ℚ) ≤ next * 2 ^ bits * denominator := by
      exact_mod_cast room
    rw [div_le_div_iff₀ (by exact_mod_cast positive) (by positivity)]
    push_cast
    linarith
  · rw [div_lt_iff₀ (by positivity)]
    push_cast
    linarith

/-- Rounding to a double does not carry a ratio up to the next whole number if its parts are small
enough, as there is a double in between. -/
theorem floor_nearest_div {numerator denominator : Nat} (positive : 0 < denominator)
    (small : numerator + denominator ≤ 2 ^ 52) :
    ⌊nearest (numerator / denominator)⌋ = ((numerator / denominator : Nat) : Int) := by
  have atMost := Nat.div_mul_le_self numerator denominator
  have below : numerator + 1 ≤ (numerator / denominator + 1) * denominator :=
    Nat.lt_mul_of_div_lt (Nat.lt_succ_self _) positive
  have fewWhole : numerator / denominator ≤ numerator := Nat.div_le_self _ _
  generalize numerator / denominator = whole at *
  have isWhole : IsDouble (whole : ℚ) := isDouble_natCast (by omega)
  obtain ⟨between, isDouble, above, next⟩ :=
    exists_isDouble_between positive below (by rw [Nat.add_one_mul whole]; omega)
  refine Int.floor_eq_iff.mpr ⟨le_nearest isWhole ?_, ?_⟩
  · rw [le_div_iff₀ (by exact_mod_cast positive)]
    exact_mod_cast atMost
  · exact (nearest_le isDouble above).trans_lt (by exact_mod_cast next)

end Binary64

/-! ### Digits of any script -/

/-- What a digit is worth. -/
def digitWorth (character : Char) : Nat := (digitValue? character).getD 0

section

variable {character : Char} (digit : isDecimalDigit character = true)
include digit

theorem digitValue?_eq_worth : digitValue? character = some (digitWorth character) := by
  obtain ⟨worth, found⟩ := Option.isSome_iff_exists.mp digit
  rw [digitWorth, found, Option.getD_some]

theorem exists_digitZero :
    ∃ base ∈ digitZeros, ∃ offset < 10, character.toNat = base + offset := by
  rw [isDecimalDigit, digitValue?, Option.isSome_map] at digit
  obtain ⟨base, member, within⟩ := List.find?_isSome.mp digit
  simp only [Bool.and_eq_true, decide_eq_true_eq] at within
  exact ⟨base, member, character.toNat - base, by omega, by omega⟩

/-- No digit is a blank. -/
theorem isBlank_of_isDecimalDigit : isBlank character = false := by
  have noBlank : ∀ base ∈ digitZeros, ∀ offset < 10,
      blankRanges.contains (base + offset) = false := by decide +kernel
  obtain ⟨base, member, offset, small, code⟩ := exists_digitZero digit
  rw [isBlank, code]
  exact noBlank base member offset small

/-- Among the characters of one byte the digits are those from `0` to `9`. -/
theorem code_of_isDecimalDigit :
    48 ≤ character.toNat ∧ (character.toNat ≤ 57 ∨ 128 ≤ character.toNat) := by
  have codes : ∀ base ∈ digitZeros, ∀ offset < 10,
      48 ≤ base + offset ∧ (base + offset ≤ 57 ∨ 128 ≤ base + offset) := by decide +kernel
  obtain ⟨base, member, offset, small, code⟩ := exists_digitZero digit
  rw [code]
  exact codes base member offset small

/-- A digit is its own small form. -/
theorem toLower_of_isDecimalDigit : character.toLower = character := by
  have code := code_of_isDecimalDigit digit
  refine dif_neg fun capital => ?_
  have above : 65 ≤ character.toNat := capital.1
  have below : character.toNat ≤ 90 := capital.2
  omega

end

/-- A digit is none of these marks of a numeral. -/
theorem ne_of_isDecimalDigit {character mark : Char} (digit : isDecimalDigit character = true)
    (isMark : mark ∈ ['_', '.', '-', '+', 'i', 'n']) : character ≠ mark := by
  have noDigits : ['_', '.', '-', '+', 'i', 'n'].all (!isDecimalDigit ·) = true := by
    decide +kernel
  rintro rfl
  have noDigit := List.all_eq_true.mp noDigits character isMark
  rw [digit] at noDigit
  cases noDigit

/-- Digits are read up to a character that neither is one nor can stand between two. -/
theorem digitRun_append {digits rest : List Char}
    (areDigits : ∀ character ∈ digits, isDecimalDigit character = true)
    (stops : ∀ next ∈ rest.head?, isDecimalDigit next = false ∧ next ≠ '_') :
    digitRun (digits ++ rest) = (digits.map digitWorth, rest) := by
  induction digits with
  | nil =>
    cases rest with
    | nil => rfl
    | cons next others =>
      have noDigit : digitValue? next = none := by
        rw [← Option.not_isSome_iff_eq_none]
        exact Bool.eq_false_iff.mp (stops next rfl).1
      rw [List.nil_append, digitRun.eq_def]
      split <;> simp_all
  | cons first others inductionHypothesis =>
    have digit := areDigits first List.mem_cons_self
    have later := inductionHypothesis fun other member =>
      areDigits other (List.mem_cons_of_mem _ member)
    have noScore : ∀ next behind, others ++ rest = '_' :: next :: behind → False := by
      intro next behind equal
      cases others with
      | nil => exact (stops '_' (by rw [← List.nil_append rest, equal]; rfl)).2 rfl
      | cons second others =>
        have isDigit := areDigits second (by simp)
        exact ne_of_isDecimalDigit isDigit (by simp) (List.cons.inj equal).1
    rw [List.cons_append, digitRun.eq_3 _ _ noScore, digitValue?_eq_worth digit, later]
    rfl

theorem digitWorth_lt (character : Char) : digitWorth character < 10 := by
  rw [digitWorth, digitValue?]
  cases found : digitZeros.find? _ with
  | none => exact Nat.zero_lt_succ _
  | some base =>
    have within := List.find?_some found
    simp only [Bool.and_eq_true, decide_eq_true_eq] at within
    rw [Option.map_some, Option.getD_some]
    omega

/-! ### Numerals -/

/-- How the sign of a numeral is written. -/
inductive NumeralSign where
  | unwritten
  | plus
  | minus
  deriving DecidableEq, Repr

namespace NumeralSign

/-- The characters of a sign. -/
def text : NumeralSign → List Char
  | unwritten => []
  | plus => ['+']
  | minus => ['-']

/-- The factor that a sign stands for. -/
def factor : NumeralSign → ℚ
  | unwritten | plus => 1
  | minus => -1

end NumeralSign

/-- A decimal numeral without exponent: a sign and digits, with a point in front of them, between
them or behind them if there is one at all. -/
structure PlainNumeral where
  sign : NumeralSign
  /-- The digits in front of the point. -/
  whole : List Char
  /-- The digits behind the point, if there is one. -/
  fraction? : Option (List Char)
  areDigits : ∀ character ∈ whole ++ fraction?.getD [], isDecimalDigit character = true
  someDigits : whole ++ fraction?.getD [] ≠ []

namespace PlainNumeral

variable (numeral : PlainNumeral)

/-- The digits behind the point. -/
def fraction : List Char := numeral.fraction?.getD []

/-- All digits. -/
def digits : List Char := numeral.whole ++ numeral.fraction

/-- The point and what is behind it. -/
def behind : List Char := numeral.fraction?.elim [] ('.' :: ·)

/-- The numeral as it is written. -/
def text : List Char := numeral.sign.text ++ (numeral.whole ++ numeral.behind)

/-- The number that the digits spell when the point is left out. -/
def spelled : Nat := Nat.ofDigits 10 (numeral.digits.reverse.map digitWorth)

/-- The exact value: each digit counts ten times the one behind it, and the last one in front of
the point counts as itself. -/
def value : ℚ := numeral.sign.factor * (numeral.spelled / 10 ^ numeral.fraction.length)

theorem ofDigits_digits :
    ofDigits (numeral.whole.map digitWorth ++ numeral.fraction.map digitWorth) =
      numeral.spelled := by
  rw [spelled, digits, ← List.map_append, List.map_reverse, Nat.ofDigits_eq_foldr,
    List.foldr_reverse, ofDigits]
  refine congrArg (List.foldl · 0 _) (funext fun number => funext fun digit => ?_)
  exact Nat.add_comm _ _

theorem spelled_lt : numeral.spelled < 10 ^ numeral.digits.length := by
  have small : ∀ worth ∈ numeral.digits.reverse.map digitWorth, worth < 10 := by
    intro worth member
    obtain ⟨character, -, rfl⟩ := List.mem_map.mp member
    exact digitWorth_lt character
  have bound := Nat.ofDigits_lt_base_pow_length (by norm_num) small
  rwa [List.length_map, List.length_reverse] at bound

/-! ### Reading -/

theorem isDigit_of_mem_digits {character : Char} (member : character ∈ numeral.digits) :
    isDecimalDigit character = true := numeral.areDigits character member

theorem isDigit_of_mem_fraction :
    ∀ character ∈ numeral.fraction, isDecimalDigit character = true :=
  fun _ member => numeral.isDigit_of_mem_digits (List.mem_append_right _ member)

theorem isDigit_of_mem_whole : ∀ character ∈ numeral.whole, isDecimalDigit character = true :=
  fun _ member => numeral.isDigit_of_mem_digits (List.mem_append_left _ member)

theorem behind_cases :
    (numeral.behind = [] ∧ numeral.fraction = []) ∨ numeral.behind = '.' :: numeral.fraction := by
  rw [behind, fraction]
  cases numeral.fraction? with
  | none => exact .inl ⟨rfl, rfl⟩
  | some fraction => exact .inr rfl

/-- Behind its sign a numeral has digits and perhaps a point. -/
theorem isDigit_of_mem_body {character : Char}
    (member : character ∈ numeral.whole ++ numeral.behind) :
    isDecimalDigit character = true ∨ character = '.' := by
  rcases List.mem_append.mp member with inWhole | inBehind
  · exact .inl (numeral.isDigit_of_mem_whole character inWhole)
  · rcases numeral.behind_cases with ⟨nothing, -⟩ | pointed
    · rw [nothing] at inBehind
      cases inBehind
    · rw [pointed] at inBehind
      rcases List.mem_cons.mp inBehind with isPoint | inFraction
      · exact .inr isPoint
      · exact .inl (numeral.isDigit_of_mem_fraction character inFraction)

/-- A numeral has no blanks. -/
theorem isBlank_of_mem_text {character : Char} (member : character ∈ numeral.text) :
    isBlank character = false := by
  rcases List.mem_append.mp member with inSign | inBody
  · revert inSign
    cases numeral.sign with
    | unwritten => simp [NumeralSign.text]
    | plus => simp +contextual [NumeralSign.text, show isBlank '+' = false by decide]
    | minus => simp +contextual [NumeralSign.text, show isBlank '-' = false by decide]
  · rcases numeral.isDigit_of_mem_body inBody with digit | rfl
    · exact isBlank_of_isDecimalDigit digit
    · decide

/-- Blanks around a numeral are dropped, and of a numeral nothing. -/
theorem trimWhere_text {drop : Char → Bool}
    (keeps : ∀ character, isBlank character = false → drop character = false)
    {before after : List Char} (dropBefore : ∀ character ∈ before, drop character = true)
    (dropAfter : ∀ character ∈ after, drop character = true) :
    trimWhere drop (before ++ numeral.text ++ after) = numeral.text := by
  have kept : ∀ character ∈ numeral.text, drop character = false :=
    fun character member => keeps character (numeral.isBlank_of_mem_text member)
  refine trimWhere_append dropBefore dropAfter (fun first isFirst => ?_) fun final isFinal => ?_
  · exact kept first (List.mem_of_mem_head? isFirst)
  · exact kept final (List.mem_of_mem_getLast? isFinal)

theorem splitSign_text :
    splitSign numeral.text =
      (decide (numeral.sign = .minus), numeral.whole ++ numeral.behind) := by
  rw [text]
  cases sign : numeral.sign with
  | plus => rfl
  | minus => rfl
  | unwritten =>
    rw [NumeralSign.text, List.nil_append]
    have noSign : ∀ mark ∈ ['-', '+'], ∀ rest, numeral.whole ++ numeral.behind ≠ mark :: rest := by
      intro mark isSign rest equal
      have first : mark ∈ numeral.whole ++ numeral.behind := equal ▸ List.mem_cons_self
      rcases numeral.isDigit_of_mem_body first with digit | rfl
      · exact ne_of_isDecimalDigit digit (by simp at isSign ⊢; tauto) rfl
      · simp at isSign
    rw [splitSign]
    · rfl
    · exact fun rest => noSign '-' (by simp) rest
    · exact fun rest => noSign '+' (by simp) rest

/-- What a numeral has behind its sign begins with none of the letters of a special double. -/
theorem toLower_body_ne {letter : Char} (isLetter : letter = 'i' ∨ letter = 'n')
    (rest : List Char) :
    String.ofList ((numeral.whole ++ numeral.behind).map Char.toLower) ≠
      String.ofList (letter :: rest) := by
  intro equal
  obtain ⟨first, others, body, lower, -⟩ := List.map_eq_cons_iff.mp (String.ofList_injective equal)
  rcases numeral.isDigit_of_mem_body (body ▸ List.mem_cons_self) with digit | rfl
  · rw [toLower_of_isDecimalDigit digit] at lower
    exact ne_of_isDecimalDigit digit (by rcases isLetter with rfl | rfl <;> simp) lower
  · rcases isLetter with rfl | rfl <;> exact absurd lower (by decide)

theorem readMagnitude?_body (negative : Bool) :
    readMagnitude? negative (numeral.whole ++ numeral.behind) =
      some (.ofDecimal negative numeral.spelled (-numeral.fraction.length)) := by
  have stops : ∀ next ∈ numeral.behind.head?, isDecimalDigit next = false ∧ next ≠ '_' := by
    intro next isNext
    rcases numeral.behind_cases with ⟨nothing, -⟩ | pointed
    · rw [nothing] at isNext
      cases isNext
    · rw [pointed] at isNext
      cases isNext
      decide +kernel
  have fraction : readFraction numeral.behind = (numeral.fraction.map digitWorth, []) := by
    rcases numeral.behind_cases with ⟨nothing, noFraction⟩ | pointed
    · rw [nothing, noFraction]
      rfl
    · have run : digitRun (numeral.fraction ++ []) = (numeral.fraction.map digitWorth, []) :=
        digitRun_append numeral.isDigit_of_mem_fraction (by simp)
      rw [List.append_nil] at run
      rw [pointed, readFraction, run]
  have someDigits : numeral.whole = [] → numeral.fraction ≠ [] := fun noWhole noFraction =>
    numeral.someDigits (List.append_eq_nil_iff.mpr ⟨noWhole, noFraction⟩)
  rw [readMagnitude?]
  simp only [Bool.or_eq_true, decide_eq_true_eq]
  rw [if_neg (not_or.mpr ⟨numeral.toLower_body_ne (.inl rfl) ['n', 'f'],
      numeral.toLower_body_ne (.inl rfl) ['n', 'f', 'i', 'n', 'i', 't', 'y']⟩),
    if_neg (numeral.toLower_body_ne (.inr rfl) ['a', 'n'])]
  simpa [digitRun_append numeral.isDigit_of_mem_whole stops, fraction, ofDigits_digits,
    readExponent?] using someDigits

/-- The double that a numeral is read as, blanks of any kind around it. -/
theorem readBinary64?_text :
    readBinary64? numeral.text =
      some (.ofDecimal (decide (numeral.sign = .minus)) numeral.spelled
        (-numeral.fraction.length)) := by
  have trimmed : trimWhere isNumeralBlank ([] ++ numeral.text ++ []) = numeral.text :=
    numeral.trimWhere_text (fun character noBlank => by
      rw [isNumeralBlank, noBlank, Bool.false_and]) (by simp) (by simp)
  rw [List.nil_append, List.append_nil] at trimmed
  rw [readBinary64?, trimmed, splitSign_text]
  exact numeral.readMagnitude?_body _

end PlainNumeral

/-- A number with few digits and few places is read as the double nearest to a ratio. -/
theorem ofDecimal_eq_ofRatio (negative : Bool) {digits places : Nat} (small : digits < 10 ^ 15)
    (few : places ≤ 15) :
    Binary64.ofDecimal negative digits (-places) = .ofRatio negative digits (10 ^ places) := by
  rw [Binary64.ofDecimal]
  rcases Nat.eq_zero_or_pos digits with rfl | someDigits
  · rw [if_pos rfl, Binary64.ofRatio, if_pos rfl]
  · have short : digits.log2 < 50 := (Nat.log2_lt someDigits.ne').mpr (small.trans (by norm_num))
    rw [if_neg someDigits.ne']
    split
    · obtain rfl : places = 0 := by omega
      rw [if_neg (by omega)]
      simp
    · rw [if_neg (by omega), neg_neg, Int.toNat_natCast, Nat.pow_eq]

/-- The whole part of the double nearest to a ratio is that of the ratio, whatever the sign, if the
parts of the ratio are small enough. -/
theorem toWhole_ofRatio (negative : Bool) {numerator denominator : Nat}
    (positive : 0 < denominator) (small : numerator + denominator ≤ 2 ^ 52) :
    (Binary64.ofRatio negative numerator denominator).toWhole =
      .ok (if negative then -((numerator / denominator : Nat) : Int)
        else (numerator / denominator : Nat)) := by
  have fits : numerator < Binary64.limit * denominator :=
    (Binary64.lt_limit (by omega)).trans_le (Nat.le_mul_of_pos_right _ positive)
  obtain ⟨significand, exponent, rounded, magnitude⟩ :=
    Binary64.exists_ofRatio_eq positive fits negative
  have floor : (Binary64.scaled significand exponent).floor = (numerator / denominator : Nat) := by
    rw [magnitude, ← Binary64.nearest_div positive]
    exact Binary64.floor_nearest_div positive small
  rw [rounded, Binary64.toWhole, floor]

/-- The whole part of a numeral's value: the digits behind the point are dropped. -/
theorem wholePart_value (numeral : PlainNumeral) :
    wholePart numeral.value =
      if numeral.sign = .minus then
        -((numeral.spelled / 10 ^ numeral.fraction.length : Nat) : Int)
      else (numeral.spelled / 10 ^ numeral.fraction.length : Nat) := by
  have magnitude : wholePart (numeral.spelled / 10 ^ numeral.fraction.length : ℚ) =
      (numeral.spelled / 10 ^ numeral.fraction.length : Nat) := by
    rw [wholePart, if_pos (by positivity)]
    exact_mod_cast Rat.floor_natCast_div_natCast _ _
  rw [PlainNumeral.value]
  cases numeral.sign with
  | unwritten => rw [NumeralSign.factor, one_mul, magnitude, if_neg (by decide)]
  | plus => rw [NumeralSign.factor, one_mul, magnitude, if_neg (by decide)]
  | minus => rw [NumeralSign.factor, neg_one_mul, wholePart_neg, magnitude, if_pos rfl]

/-- What is read from a numeral with no more than 15 digits, whatever blanks are around it, is the
whole part of its exact value, although the value itself is rounded to a double first. -/
theorem readTime_numeral (numeral : PlainNumeral) (few : numeral.digits.length ≤ 15)
    (before after : List Char) (blankBefore : ∀ character ∈ before, isBlank character = true)
    (blankAfter : ∀ character ∈ after, isBlank character = true) (tag : String) :
    readTime (some (String.ofList (before ++ numeral.text ++ after))) tag =
      .ok (wholePart numeral.value) := by
  have places : numeral.fraction.length ≤ 15 := by
    rw [PlainNumeral.digits, List.length_append] at few
    omega
  have digits : numeral.spelled < 10 ^ 15 :=
    numeral.spelled_lt.trans_le (Nat.pow_le_pow_right (by norm_num) few)
  have unit : 10 ^ numeral.fraction.length ≤ 10 ^ 15 := Nat.pow_le_pow_right (by norm_num) places
  have trimmed : trim (before ++ numeral.text ++ after) = numeral.text :=
    numeral.trimWhere_text (fun _ noBlank => noBlank) blankBefore blankAfter
  rw [readTime, Option.getD_some, String.toList_ofList, trimmed, numeral.readBinary64?_text,
    ofDecimal_eq_ofRatio _ digits places, Option.map_some,
    toWhole_ofRatio _ (by positivity) (by omega), wholePart_value]
  simp only [decide_eq_true_eq]

/-- Fifteen nines below zero, the last three of them behind the point. -/
def fullNumeral : PlainNumeral where
  sign := .minus
  whole := "999999999999".toList
  fraction? := some "999".toList
  areDigits := List.all_eq_true.mp (by decide +kernel)
  someDigits := by decide

theorem readTime_fullNumeral :
    readTime (some "  -999999999999.999\n") "RealTime" = .ok (-999999999999) := by
  have read := readTime_numeral fullNumeral (by decide) "  ".toList "\n".toList
    (List.all_eq_true.mp (by decide)) (List.all_eq_true.mp (by decide)) "RealTime"
  have whole : wholePart fullNumeral.value = -999999999999 := by
    rw [wholePart_value]
    decide +kernel
  rw [whole] at read
  exact read

end ColdStart
