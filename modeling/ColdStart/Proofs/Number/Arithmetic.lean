/-
This file says what the operations on doubles give. Each forms the exact result and rounds it
once, so the exact value of what it gives is the double nearest to that result, as long as the
result is below the limit. One rounding changes a number that is not small by no more than one
part in `2 ^ 53`. Past the limit, and where there is no result, it still matters which numbers
are positive and which are undefined; that is followed through the operations as well.
-/

import ColdStart.Number.Normal
import ColdStart.Proofs.Number.Decimal

namespace ColdStart

namespace Binary64

variable {left right : Binary64} {first second : ℚ}

/-! ### Exact values -/

/-- What has an exact value is a sign and a magnitude. -/
theorem exists_eq_finite {double : Binary64} {value : ℚ} (exactly : double.toRat? = some value) :
    ∃ negative significand exponent, double = finite negative significand exponent ∧
      value = if negative then -scaled significand exponent else scaled significand exponent := by
  cases double with
  | infinite negative => cases exactly
  | undefined => cases exactly
  | finite negative significand exponent =>
    exact ⟨negative, significand, exponent, rfl, (Option.some.inj exactly).symm⟩

theorem toRat?_zero (negative : Bool) : (zero negative).toRat? = some 0 := by
  rw [zero, toRat?, scaled_zero, neg_zero, ite_self]

theorem toRat?_neg (isRight : right.toRat? = some second) : right.neg.toRat? = some (-second) := by
  obtain ⟨negative, significand, exponent, rfl, rfl⟩ := exists_eq_finite isRight
  cases negative with
  | false => rfl
  | true => exact congrArg some (neg_neg _).symm

/-- A magnitude below the limit is rounded to the nearest double, whatever its sign. -/
theorem toRat?_ofRatio_of_magnitude (negative : Bool) {magnitude : ℚ} (nonneg : 0 ≤ magnitude)
    (fits : magnitude < limit) :
    (ofRatio negative magnitude.num.natAbs magnitude.den).toRat? =
      some (nearest (if negative then -magnitude else magnitude)) := by
  have below : |magnitude| < limit := by rwa [abs_of_nonneg nonneg]
  obtain ⟨significand, exponent, rounded, value⟩ :=
    exists_ofRatio_eq magnitude.den_pos (natAbs_num_lt below) negative
  have nearestEq : nearest magnitude = scaled significand exponent := by
    rw [value, nearest, if_neg (not_lt.mpr nonneg)]
  rw [rounded, toRat?, ← nearestEq]
  cases negative with
  | false => rfl
  | true => exact congrArg some (nearest_neg magnitude).symm

/-- The sum of two doubles is rounded once. -/
theorem toRat?_add (isLeft : left.toRat? = some first) (isRight : right.toRat? = some second)
    (fits : |first + second| < limit) :
    (left.add right).toRat? = some (nearest (first + second)) := by
  obtain ⟨negative, significand, exponent, rfl, isFirst⟩ := exists_eq_finite isLeft
  obtain ⟨otherNegative, otherSignificand, otherExponent, rfl, isSecond⟩ :=
    exists_eq_finite isRight
  rw [add, ← isFirst, ← isSecond]
  split
  · next nothing => rw [toRat?_zero, nothing, nearest_zero]
  · exact toRat?_ofRat fits

theorem toRat?_sub (isLeft : left.toRat? = some first) (isRight : right.toRat? = some second)
    (fits : |first - second| < limit) :
    (left.sub right).toRat? = some (nearest (first - second)) := by
  rw [sub_eq_add_neg] at fits ⊢
  exact toRat?_add isLeft (toRat?_neg isRight) fits

/-- The value of a sign and a magnitude. -/
theorem abs_signed (negative : Bool) {magnitude : ℚ} (nonneg : 0 ≤ magnitude) :
    |if negative then -magnitude else magnitude| = magnitude := by
  cases negative with
  | false => exact abs_of_nonneg nonneg
  | true => exact (abs_neg magnitude).trans (abs_of_nonneg nonneg)

/-- The product of two doubles is rounded once. -/
theorem toRat?_mul (isLeft : left.toRat? = some first) (isRight : right.toRat? = some second)
    (fits : |first * second| < limit) :
    (left.mul right).toRat? = some (nearest (first * second)) := by
  obtain ⟨negative, significand, exponent, rfl, rfl⟩ := exists_eq_finite isLeft
  obtain ⟨otherNegative, otherSignificand, otherExponent, rfl, rfl⟩ := exists_eq_finite isRight
  have nonneg := scaled_nonneg significand exponent
  have otherNonneg := scaled_nonneg otherSignificand otherExponent
  rw [abs_mul, abs_signed _ nonneg, abs_signed _ otherNonneg] at fits
  rw [mul, toRat?_ofRatio_of_magnitude _ (mul_nonneg nonneg otherNonneg) fits]
  cases negative <;> cases otherNegative <;> simp

/-- A significand is not zero if the value is not. -/
theorem significand_ne_zero {negative : Bool} {significand : Nat} {exponent : Int}
    (some : (if negative then -scaled significand exponent else scaled significand exponent) ≠ 0) :
    significand ≠ 0 := by
  rintro rfl
  rw [scaled_zero, neg_zero, ite_self] at some
  exact some rfl

/-- The quotient of two doubles is rounded once. -/
theorem toRat?_div (isLeft : left.toRat? = some first) (isRight : right.toRat? = some second)
    (someRight : second ≠ 0) (fits : |first / second| < limit) :
    (left.div right).toRat? = some (nearest (first / second)) := by
  obtain ⟨negative, significand, exponent, rfl, rfl⟩ := exists_eq_finite isLeft
  obtain ⟨otherNegative, otherSignificand, otherExponent, rfl, rfl⟩ := exists_eq_finite isRight
  have nonneg := scaled_nonneg significand exponent
  have otherNonneg := scaled_nonneg otherSignificand otherExponent
  rw [abs_div, abs_signed _ nonneg, abs_signed _ otherNonneg] at fits
  rw [div, if_neg (significand_ne_zero someRight),
    toRat?_ofRatio_of_magnitude _ (div_nonneg nonneg otherNonneg) fits]
  cases negative <;> cases otherNegative <;> simp [neg_div, div_neg]

/-- The difference of a double from one of the same value is nothing. -/
theorem sub_eq_zero_of_same (isLeft : left.toRat? = some first)
    (isRight : right.toRat? = some first) (unsigned : left.isNegative = false) :
    left.sub right = zero false := by
  obtain ⟨opposite, significand, exponent, turned, same⟩ := exists_eq_finite (toRat?_neg isRight)
  obtain ⟨negative, otherSignificand, otherExponent, rfl, isFirst⟩ := exists_eq_finite isLeft
  obtain rfl : negative = false := unsigned
  rw [sub, turned, add, ← same, ← isFirst]
  exact if_pos (add_neg_cancel _)

theorem toRat?_ofRatio_natCast {numerator denominator : Nat} (positive : 0 < denominator)
    (fits : numerator < limit * denominator) :
    (ofRatio false numerator denominator).toRat? = some (nearest (numerator / denominator)) := by
  have rounded := toRat?_ofRatio positive fits (Int.natAbs_natCast numerator)
  rwa [decide_eq_false (not_lt.mpr (Int.natCast_nonneg numerator)), Int.cast_natCast] at rounded

/-- A whole number below the limit becomes the nearest double. -/
theorem toRat?_ofInt_nearest (number : Nat) (fits : number < limit) :
    (ofInt number).toRat? = some (nearest number) := by
  have rounded := toRat?_ofRatio_natCast one_pos (by rwa [Nat.mul_one])
  rwa [Nat.cast_one, div_one] at rounded

/-! ### Bounds -/

/-- A power of two is not passed by more than another. -/
theorem abs_nearest_le {value : ℚ} {bits : Nat} (atMost : |value| ≤ 2 ^ bits) :
    |nearest value| ≤ 2 ^ (bits + 1) := by
  have large : (1 : ℚ) ≤ 2 ^ bits := one_le_pow₀ one_le_two
  have error := (abs_le.mp (abs_nearest_sub_le large)).2
  have fraction : (2 : ℚ) ^ bits / 2 ^ 53 ≤ 2 ^ bits := div_le_self (by positivity) (by norm_num)
  have power : nearest (2 ^ bits) ≤ 2 ^ (bits + 1) := by
    rw [pow_succ]
    linarith
  obtain ⟨low, high⟩ := abs_le.mp atMost
  refine abs_le.mpr ⟨?_, (nearest_mono high).trans power⟩
  have turned := nearest_mono low
  rw [nearest_neg] at turned
  linarith

theorem mul_le_two_pow {number other bits otherBits : Nat} (small : number ≤ 2 ^ bits)
    (otherSmall : other ≤ 2 ^ otherBits) : number * other ≤ 2 ^ (bits + otherBits) :=
  (Nat.mul_le_mul small otherSmall).trans_eq (pow_add 2 bits otherBits).symm

theorem lt_limit_of_bits {number bits : Nat} (small : number ≤ 2 ^ bits) (few : bits < 1023) :
    number < limit := by
  have power := pow_lt_pow_right₀ (by decide : 1 < 2) few
  exact (small.trans_lt power).trans_le two_pow_le_limit

theorem lt_limit_of_le_two_pow {value : ℚ} {bits : Nat} (atMost : value ≤ 2 ^ bits)
    (few : bits < 1023) : value < limit := by
  have below : ((2 ^ bits : Nat) : ℚ) < limit := by
    exact_mod_cast lt_limit_of_bits (le_refl (2 ^ bits)) few
  push_cast at below
  exact atMost.trans_lt below

/-- A double has an exact value of no more than so many bits in front of the point. -/
def IsWithin (bits : Nat) (double : Binary64) : Prop :=
  ∃ value, double.toRat? = some value ∧ |value| ≤ 2 ^ bits

theorem isWithin_ofRatio {numerator denominator bits : Nat} (positive : 0 < denominator)
    (small : numerator ≤ 2 ^ bits) (few : bits < 1023) :
    (ofRatio false numerator denominator).IsWithin (bits + 1) := by
  have atMost : (numerator : ℚ) ≤ 2 ^ bits := by exact_mod_cast small
  have fits : numerator < limit * denominator :=
    (lt_limit_of_bits small few).trans_le (Nat.le_mul_of_pos_right _ positive)
  refine ⟨_, toRat?_ofRatio_natCast positive fits, abs_nearest_le ?_⟩
  rw [abs_of_nonneg (by positivity)]
  exact (div_le_self (Nat.cast_nonneg _) (by exact_mod_cast positive)).trans atMost

/-- A difference takes two bits more. -/
theorem IsWithin.sub {bits : Nat} (isLeft : left.IsWithin bits) (isRight : right.IsWithin bits)
    (few : bits ≤ 1021) : (left.sub right).IsWithin (bits + 2) := by
  obtain ⟨first, leftExact, leftSmall⟩ := isLeft
  obtain ⟨second, rightExact, rightSmall⟩ := isRight
  have small : |first - second| ≤ 2 ^ (bits + 1) := by
    rw [pow_succ]
    linarith [abs_sub first second]
  exact ⟨_, toRat?_sub leftExact rightExact (lt_limit_of_le_two_pow small (by omega)),
    abs_nearest_le small⟩

theorem IsWithin.mono {double : Binary64} {bits more : Nat} (within : double.IsWithin bits)
    (atMost : bits ≤ more) : double.IsWithin more := by
  obtain ⟨value, exactly, small⟩ := within
  exact ⟨value, exactly, small.trans (pow_le_pow_right₀ one_le_two atMost)⟩

/-- The quotient of two rounded numbers stays below a bound if the numbers leave room for one. -/
theorem nearest_div_nearest_le {part whole bound : ℚ} (large : 1 ≤ whole) (some : 2 ≤ bound)
    (few : bound ≤ 2 ^ 52) (room : part ≤ whole * (bound - 1)) :
    nearest part / nearest whole ≤ bound := by
  have product : 1 ≤ whole * (bound - 1) := one_le_mul_of_one_le_of_one_le large (by linarith)
  have above := (abs_le.mp (abs_nearest_sub_le product)).2
  have below := (abs_le.mp (abs_nearest_sub_le large)).1
  have rounded := nearest_mono room
  have positive : 0 < nearest whole := by linarith
  have factors : (bound - 1) * (2 ^ 53 + 1) ≤ bound * (2 ^ 53 - 1) := by linarith
  rw [div_le_iff₀ positive]
  calc nearest part ≤ whole * ((bound - 1) * (2 ^ 53 + 1)) / 2 ^ 53 := by linarith
    _ ≤ whole * (bound * (2 ^ 53 - 1)) / 2 ^ 53 := by gcongr
    _ = bound * (whole - whole / 2 ^ 53) := by ring
    _ ≤ bound * nearest whole := by
      gcongr
      linarith

/-! ### Order -/

theorem lt_eq_decide (isLeft : left.toRat? = some first) (isRight : right.toRat? = some second) :
    left.lt right = decide (first < second) := by
  obtain ⟨negative, significand, exponent, rfl, rfl⟩ := exists_eq_finite isLeft
  obtain ⟨otherNegative, otherSignificand, otherExponent, rfl, rfl⟩ := exists_eq_finite isRight
  rw [lt]

/-- A double is greater than a number; an undefined one is not. -/
def Exceeds (double : Binary64) (value : ℚ) : Prop :=
  double = infinite false ∨ ∃ other, double.toRat? = some other ∧ value < other

theorem lt_iff_exceeds (isLeft : left.toRat? = some first) :
    left.lt right = true ↔ right.Exceeds first := by
  cases right with
  | infinite negative =>
    obtain ⟨-, significand, exponent, rfl, -⟩ := exists_eq_finite isLeft
    cases negative <;> simp [lt, Exceeds, toRat?]
  | undefined =>
    obtain ⟨-, significand, exponent, rfl, -⟩ := exists_eq_finite isLeft
    simp [lt, Exceeds, toRat?]
  | finite negative significand exponent =>
    rw [lt_eq_decide isLeft rfl, decide_eq_true_eq]
    simp [Exceeds, toRat?]

theorem toRat?_max (isLeft : left.toRat? = some first) (isRight : right.toRat? = some second) :
    (left.max right).toRat? = some (Max.max first second) := by
  rw [Binary64.max, lt_eq_decide isLeft isRight]
  by_cases less : first < second
  · rw [if_pos (decide_eq_true less), isRight, max_eq_right less.le]
  · rw [if_neg (by simpa using less), isLeft, max_eq_left (not_lt.mp less)]

theorem toRat?_min (isLeft : left.toRat? = some first) (isRight : right.toRat? = some second) :
    (left.min right).toRat? = some (Min.min first second) := by
  rw [Binary64.min, lt_eq_decide isRight isLeft]
  by_cases less : second < first
  · rw [if_pos (decide_eq_true less), isRight, min_eq_right less.le]
  · rw [if_neg (by simpa using less), isLeft, min_eq_left (not_lt.mp less)]

/-- A double brought into the range from zero to one. -/
def clipped (double : Binary64) : Binary64 := (double.max (zero false)).min (ofInt 1)

/-- What is defined is brought into the range. -/
theorem exists_toRat?_clipped {double : Binary64} (defined : double ≠ undefined) :
    ∃ ratio, double.clipped.toRat? = some ratio ∧ 0 ≤ ratio ∧ ratio ≤ 1 := by
  cases exactly : double.toRat? with
  | none =>
    cases double with
    | undefined => exact absurd rfl defined
    | finite negative significand exponent => cases exactly
    | infinite negative =>
      cases negative with
      | true => exact ⟨0, by decide +kernel, le_refl _, zero_le_one⟩
      | false => exact ⟨1, by decide +kernel, zero_le_one, le_refl _⟩
  | some value =>
    have clipped :=
      toRat?_min (toRat?_max exactly (toRat?_zero false)) (toRat?_ofInt 1 (by norm_num))
    exact ⟨_, clipped, le_min (le_max_right _ _) (by norm_num), min_le_right _ _⟩

theorem clipped_undefined : undefined.clipped = undefined := rfl

/-! ### Positive and undefined doubles -/

/-- A double is above zero, perhaps past the range. -/
def IsPositive : Binary64 → Prop
  | finite negative significand _ => negative = false ∧ significand ≠ 0
  | infinite negative => negative = false
  | undefined => False

theorem isPositive_of_toRat? {double : Binary64} {value : ℚ}
    (exactly : double.toRat? = some value) (positive : 0 < value) : double.IsPositive := by
  obtain ⟨negative, significand, exponent, rfl, rfl⟩ := exists_eq_finite exactly
  refine ⟨?_, significand_ne_zero positive.ne'⟩
  cases negative with
  | false => rfl
  | true => exact absurd positive (not_lt.mpr (neg_nonpos.mpr (scaled_nonneg _ _)))

/-- A magnitude is not rounded to zero from the least positive double on. -/
theorem isPositive_ofRatio {magnitude : ℚ} (least : 1 / 2 ^ 1074 ≤ magnitude) :
    (ofRatio false magnitude.num.natAbs magnitude.den).IsPositive := by
  have nonneg : 0 ≤ magnitude := le_trans (by positivity) least
  rcases lt_or_ge magnitude limit with fits | large
  · have below : |magnitude| < limit := by rwa [abs_of_nonneg nonneg]
    obtain ⟨significand, exponent, rounded, value⟩ :=
      exists_ofRatio_eq magnitude.den_pos (natAbs_num_lt below) false
    rw [rounded]
    refine ⟨rfl, ?_⟩
    rintro rfl
    have isDouble : IsDouble ((1 : Int) / 2 ^ 1074) :=
      isDouble_div_two_pow (by norm_num) (le_refl _)
    rw [Int.cast_one] at isDouble
    have some := le_nearest isDouble least
    rw [nearest, if_neg (not_lt.mpr nonneg), ← value, scaled_zero] at some
    exact absurd some (not_le.mpr (by positivity))
  · have past : limit * magnitude.den ≤ magnitude.num.natAbs := by
      rw [← abs_of_nonneg nonneg, abs_eq_natAbs_num_div_den,
        le_div_iff₀ (by exact_mod_cast magnitude.den_pos)] at large
      exact_mod_cast large
    rw [(ofRatio_eq_infinite_iff magnitude.den_pos false _).mpr past]
    rfl

theorem finite_ne_undefined (negative : Bool) (significand : Nat) (exponent : Int) :
    finite negative significand exponent ≠ undefined := fun equal => by cases equal

theorem infinite_ne_undefined (negative : Bool) : infinite negative ≠ undefined :=
  fun equal => by cases equal

/-- A ratio is rounded to a finite double or past the range, and keeps its sign. -/
theorem ofRatio_eq_finite_or_infinite (negative : Bool) (numerator denominator : Nat) :
    (∃ significand exponent,
      ofRatio negative numerator denominator = finite negative significand exponent) ∨
      ofRatio negative numerator denominator = infinite negative := by
  rw [ofRatio]
  dsimp only
  split_ifs
  all_goals first
    | exact .inl ⟨_, _, rfl⟩
    | exact .inr rfl

theorem ofRatio_ne_undefined (negative : Bool) (numerator denominator : Nat) :
    ofRatio negative numerator denominator ≠ undefined := by
  rcases ofRatio_eq_finite_or_infinite negative numerator denominator with ⟨_, _, same⟩ | same
  · exact same ▸ finite_ne_undefined _ _ _
  · exact same ▸ infinite_ne_undefined _

/-- A product with a number other than zero is defined. -/
theorem mul_ne_undefined (defined : left ≠ undefined) (isRight : right.toRat? = some second)
    (someRight : second ≠ 0) : left.mul right ≠ undefined := by
  obtain ⟨negative, significand, exponent, rfl, rfl⟩ := exists_eq_finite isRight
  cases left with
  | undefined => exact absurd rfl defined
  | infinite otherNegative =>
    rw [mul, if_neg (significand_ne_zero someRight)]
    exact infinite_ne_undefined _
  | finite otherNegative otherSignificand otherExponent => exact ofRatio_ne_undefined _ _ _

theorem isInFormat_mul (isLeft : left.toRat? = some first)
    (isRight : right.toRat? = some second) : (left.mul right).IsInFormat := by
  obtain ⟨negative, significand, exponent, rfl, rfl⟩ := exists_eq_finite isLeft
  obtain ⟨otherNegative, otherSignificand, otherExponent, rfl, rfl⟩ := exists_eq_finite isRight
  exact isInFormat_ofRatio (Rat.den_pos _) _ _

/-- Zero times an unsigned number is nothing. -/
theorem mul_zero_of_unsigned (isLeft : left.toRat? = some first)
    (unsigned : left.isNegative = false) : left.mul (zero false) = zero false := by
  obtain ⟨negative, significand, exponent, rfl, rfl⟩ := exists_eq_finite isLeft
  obtain rfl : negative = false := unsigned
  rw [zero, mul, scaled_zero, mul_zero]
  rfl

/-- A number divided by what is positive is defined. -/
theorem div_ne_undefined (isLeft : left.toRat? = some first) (positive : right.IsPositive) :
    left.div right ≠ undefined := by
  obtain ⟨negative, significand, exponent, rfl, rfl⟩ := exists_eq_finite isLeft
  cases right with
  | infinite otherNegative => exact finite_ne_undefined _ _ _
  | undefined => exact positive.elim
  | finite otherNegative otherSignificand otherExponent =>
    rw [div, if_neg positive.2]
    exact ofRatio_ne_undefined _ _ _

/-- The root of a number other than zero, with a mark for what is behind it, is not zero. -/
theorem one_le_markedRoot {number : Nat} (some : number ≠ 0) :
    1 ≤ 2 * number.sqrt + if number.sqrt * number.sqrt = number then 0 else 1 := by
  split
  · next square =>
    have someRoot : number.sqrt ≠ 0 := fun nothing => by
      rw [nothing] at square
      exact some square.symm
    omega
  · omega

/-- The root of a positive double is positive: it is far above the least positive double. -/
theorem isPositive_sqrt {double : Binary64} (format : double.IsInFormat)
    (positive : double.IsPositive) : double.sqrt.IsPositive := by
  cases double with
  | undefined => exact positive.elim
  | infinite negative =>
    obtain rfl : negative = false := positive
    rfl
  | finite negative significand exponent =>
    obtain ⟨rfl, someSignificand⟩ := positive
    obtain ⟨-, least, -⟩ := format
    rw [sqrt, if_neg someSignificand, if_neg Bool.false_ne_true]
    refine isPositive_ofRatio ?_
    have someWidened : significand * Nat.pow 2 (110 + (exponent % 2).toNat) ≠ 0 :=
      Nat.mul_ne_zero someSignificand (Nat.pow_pos (by decide)).ne'
    have marked := one_le_markedRoot someWidened
    generalize significand * Nat.pow 2 (110 + (exponent % 2).toNat) = widened at *
    have power : (2 : ℚ) ^ (-1074 : Int) ≤ 2 ^ ((exponent - exponent % 2 - 110) / 2 - 1) := by
      rw [leastExponent] at least
      exact zpow_le_zpow_right₀ (by norm_num) (by omega)
    have unit : (1 : ℚ) / 2 ^ 1074 = 2 ^ (-1074 : Int) := by
      rw [one_div, zpow_neg]
      norm_cast
    rw [scaled_eq, unit]
    refine power.trans (le_mul_of_one_le_left (by positivity) ?_)
    exact_mod_cast marked

/-- The tail at a defined distance is defined. -/
theorem normalTail_ne_undefined {double : Binary64} (defined : double ≠ undefined) :
    double.normalTail ≠ undefined := by
  cases double with
  | undefined => exact absurd rfl defined
  | infinite negative =>
    cases negative with
    | false => exact finite_ne_undefined _ _ _
    | true =>
      change ofInt 1 ≠ undefined
      exact ofRatio_ne_undefined _ _ _
  | finite negative significand exponent =>
    rw [normalTail]
    dsimp only
    split_ifs
    · exact ofRatio_ne_undefined _ _ _
    · exact finite_ne_undefined _ _ _
    · exact ofRatio_ne_undefined _ _ _
    · exact ofRatio_ne_undefined _ _ _

/-- A double is defined and its sign is not set. -/
def IsUnsigned (double : Binary64) : Prop := double ≠ undefined ∧ double.isNegative = false

theorem isUnsigned_finite (significand : Nat) (exponent : Int) :
    (finite false significand exponent).IsUnsigned := ⟨finite_ne_undefined _ _ _, rfl⟩

theorem isUnsigned_ofRatio (numerator denominator : Nat) :
    (ofRatio false numerator denominator).IsUnsigned := by
  rcases ofRatio_eq_finite_or_infinite false numerator denominator with ⟨_, _, same⟩ | same
  · exact same ▸ isUnsigned_finite _ _
  · exact same ▸ ⟨infinite_ne_undefined _, rfl⟩

theorem isUnsigned_ofInt (number : Nat) : (ofInt number).IsUnsigned := by
  rw [ofInt, decide_eq_false (not_lt.mpr (Int.natCast_nonneg number))]
  exact isUnsigned_ofRatio _ _

theorem isUnsigned_ofRat {value : ℚ} (nonneg : 0 ≤ value) : (ofRat value).IsUnsigned := by
  rw [ofRat, decide_eq_false (not_lt.mpr nonneg)]
  exact isUnsigned_ofRatio _ _

/-- Unsigned doubles have an unsigned sum. -/
theorem IsUnsigned.add (unsigned : left.IsUnsigned) (otherUnsigned : right.IsUnsigned) :
    (left.add right).IsUnsigned := by
  cases left with
  | undefined => exact absurd rfl unsigned.1
  | infinite negative =>
    obtain rfl : negative = false := unsigned.2
    cases right with
    | undefined => exact absurd rfl otherUnsigned.1
    | infinite otherNegative =>
      obtain rfl : otherNegative = false := otherUnsigned.2
      exact unsigned
    | finite otherNegative otherSignificand otherExponent => exact unsigned
  | finite negative significand exponent =>
    obtain rfl : negative = false := unsigned.2
    cases right with
    | undefined => exact absurd rfl otherUnsigned.1
    | infinite otherNegative => exact otherUnsigned
    | finite otherNegative otherSignificand otherExponent =>
      obtain rfl : otherNegative = false := otherUnsigned.2
      have sum := add_nonneg (scaled_nonneg significand exponent)
        (scaled_nonneg otherSignificand otherExponent)
      change IsUnsigned (if scaled significand exponent + scaled otherSignificand otherExponent = 0
        then zero (false && false) else ofRat _)
      split
      · exact isUnsigned_finite _ _
      · exact isUnsigned_ofRat sum

end Binary64

end ColdStart
