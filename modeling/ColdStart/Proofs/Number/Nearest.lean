/-
This file looks at rounding to doubles as a function on rational numbers. The
function is monotone, it takes the same value at a number and its opposite up to the
sign, and it leaves every double as it is, so rounding never carries a number past a
double. Below the limit of the range this function is what a ratio or a rational
number is rounded to.
-/

import ColdStart.Proofs.Number.Rounding
import Mathlib.Algebra.Order.Field.Basic

namespace ColdStart

/-! ### Rounding is monotone -/

section

variable {numerator denominator otherNumerator otherDenominator : Nat}
  (positive : 0 < denominator) (otherPositive : 0 < otherDenominator)
  (atMost : numerator * otherDenominator ≤ otherNumerator * denominator)
include positive otherPositive atMost

theorem roundRatio_le_roundRatio :
    roundRatio numerator denominator ≤ roundRatio otherNumerator otherDenominator := by
  have reached := (le_roundRatio_iff positive).mp (le_refl (roundRatio numerator denominator))
  refine (le_roundRatio_iff otherPositive).mpr ?_
  generalize roundRatio numerator denominator = whole at *
  have scaled := Nat.mul_le_mul_right otherDenominator reached
  obtain even | odd := Nat.mod_two_eq_zero_or_one whole
  · rw [even, Nat.add_zero] at scaled ⊢
    refine Nat.le_of_mul_le_mul_right ?_ positive
    linarith
  · rw [odd] at scaled ⊢
    refine Nat.succ_le_of_lt (Nat.lt_of_mul_lt_mul_right (a := denominator) ?_)
    linarith

theorem significandAt_le_significandAt (exponent : Int) :
    significandAt numerator denominator exponent ≤
      significandAt otherNumerator otherDenominator exponent := by
  rw [significandAt, significandAt]
  split
  · have power : 0 < Nat.pow 2 exponent.toNat := Nat.pow_pos (by decide)
    refine roundRatio_le_roundRatio (Nat.mul_pos positive power)
      (Nat.mul_pos otherPositive power) ?_
    rw [← Nat.mul_assoc, ← Nat.mul_assoc]
    exact Nat.mul_le_mul_right _ atMost
  · refine roundRatio_le_roundRatio positive otherPositive ?_
    rw [Nat.mul_right_comm, Nat.mul_right_comm otherNumerator]
    exact Nat.mul_le_mul_right _ atMost

theorem binade_le_binade (someNumerator : 0 < numerator) :
    binade numerator denominator ≤ binade otherNumerator otherDenominator := by
  have someOther : 0 < otherNumerator :=
    Nat.pos_of_mul_pos_right ((Nat.mul_pos someNumerator otherPositive).trans_le atMost)
  have least := (binade_spec someNumerator positive).1
  have most := (binade_spec someOther otherPositive).2
  have unit : (0 : ℚ) < denominator * otherDenominator := by positivity
  have cross : (numerator : ℚ) * otherDenominator ≤ otherNumerator * denominator := by
    exact_mod_cast atMost
  have powers : (denominator * otherDenominator : ℚ) * 2 ^ binade numerator denominator <
      denominator * otherDenominator * 2 ^ (binade otherNumerator otherDenominator + 1) := by
    calc (denominator * otherDenominator : ℚ) * 2 ^ binade numerator denominator
        = denominator * 2 ^ binade numerator denominator * otherDenominator := by ring
      _ ≤ numerator * otherDenominator := by gcongr
      _ ≤ otherNumerator * denominator := cross
      _ < otherDenominator * 2 ^ (binade otherNumerator otherDenominator + 1) * denominator := by
        gcongr
      _ = denominator * otherDenominator * 2 ^ (binade otherNumerator otherDenominator + 1) := by
        ring
  have exponents := (zpow_lt_zpow_iff_right₀ one_lt_two).mp (lt_of_mul_lt_mul_left powers unit.le)
  omega

end

namespace Binary64

/-- The magnitude to which a ratio is rounded when there is no limit to the range. -/
def nearestMagnitude (numerator denominator : Nat) : ℚ :=
  significandOf numerator denominator * 2 ^ exponentOf numerator denominator

theorem nearestMagnitude_nonneg (numerator denominator : Nat) :
    0 ≤ nearestMagnitude numerator denominator := by
  rw [nearestMagnitude]
  positivity

section

variable {numerator denominator : Nat} (positive : 0 < denominator)
include positive

/-- Above the least exponent a ratio has all 53 bits. -/
theorem two_pow_mul_unit_le (someNumerator : 0 < numerator)
    (normal : leastExponent ≤ binade numerator denominator - 52) :
    (2 : ℚ) ^ 52 * (denominator * 2 ^ exponentOf numerator denominator) ≤ numerator := by
  have exponent : exponentOf numerator denominator = binade numerator denominator - 52 :=
    max_eq_left normal
  have split : (2 : ℚ) ^ binade numerator denominator =
      2 ^ 52 * 2 ^ exponentOf numerator denominator := by
    rw [exponent, ← zpow_natCast, ← zpow_add₀ two_ne_zero]
    congr 1
    omega
  calc (2 : ℚ) ^ 52 * (denominator * 2 ^ exponentOf numerator denominator)
      = denominator * 2 ^ binade numerator denominator := by rw [split]; ring
    _ ≤ numerator := (binade_spec someNumerator positive).1

/-- Above the least exponent every significand is full. -/
theorem two_pow_le_significandOf (someNumerator : 0 < numerator)
    (normal : leastExponent < exponentOf numerator denominator) :
    2 ^ 52 ≤ significandOf numerator denominator := by
  have least := two_pow_mul_unit_le positive someNumerator (by rw [exponentOf] at normal; omega)
  refine le_significandAt_of_midpoint_le positive (by norm_num) ?_
  have unit : (0 : ℚ) ≤ denominator * 2 ^ exponentOf numerator denominator := by positivity
  push_cast
  linarith

theorem significandOf_zero : significandOf 0 denominator = 0 :=
  significandAt_of_multiple positive (by simp)

theorem nearestMagnitude_zero : nearestMagnitude 0 denominator = 0 := by
  rw [nearestMagnitude, significandOf_zero positive, Nat.cast_zero, zero_mul]

/-- A larger ratio is rounded to no smaller magnitude. -/
theorem nearestMagnitude_le_nearestMagnitude {otherNumerator otherDenominator : Nat}
    (otherPositive : 0 < otherDenominator)
    (atMost : numerator * otherDenominator ≤ otherNumerator * denominator) :
    nearestMagnitude numerator denominator ≤ nearestMagnitude otherNumerator otherDenominator := by
  rcases Nat.eq_zero_or_pos numerator with rfl | someNumerator
  · rw [nearestMagnitude_zero positive]
    exact nearestMagnitude_nonneg _ _
  · have someOther : 0 < otherNumerator :=
      Nat.pos_of_mul_pos_right ((Nat.mul_pos someNumerator otherPositive).trans_le atMost)
    have binades := binade_le_binade positive otherPositive atMost someNumerator
    have exponents : exponentOf numerator denominator ≤
        exponentOf otherNumerator otherDenominator := max_le_max_right _ (by omega)
    rw [nearestMagnitude, nearestMagnitude]
    obtain same | less := exponents.eq_or_lt
    · -- In one unit the significands compare as the ratios do.
      rw [significandOf, significandOf, same]
      gcongr
      exact significandAt_le_significandAt positive otherPositive atMost _
    · -- A larger unit is at least twice as large, and the significand in it is full.
      have normal : leastExponent < exponentOf otherNumerator otherDenominator :=
        lt_of_le_of_lt (le_max_right _ _) less
      have full := two_pow_le_significandOf otherPositive someOther normal
      have bounded := significandOf_le someNumerator positive
      calc (significandOf numerator denominator : ℚ) * 2 ^ exponentOf numerator denominator
          ≤ 2 ^ 53 * 2 ^ exponentOf numerator denominator := by
            gcongr
            exact_mod_cast bounded
        _ = 2 ^ 52 * 2 ^ (exponentOf numerator denominator + 1) := by
            rw [zpow_add_one₀ two_ne_zero]
            ring
        _ ≤ 2 ^ 52 * 2 ^ exponentOf otherNumerator otherDenominator := by
            gcongr
            · norm_num
            · omega
        _ ≤ significandOf otherNumerator otherDenominator *
              2 ^ exponentOf otherNumerator otherDenominator := by
            gcongr
            exact_mod_cast full

/-- Only the ratio matters, not how it is written. -/
theorem nearestMagnitude_congr {otherNumerator otherDenominator : Nat}
    (otherPositive : 0 < otherDenominator)
    (same : numerator * otherDenominator = otherNumerator * denominator) :
    nearestMagnitude numerator denominator = nearestMagnitude otherNumerator otherDenominator :=
  le_antisymm (nearestMagnitude_le_nearestMagnitude positive otherPositive same.le)
    (nearestMagnitude_le_nearestMagnitude otherPositive positive same.ge)

/-- A ratio that is a double is not rounded. -/
theorem nearestMagnitude_of_ratio {significand : Nat} {exponent : Int}
    (small : significand < 2 ^ 53) (least : leastExponent ≤ exponent)
    (ratio : (numerator : ℚ) = significand * 2 ^ exponent * denominator) :
    nearestMagnitude numerator denominator = significand * 2 ^ exponent := by
  have someDenominator : (0 : ℚ) < denominator := by exact_mod_cast positive
  rcases Nat.eq_zero_or_pos numerator with rfl | someNumerator
  · have nothing : (significand * 2 ^ exponent : ℚ) = 0 := by
      rw [Nat.cast_zero] at ratio
      exact (mul_eq_zero.mp ratio.symm).resolve_right someDenominator.ne'
    rw [nothing, nearestMagnitude_zero positive]
  · have below : binade numerator denominator < 53 + exponent := by
      refine (zpow_lt_zpow_iff_right₀ (one_lt_two : (1 : ℚ) < 2)).mp ?_
      refine lt_of_mul_lt_mul_left ?_ someDenominator.le
      calc (denominator : ℚ) * 2 ^ binade numerator denominator
          ≤ numerator := (binade_spec someNumerator positive).1
        _ = denominator * (significand * 2 ^ exponent) := by rw [ratio, mul_comm]
        _ < denominator * (2 ^ 53 * 2 ^ exponent) := by
          gcongr
          exact_mod_cast small
        _ = denominator * 2 ^ (53 + exponent) := by
          rw [zpow_add₀ two_ne_zero]
          norm_cast
    -- The unit to which the ratio is rounded divides it.
    obtain ⟨shift, split⟩ : ∃ shift : Nat, exponent = exponentOf numerator denominator + shift :=
      Int.le.dest (max_le (by omega) least) |>.imp fun _ same => same.symm
    have power : (2 : ℚ) ^ exponent = 2 ^ shift * 2 ^ exponentOf numerator denominator := by
      rw [split, zpow_add₀ two_ne_zero, zpow_natCast, mul_comm]
    have rounded : significandOf numerator denominator = significand * 2 ^ shift := by
      refine significandAt_of_multiple positive ?_
      rw [ratio, power]
      push_cast
      ring
    rw [nearestMagnitude, rounded, power]
    push_cast
    ring

end

/-! ### Doubles and rational numbers -/

/-- A rational number is the exact value of some double. -/
def IsDouble (value : ℚ) : Prop :=
  ∃ double : Binary64, double.IsInFormat ∧ double.toRat? = some value

/-- The double nearest to a rational number, as a rational number and without a limit to the
range. -/
def nearest (value : ℚ) : ℚ :=
  if value < 0 then -nearestMagnitude value.num.natAbs value.den
  else nearestMagnitude value.num.natAbs value.den

theorem abs_eq_natAbs_num_div_den (value : ℚ) : |value| = (value.num.natAbs : ℚ) / value.den := by
  conv_lhs => rw [← Rat.num_div_den value]
  rw [abs_div, Nat.abs_cast, Nat.cast_natAbs, Int.cast_abs]

theorem nearest_div {numerator denominator : Nat} (positive : 0 < denominator) :
    nearest (numerator / denominator) = nearestMagnitude numerator denominator := by
  have nonneg : (0 : ℚ) ≤ numerator / denominator := by positivity
  rw [nearest, if_neg (not_lt.mpr nonneg)]
  refine nearestMagnitude_congr (Rat.den_pos _) positive ?_
  have ratio := abs_eq_natAbs_num_div_den (numerator / denominator)
  have someDenominator : (denominator : ℚ) ≠ 0 := by exact_mod_cast positive.ne'
  have someDen : ((numerator / denominator : ℚ).den : ℚ) ≠ 0 := by
    exact_mod_cast (Rat.den_pos _).ne'
  rw [abs_of_nonneg nonneg, div_eq_div_iff someDenominator someDen] at ratio
  exact_mod_cast ratio.symm

theorem nearest_zero : nearest 0 = 0 := by
  rw [nearest, if_neg (lt_irrefl 0), Rat.num_zero, Int.natAbs_zero,
    nearestMagnitude_zero (Rat.den_pos _)]

theorem nearest_neg (value : ℚ) : nearest (-value) = -nearest value := by
  rcases lt_trichotomy value 0 with negative | rfl | positive
  · rw [nearest, nearest, Rat.neg_num, Rat.neg_den, Int.natAbs_neg, if_neg (by linarith),
      if_pos negative, neg_neg]
  · rw [neg_zero, nearest_zero, neg_zero]
  · rw [nearest, nearest, Rat.neg_num, Rat.neg_den, Int.natAbs_neg, if_pos (by linarith),
      if_neg (by linarith)]

theorem nearest_nonneg {value : ℚ} (nonneg : 0 ≤ value) : 0 ≤ nearest value := by
  rw [nearest, if_neg (not_lt.mpr nonneg)]
  exact nearestMagnitude_nonneg _ _

theorem nearest_le_nearest_of_nonneg {value other : ℚ} (nonneg : 0 ≤ value)
    (atMost : value ≤ other) : nearest value ≤ nearest other := by
  have otherNonneg := nonneg.trans atMost
  rw [nearest, nearest, if_neg (not_lt.mpr nonneg), if_neg (not_lt.mpr otherNonneg)]
  refine nearestMagnitude_le_nearestMagnitude value.den_pos other.den_pos ?_
  rw [← abs_of_nonneg nonneg, ← abs_of_nonneg otherNonneg, abs_eq_natAbs_num_div_den,
    abs_eq_natAbs_num_div_den other, div_le_div_iff₀ (by exact_mod_cast value.den_pos)
      (by exact_mod_cast other.den_pos)] at atMost
  exact_mod_cast atMost

/-- A larger number is rounded to no smaller double. -/
theorem nearest_mono : Monotone nearest := by
  intro value other atMost
  rcases le_or_gt 0 value with nonneg | negative
  · exact nearest_le_nearest_of_nonneg nonneg atMost
  · rcases le_or_gt 0 other with otherNonneg | otherNegative
    · have opposite := nearest_nonneg (neg_nonneg.mpr negative.le)
      rw [nearest_neg] at opposite
      exact (neg_nonneg.mp opposite).trans (nearest_nonneg otherNonneg)
    · have turned := nearest_le_nearest_of_nonneg (neg_nonneg.mpr otherNegative.le)
        (neg_le_neg atMost)
      rw [nearest_neg, nearest_neg] at turned
      exact neg_le_neg_iff.mp turned

/-- A double is rounded to itself. -/
theorem nearest_of_isDouble {value : ℚ} (isDouble : IsDouble value) : nearest value = value := by
  obtain ⟨double, format, exact'⟩ := isDouble
  cases double with
  | infinite negative => cases exact'
  | undefined => cases exact'
  | finite negative significand exponent =>
    obtain ⟨small, least, -⟩ := format
    have magnitude : nearest (significand * 2 ^ exponent) = significand * 2 ^ exponent := by
      have nonneg : (0 : ℚ) ≤ significand * 2 ^ exponent := by positivity
      rw [nearest, if_neg (not_lt.mpr nonneg)]
      refine nearestMagnitude_of_ratio (Rat.den_pos _) small least ?_
      rw [← div_eq_iff (by exact_mod_cast (Rat.den_pos _).ne'), ← abs_eq_natAbs_num_div_den,
        abs_of_nonneg nonneg]
    rw [toRat?, scaled_eq] at exact'
    cases negative with
    | false =>
      cases exact'
      exact magnitude
    | true =>
      cases exact'
      rw [if_pos rfl, nearest_neg, magnitude]

/-- A number that is not above a double is not rounded past it. -/
theorem nearest_le {value double : ℚ} (isDouble : IsDouble double) (atMost : value ≤ double) :
    nearest value ≤ double :=
  (nearest_mono atMost).trans_eq (nearest_of_isDouble isDouble)

/-- A number that is not below a double is not rounded past it. -/
theorem le_nearest {value double : ℚ} (isDouble : IsDouble double) (atLeast : double ≤ value) :
    double ≤ nearest value :=
  (nearest_of_isDouble isDouble).symm.trans_le (nearest_mono atLeast)

/-- A whole number of fractions of a power of two is a double while it takes at most 53 bits. -/
theorem isDouble_div_two_pow {whole : Int} {bits : Nat} (small : whole.natAbs < 2 ^ 53)
    (few : bits ≤ 1074) : IsDouble (whole / 2 ^ bits) := by
  refine ⟨.finite (decide (whole < 0)) whole.natAbs (-bits), ⟨small, ?_, ?_⟩, ?_⟩
  · rw [leastExponent]
    omega
  · rw [greatestExponent]
    omega
  · have magnitude : ((whole.natAbs : ℚ)) = |(whole : ℚ)| := by
      rw [Nat.cast_natAbs, Int.cast_abs]
    rw [toRat?, scaled_eq, magnitude, zpow_neg, zpow_natCast, ← div_eq_mul_inv]
    by_cases negative : whole < 0
    · rw [decide_eq_true negative, if_pos rfl, abs_of_neg (by exact_mod_cast negative), neg_div,
        neg_neg]
    · rw [decide_eq_false negative, if_neg Bool.false_ne_true,
        abs_of_nonneg (by exact_mod_cast not_lt.mp negative)]

theorem isDouble_natCast {number : Nat} (small : number < 2 ^ 53) : IsDouble (number : ℚ) := by
  have isDouble : IsDouble ((number : Int) / 2 ^ 0) :=
    isDouble_div_two_pow (by rwa [Int.natAbs_natCast]) (Nat.zero_le _)
  rwa [pow_zero, div_one, Int.cast_natCast] at isDouble

theorem isDouble_quarter : IsDouble (1 / 2 ^ 2) := by
  have isDouble : IsDouble ((1 : Int) / 2 ^ 2) := isDouble_div_two_pow (by norm_num) (by norm_num)
  rwa [Int.cast_one] at isDouble

/-- Rounding does not take a number from one on below one. -/
theorem one_le_nearest {value : ℚ} (large : 1 ≤ value) : 1 ≤ nearest value := by
  have isDouble : IsDouble ((1 : Nat) : ℚ) := isDouble_natCast (by norm_num)
  rw [Nat.cast_one] at isDouble
  exact le_nearest isDouble large

/-- The binade of a ratio from one on is at least that of one. -/
theorem binade_nonneg {numerator denominator : Nat} (positive : 0 < denominator)
    (large : denominator ≤ numerator) : 0 ≤ binade numerator denominator := by
  have someDenominator : (0 : ℚ) < denominator := by exact_mod_cast positive
  have power : (2 : ℚ) ^ (0 : Int) < 2 ^ (binade numerator denominator + 1) := by
    refine lt_of_mul_lt_mul_left ?_ someDenominator.le
    rw [zpow_zero, mul_one]
    have cast : (denominator : ℚ) ≤ numerator := by exact_mod_cast large
    exact cast.trans_lt (binade_spec (positive.trans_le large) positive).2
  have exponents := (zpow_lt_zpow_iff_right₀ (one_lt_two : (1 : ℚ) < 2)).mp power
  omega

/-- Rounding a number from one on changes it by no more than one part in `2 ^ 53`. -/
theorem abs_nearest_sub_le {value : ℚ} (large : 1 ≤ value) :
    |nearest value - value| ≤ value / 2 ^ 53 := by
  have nonneg : 0 ≤ value := zero_le_one.trans large
  have positive := value.den_pos
  have someDenominator : (0 : ℚ) < value.den := by exact_mod_cast positive
  have ratio : value = (value.num.natAbs : ℚ) / value.den := by
    rw [← abs_eq_natAbs_num_div_den, abs_of_nonneg nonneg]
  rw [nearest, if_neg (not_lt.mpr nonneg), nearestMagnitude]
  generalize value.num.natAbs = numerator, value.den = denominator at *
  subst ratio
  have notLess : denominator ≤ numerator := by
    rw [one_le_div someDenominator] at large
    exact_mod_cast large
  -- The unit is at most one part in `2 ^ 52`.
  have normal : leastExponent ≤ binade numerator denominator - 52 := by
    have binade := binade_nonneg positive notLess
    rw [leastExponent]
    omega
  have unit := two_pow_mul_unit_le positive (positive.trans_le notLess) normal
  have above := midpoint_le_of_le_significandAt positive
    (le_refl (significandOf numerator denominator))
  have below := le_midpoint_of_significandAt_le positive
    (le_refl (significandOf numerator denominator))
  have shift : (significandOf numerator denominator * 2 ^ exponentOf numerator denominator : ℚ) =
      significandOf numerator denominator * (denominator * 2 ^ exponentOf numerator denominator) /
        denominator := by
    field_simp
  rw [shift, ← sub_div, abs_div, abs_of_pos someDenominator,
    div_right_comm (numerator : ℚ)]
  refine div_le_div_of_nonneg_right (abs_le.mpr ⟨?_, ?_⟩) someDenominator.le
  · rw [neg_le_sub_iff_le_add]
    linarith
  · linarith

/-! ### What is rounded -/

section

variable {numerator denominator : Nat} (positive : 0 < denominator)
  (fits : numerator < limit * denominator)
include positive fits

/-- Below the limit a ratio is rounded to a finite double of the nearest magnitude. -/
theorem exists_ofRatio_eq (negative : Bool) :
    ∃ significand exponent,
      ofRatio negative numerator denominator = finite negative significand exponent ∧
        scaled significand exponent = nearestMagnitude numerator denominator := by
  have notInfinite := mt (ofRatio_eq_infinite_iff positive negative numerator).mp (not_le.mpr fits)
  rcases Nat.eq_zero_or_pos numerator with rfl | someNumerator
  · refine ⟨0, leastExponent, rfl, ?_⟩
    rw [scaled_eq, nearestMagnitude_zero positive, Nat.cast_zero, zero_mul]
  · rw [ofRatio_eq negative someNumerator] at notInfinite ⊢
    split_ifs at notInfinite ⊢ with carried
    · exact absurd rfl notInfinite
    · -- The carried significand in the next unit has the same value.
      refine ⟨_, _, rfl, ?_⟩
      rw [scaled_eq, nearestMagnitude, carried, zpow_add_one₀ two_ne_zero]
      push_cast
      ring
    · exact absurd rfl notInfinite
    · exact ⟨_, _, rfl, by rw [scaled_eq, nearestMagnitude]⟩

/-- Below the limit a ratio of an integer is rounded to the double nearest to it. -/
theorem toRat?_ofRatio {whole : Int} (same : whole.natAbs = numerator) :
    (ofRatio (decide (whole < 0)) numerator denominator).toRat? =
      some (nearest (whole / denominator)) := by
  obtain ⟨significand, exponent, rounded, magnitude⟩ :=
    exists_ofRatio_eq positive fits (decide (whole < 0))
  rw [rounded, toRat?, magnitude, ← nearest_div positive, ← same]
  by_cases negative : whole < 0
  · have magnitude : (whole.natAbs : ℚ) = -whole := by
      rw [Nat.cast_natAbs, abs_of_neg negative, Int.cast_neg]
    rw [decide_eq_true negative, if_pos rfl, ← nearest_neg, magnitude, neg_div, neg_neg]
  · have magnitude : (whole.natAbs : ℚ) = whole := by
      rw [Nat.cast_natAbs, abs_of_nonneg (not_lt.mp negative)]
    rw [decide_eq_false negative, if_neg Bool.false_ne_true, magnitude]

end

theorem natAbs_num_lt {value : ℚ} {bound : Nat} (below : |value| < bound) :
    value.num.natAbs < bound * value.den := by
  have positive : (0 : ℚ) < value.den := by exact_mod_cast value.den_pos
  rw [abs_eq_natAbs_num_div_den, div_lt_iff₀ positive] at below
  exact_mod_cast below

/-- Below the limit a rational number is rounded to the double nearest to it. -/
theorem toRat?_ofRat {value : ℚ} (below : |value| < limit) :
    (ofRat value).toRat? = some (nearest value) := by
  have rounded := toRat?_ofRatio value.den_pos (natAbs_num_lt below) rfl
  rw [Rat.num_div_den] at rounded
  have sign : decide (value < 0) = decide (value.num < 0) := decide_eq_decide.mpr Rat.num_neg.symm
  rw [ofRat, sign, rounded]

end Binary64

end ColdStart
