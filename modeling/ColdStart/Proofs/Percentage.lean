/-
This file shows that in the working range a percentage is the exact share rounded to a
whole number, a half upward. Before its fraction is dropped the share is rounded to a
double, and so is its sum with one half. Whole numbers and halves are doubles there, so
no share is moved below them. Nor is a share moved up to a half that it lies below: the
two differ by at least one part in twice the denominator, which leaves room for a double
between them that is still a double when one half is added. Beyond the working range that
law is lost, but not the order of percentages: rounding is monotone at any size.
-/

import ColdStart.Proofs.Number.Range
import Mathlib.Algebra.Order.Round

namespace ColdStart

namespace Binary64

/-! ### The room below a half -/

/-- A number of at most 52 bits can be shifted until it has all of them. -/
theorem exists_fullShift {number : Int} (someNumber : number ≠ 0) (small : |number| < 2 ^ 52) :
    ∃ places bits, places + bits = 51 ∧ 2 ^ places ≤ |number| ∧ |number * 2 ^ bits| < 2 ^ 52 := by
  have nonzero : number.natAbs ≠ 0 := Int.natAbs_ne_zero.mpr someNumber
  have smallNat : number.natAbs < 2 ^ 52 := by zify; exact small
  obtain ⟨bits, all⟩ := Nat.le.dest (Nat.le_of_lt_succ ((Nat.log2_lt nonzero).mpr smallNat))
  have somePower : (0 : Int) < 2 ^ bits := by positivity
  refine ⟨number.natAbs.log2, bits, all, ?_, ?_⟩
  · rw [← Int.natCast_natAbs]
    exact_mod_cast Nat.log2_self_le nonzero
  · have high : |number| < 2 ^ (number.natAbs.log2 + 1) := by
      rw [← Int.natCast_natAbs]
      exact_mod_cast Nat.lt_log2_self
    calc |number * 2 ^ bits|
        = |number| * 2 ^ bits := by rw [abs_mul, abs_of_pos somePower]
      _ < 2 ^ (number.natAbs.log2 + 1) * 2 ^ bits := by gcongr
      _ = 2 ^ 52 := by rw [← pow_add, Nat.add_right_comm, all]

/-- A ratio that lies below a half, written as an odd number over two, lies below it by at least
the last of as many binary places as a significand of 52 bits leaves, if its numerator has no more
than 50 bits. -/
theorem denominator_le_two_pow_mul {number twiceHalf : Int} {denominator places bits : Nat}
    (small : |number| < 2 ^ 50) (all : places + bits = 51) (large : 2 ^ places ≤ |twiceHalf|)
    (below : 2 * number < twiceHalf * denominator) :
    denominator ≤ 2 ^ bits * (twiceHalf * denominator - 2 * number) := by
  by_contra close
  have gap : 0 < twiceHalf * denominator - 2 * number := sub_pos.mpr below
  have magnitude : |twiceHalf| * denominator ≤
      (twiceHalf * denominator - 2 * number) + 2 * |number| := by
    calc |twiceHalf| * denominator
        = |(twiceHalf * denominator - 2 * number) + 2 * number| := by
          rw [sub_add_cancel, abs_mul, Nat.abs_cast]
      _ ≤ |twiceHalf * denominator - 2 * number| + |2 * number| := abs_add_le _ _
      _ = (twiceHalf * denominator - 2 * number) + 2 * |number| := by
          rw [abs_of_pos gap, abs_mul, abs_two]
  -- A denominator that large would need a numerator of more bits.
  have size : 2 ^ 51 * (twiceHalf * denominator - 2 * number) < |twiceHalf| * denominator := by
    calc 2 ^ 51 * (twiceHalf * denominator - 2 * number)
        = 2 ^ places * (2 ^ bits * (twiceHalf * denominator - 2 * number)) := by
          rw [← mul_assoc, ← pow_add, all]
      _ < 2 ^ places * denominator :=
          mul_lt_mul_of_pos_left (not_le.mp close) (by positivity)
      _ ≤ |twiceHalf| * denominator := by gcongr
  generalize twiceHalf * denominator - 2 * number = distance at *
  omega

/-- A share below `whole + 1 / 2` is at most a double below it that is still a double when one half
is added. -/
theorem exists_isDouble_below_half {number whole : Int} {denominator : Nat}
    (positive : 0 < denominator) (small : |number| < 2 ^ 50) (near : |2 * whole + 1| < 2 ^ 52)
    (below : (number / denominator : ℚ) < whole + 1 / 2) :
    ∃ bound : ℚ, number / denominator ≤ bound ∧ bound + 1 / 2 < whole + 1 ∧
      IsDouble bound ∧ IsDouble (bound + 1 / 2) := by
  have someDenominator : (0 : ℚ) < denominator := by exact_mod_cast positive
  have cross : 2 * number < (2 * whole + 1) * denominator := by
    rw [div_lt_iff₀ someDenominator] at below
    have twice : (2 * number : ℚ) < (2 * whole + 1) * denominator := by linarith
    exact_mod_cast twice
  obtain ⟨places, bits, all, low, fits⟩ := exists_fullShift (by omega) near
  have room := denominator_le_two_pow_mul small all low cross
  have somePower : (0 : Int) < 2 ^ bits := by positivity
  have fewPlaces : (2 : Int) ^ bits ≤ 2 ^ 51 := by gcongr <;> omega
  obtain ⟨least, most⟩ := abs_lt.mp fits
  have sum : (((2 * whole + 1) * 2 ^ bits - 1 : Int) / 2 ^ (bits + 1) + 1 / 2 : ℚ) =
      ((2 * whole + 1) * 2 ^ bits + 2 ^ bits - 1 : Int) / 2 ^ (bits + 1) := by
    push_cast
    rw [pow_succ]
    field_simp
    ring
  refine ⟨((2 * whole + 1) * 2 ^ bits - 1 : Int) / 2 ^ (bits + 1), ?_, ?_, ?_, ?_⟩
  · rw [div_le_div_iff₀ someDenominator (by positivity)]
    have scaled : number * 2 ^ (bits + 1) ≤ ((2 * whole + 1) * 2 ^ bits - 1) * denominator := by
      rw [pow_succ]
      linarith
    exact_mod_cast scaled
  · rw [sum, div_lt_iff₀ (by positivity)]
    push_cast
    rw [pow_succ]
    linarith
  · refine isDouble_div_two_pow ?_ (by omega)
    omega
  · rw [sum]
    refine isDouble_div_two_pow ?_ (by omega)
    omega

/-- Two roundings to doubles, with one half added in between, do not change which whole number is
reached. -/
theorem floor_nearest_nearest_add_half {number : Int} {denominator : Nat}
    (positive : 0 < denominator) (small : |number| < 2 ^ 50) :
    ⌊nearest (nearest (number / denominator) + 1 / 2)⌋ = ⌊(number / denominator : ℚ) + 1 / 2⌋ := by
  have atLeast := Int.floor_le (number / denominator + 1 / 2 : ℚ)
  have below := Int.lt_floor_add_one (number / denominator + 1 / 2 : ℚ)
  have magnitude : |(number / denominator : ℚ)| < 2 ^ 50 := by
    have someDenominator : (1 : ℚ) ≤ denominator := by exact_mod_cast positive
    rw [abs_div, Nat.abs_cast]
    refine (div_le_self (abs_nonneg _) someDenominator).trans_lt ?_
    exact_mod_cast small
  obtain ⟨least, most⟩ := abs_lt.mp magnitude
  generalize ⌊(number / denominator + 1 / 2 : ℚ)⌋ = whole at *
  have near : |2 * whole + 1| < 2 ^ 52 := by
    have cast : (|2 * whole + 1| : ℚ) < 2 ^ 52 := abs_lt.mpr ⟨by linarith, by linarith⟩
    exact_mod_cast cast
  obtain ⟨leastWhole, mostWhole⟩ := abs_lt.mp near
  have isHalf : IsDouble ((2 * whole - 1 : Int) / 2 ^ 1) :=
    isDouble_div_two_pow (by omega) (by omega)
  have isWhole : IsDouble (whole / 2 ^ 0) := isDouble_div_two_pow (by omega) (by omega)
  push_cast at isHalf
  rw [pow_zero, div_one] at isWhole
  refine Int.floor_eq_iff.mpr ⟨?_, ?_⟩
  · refine le_nearest isWhole ?_
    have half : (2 * whole - 1 : ℚ) / 2 ^ 1 ≤ nearest (number / denominator) :=
      le_nearest isHalf (by linarith)
    linarith
  · obtain ⟨bound, shareLe, sumLt, isBound, isSum⟩ :=
      exists_isDouble_below_half positive small near (by linarith)
    refine lt_of_le_of_lt (nearest_le isSum ?_) sumLt
    exact add_le_add_left (nearest_le isBound shareLe) _

end Binary64

/-! ### Order -/

/-- A larger number has no smaller percentage of the same baseline, at any size: every rounding on
the way is monotone. -/
theorem percentage_mono {number other baseline share otherShare : Int} (atMost : number ≤ other)
    (given : percentage number baseline = .ok share)
    (otherGiven : percentage other baseline = .ok otherShare) : share ≤ otherShare := by
  have shares : ((number * percentFactor : Int) / (max baseline 1).toNat : ℚ) ≤
      (other * percentFactor : Int) / (max baseline 1).toNat := by
    have hundredfold : number * percentFactor ≤ other * percentFactor := by
      rw [percentFactor]
      omega
    gcongr
  rw [percentage_eq] at given otherGiven
  split at given
  · split at otherGiven
    · obtain rfl := Except.ok.inj given
      obtain rfl := Except.ok.inj otherGiven
      exact Int.floor_mono <| Binary64.nearest_mono <|
        add_le_add_left (Binary64.nearest_mono shares) _
    · cases otherGiven
  · cases given

/-- A baseline of one or more is a hundred percent of itself, at any size. -/
theorem percentage_self {baseline : Int} (positive : 1 ≤ baseline) :
    percentage baseline baseline = .ok percentFactor := by
  have nonzero : (baseline : ℚ) ≠ 0 := Int.cast_ne_zero.mpr (by omega)
  have divisor : (((max baseline 1).toNat : Nat) : ℚ) = baseline := by
    rw [max_eq_left positive]
    exact_mod_cast Int.toNat_of_nonneg (zero_le_one.trans positive)
  have share : ((baseline * percentFactor : Int) / (max baseline 1).toNat : ℚ) = 100 := by
    rw [divisor, percentFactor]
    push_cast
    field_simp
  have isHundred : Binary64.IsDouble 100 := by
    have double : Binary64.IsDouble ((100 : Int) / 2 ^ 0) :=
      Binary64.isDouble_div_two_pow (by norm_num) (by omega)
    norm_num at double
    exact double
  have isSum : Binary64.IsDouble (100 + 1 / 2) := by
    have double : Binary64.IsDouble ((201 : Int) / 2 ^ 1) :=
      Binary64.isDouble_div_two_pow (by norm_num) (by omega)
    norm_num at double ⊢
    exact double
  have fits : HasShare baseline baseline := by
    have magnitude : baseline.natAbs = baseline.toNat := by omega
    have hundred : percentFactor.natAbs < Binary64.limit := Binary64.lt_limit (by decide)
    rw [HasShare, max_eq_left positive, Int.natAbs_mul, magnitude, Nat.mul_comm]
    exact Nat.mul_lt_mul_of_pos_right hundred (by omega)
  rw [percentage_eq, if_pos fits, share, Binary64.nearest_of_isDouble isHundred,
    Binary64.nearest_of_isDouble isSum]
  norm_num [percentFactor]

/-! ### Percentages -/

/-- Up to `2 ^ 43` every number has a percentage of every baseline, and it is the exact share in
percent rounded to the nearest whole number, a half upward. -/
theorem percentage_isRoundedHalfUp {number : Int} (small : |number| ≤ 2 ^ 43) (baseline : Int) :
    let divisor := max baseline 1
    percentage number baseline = .ok ⌊(200 * number + divisor : ℚ) / (2 * divisor)⌋ ∧
      ⌊(200 * number + divisor : ℚ) / (2 * divisor)⌋ = round (100 * number / divisor : ℚ) := by
  intro divisor
  have positive : 0 < divisor := lt_of_lt_of_le one_pos (le_max_right _ _)
  have someDivisor : (0 : ℚ) < divisor := by exact_mod_cast positive
  have hundredfold : |number * percentFactor| < 2 ^ 50 := by
    rw [percentFactor, abs_mul]
    norm_num
    omega
  have share : HasShare number baseline := by
    have natural : (number * percentFactor).natAbs ≤ 2 ^ 53 := by
      zify
      linarith
    exact (Binary64.lt_limit natural).trans_le (Nat.le_mul_of_pos_right _ (by omega))
  have cast : ((divisor.toNat : Nat) : ℚ) = divisor := by
    exact_mod_cast Int.toNat_of_nonneg positive.le
  have half : ((number * percentFactor : Int) / divisor.toNat : ℚ) + 1 / 2 =
      (200 * number + divisor) / (2 * divisor) := by
    rw [cast, percentFactor]
    push_cast
    field_simp
    ring
  have rounded : (100 * number / divisor : ℚ) + 1 / 2 =
      (200 * number + divisor) / (2 * divisor) := by
    field_simp
    ring
  constructor
  · rw [percentage_eq, if_pos share,
      Binary64.floor_nearest_nearest_add_half (by omega) hundredfold, half]
  · rw [round_eq, rounded]

/-- A share just below one half, as close as a number of that size can come to it. -/
theorem percentage_isRoundedHalfUp_belowHalf :
    |(2 ^ 43 : Int)| ≤ 2 ^ 43 ∧ percentage (2 ^ 43) (200 * 2 ^ 43 + 1) = .ok 0 := by
  have small : |(2 ^ 43 : Int)| ≤ 2 ^ 43 := by decide
  obtain ⟨given, -⟩ := percentage_isRoundedHalfUp small (200 * 2 ^ 43 + 1)
  refine ⟨small, given.trans (congrArg Except.ok ?_)⟩
  norm_num

end ColdStart
