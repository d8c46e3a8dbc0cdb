/-
This file says to which double a ratio is rounded. A whole number is reached by
rounding when the ratio reaches the midpoint below it, and rounding to a double is
the same in units of a power of two that leaves at most 53 bits. From there it
follows what every double is like, and which ratios lie past the range: those from
the midpoint between the greatest double and the next power of two on.
-/

import ColdStart.Number.Binary64
import Mathlib.Algebra.Order.Field.Power
import Mathlib.Tactic.FieldSimp
import Mathlib.Tactic.Linarith
import Mathlib.Tactic.NormNum
import Mathlib.Tactic.Ring

namespace ColdStart

/-! ### Rounding to whole numbers -/

section

variable {numerator denominator : Nat} (positive : 0 < denominator)
include positive

/-- A number is reached by rounding from the midpoint below it on. The midpoint itself reaches even
numbers only. -/
theorem le_roundRatio_iff {whole : Nat} :
    whole ≤ roundRatio numerator denominator ↔
      2 * (whole * denominator) + whole % 2 ≤ 2 * numerator + denominator := by
  have split := Nat.div_add_mod' numerator denominator
  have small := Nat.mod_lt numerator positive
  rw [roundRatio]
  generalize numerator / denominator = quotient at *
  generalize numerator % denominator = rest at *
  -- Only the number behind the quotient depends on the rest.
  obtain less | rfl | more : whole ≤ quotient ∨ whole = quotient + 1 ∨ quotient + 2 ≤ whole := by
    omega
  · have product := Nat.mul_le_mul_right denominator less
    refine iff_of_true ?_ (by omega)
    split_ifs <;> omega
  · have product := Nat.add_one_mul quotient denominator
    split_ifs <;> omega
  · have product := Nat.mul_le_mul_right denominator more
    rw [Nat.add_mul] at product
    refine iff_of_false ?_ (by omega)
    split_ifs <;> omega

/-- A number that is reached by rounding is at most one half above the ratio. -/
theorem midpoint_le_of_le_roundRatio {whole : Nat}
    (reached : whole ≤ roundRatio numerator denominator) :
    2 * (whole * denominator) ≤ 2 * numerator + denominator :=
  le_of_add_le_left ((le_roundRatio_iff positive).mp reached)

/-- A number that is not passed by rounding is at most one half below the ratio. -/
theorem le_midpoint_of_roundRatio_le {whole : Nat}
    (notPassed : roundRatio numerator denominator ≤ whole) :
    2 * numerator ≤ 2 * (whole * denominator) + denominator := by
  have passed := mt (le_roundRatio_iff positive).mpr (Nat.not_le.mpr (Nat.lt_succ_of_le notPassed))
  have product := Nat.succ_mul whole denominator
  omega

/-- An even number is reached as soon as the ratio is at most one half below it. -/
theorem le_roundRatio_of_midpoint_le {whole : Nat} (even : whole % 2 = 0)
    (midpoint : 2 * (whole * denominator) ≤ 2 * numerator + denominator) :
    whole ≤ roundRatio numerator denominator :=
  (le_roundRatio_iff positive).mpr (by omega)

end

/-- A number that is a multiple of the denominator is not rounded. -/
theorem roundRatio_mul (quotient denominator : Nat) (positive : 0 < denominator) :
    roundRatio (quotient * denominator) denominator = quotient := by
  rw [roundRatio, Nat.mul_div_cancel _ positive, Nat.mul_mod_left]
  simp [positive]

/-! ### Units of a power of two -/

/-- A ratio is set against a power of two by whole numbers alone. -/
theorem lt_mul_zpow_iff (numerator denominator : Nat) (exponent : Int) :
    (if 0 ≤ exponent then numerator < denominator * Nat.pow 2 exponent.toNat
      else numerator * Nat.pow 2 (-exponent).toNat < denominator) ↔
      (numerator : ℚ) < denominator * 2 ^ exponent := by
  split
  · next nonneg =>
    lift exponent to Nat using nonneg
    rw [Int.toNat_natCast, zpow_natCast, Nat.pow_eq]
    norm_cast
  · next negative =>
    obtain ⟨power, rfl⟩ := Int.exists_eq_neg_ofNat (not_le.mp negative).le
    rw [neg_neg, Int.toNat_natCast, zpow_neg, zpow_natCast, ← div_eq_mul_inv,
      lt_div_iff₀ (by positivity), Nat.pow_eq]
    norm_cast

/-- A positive ratio lies between the power of two of its binade and the next. -/
theorem binade_spec {numerator denominator : Nat} (someNumerator : 0 < numerator)
    (positive : 0 < denominator) :
    (denominator : ℚ) * 2 ^ binade numerator denominator ≤ numerator ∧
      (numerator : ℚ) < denominator * 2 ^ (binade numerator denominator + 1) := by
  have low : (2 : ℚ) ^ (numerator.log2 : Int) ≤ numerator := by
    exact_mod_cast Nat.log2_self_le (by omega)
  have high : (numerator : ℚ) < 2 ^ ((numerator.log2 : Int) + 1) := by
    exact_mod_cast @Nat.lt_log2_self numerator
  have lowBelow : (2 : ℚ) ^ (denominator.log2 : Int) ≤ denominator := by
    exact_mod_cast Nat.log2_self_le (by omega)
  have highBelow : (denominator : ℚ) < 2 ^ ((denominator.log2 : Int) + 1) := by
    exact_mod_cast @Nat.lt_log2_self denominator
  rw [binade]
  simp only [lt_mul_zpow_iff]
  -- The estimate is off by at most one, and then the ratio lies below it.
  split
  · next above =>
    rw [sub_add_cancel]
    refine ⟨?_, above⟩
    calc (denominator : ℚ) * 2 ^ ((numerator.log2 : Int) - denominator.log2 - 1)
        ≤ 2 ^ ((denominator.log2 : Int) + 1) *
            2 ^ ((numerator.log2 : Int) - denominator.log2 - 1) := by gcongr
      _ = 2 ^ (numerator.log2 : Int) := by
          rw [← zpow_add₀ (by norm_num)]
          congr 1
          ring
      _ ≤ numerator := low
  · next reached =>
    refine ⟨not_lt.mp reached, ?_⟩
    calc (numerator : ℚ) < 2 ^ ((numerator.log2 : Int) + 1) := high
      _ = 2 ^ (denominator.log2 : Int) *
            2 ^ ((numerator.log2 : Int) - denominator.log2 + 1) := by
          rw [← zpow_add₀ (by norm_num)]
          congr 1
          ring
      _ ≤ denominator * 2 ^ ((numerator.log2 : Int) - denominator.log2 + 1) := by gcongr

/-- A ratio in units of a power of two, rounded. -/
def significandAt (numerator denominator : Nat) (exponent : Int) : Nat :=
  if 0 ≤ exponent then roundRatio numerator (denominator * Nat.pow 2 exponent.toNat)
  else roundRatio (numerator * Nat.pow 2 (-exponent).toNat) denominator

section

variable {numerator denominator : Nat} {exponent : Int} (positive : 0 < denominator)
include positive

/-- What is rounded is the ratio in units of the power of two, both parts made whole. -/
theorem significandAt_eq :
    ∃ (above below : Nat) (factor : ℚ), 0 < factor ∧ 0 < below ∧
      (above : ℚ) = numerator * factor ∧
      (below : ℚ) = denominator * 2 ^ exponent * factor ∧
      significandAt numerator denominator exponent = roundRatio above below := by
  rw [significandAt]
  split
  · next nonneg =>
    lift exponent to Nat using nonneg
    refine ⟨_, _, 1, one_pos, ?_, (mul_one _).symm, ?_, rfl⟩
    · exact Nat.mul_pos positive (Nat.pow_pos (by decide))
    · simp
  · next negative =>
    obtain ⟨power, rfl⟩ := Int.exists_eq_neg_ofNat (not_le.mp negative).le
    refine ⟨_, _, 2 ^ power, by positivity, positive, ?_, ?_, rfl⟩
    · simp
    · rw [zpow_neg, zpow_natCast, mul_assoc, inv_mul_cancel₀ (by positivity), mul_one]

/-- A ratio that is a whole number of units is not rounded. -/
theorem significandAt_of_multiple {whole : Nat}
    (multiple : (numerator : ℚ) = whole * (denominator * 2 ^ exponent)) :
    significandAt numerator denominator exponent = whole := by
  obtain ⟨above, below, factor, -, someBelow, aboveEq, belowEq, rounded⟩ :=
    @significandAt_eq numerator denominator exponent positive
  have same : above = whole * below := by
    have cast : (above : ℚ) = whole * below := by
      rw [aboveEq, belowEq, multiple, mul_assoc]
    exact_mod_cast cast
  rw [rounded, same, roundRatio_mul _ _ someBelow]

theorem midpoint_le_of_le_significandAt {whole : Nat}
    (reached : whole ≤ significandAt numerator denominator exponent) :
    2 * (whole * (denominator * (2 : ℚ) ^ exponent)) ≤
      2 * numerator + denominator * (2 : ℚ) ^ exponent := by
  obtain ⟨above, below, factor, someFactor, someBelow, aboveEq, belowEq, rounded⟩ :=
    @significandAt_eq numerator denominator exponent positive
  rw [rounded] at reached
  have midpoint : (2 * (whole * below) : ℚ) ≤ 2 * above + below := by
    exact_mod_cast midpoint_le_of_le_roundRatio someBelow reached
  rw [aboveEq, belowEq] at midpoint
  refine le_of_mul_le_mul_right ?_ someFactor
  linarith

theorem le_midpoint_of_significandAt_le {whole : Nat}
    (notPassed : significandAt numerator denominator exponent ≤ whole) :
    (2 * numerator : ℚ) ≤
      2 * (whole * (denominator * (2 : ℚ) ^ exponent)) + denominator * (2 : ℚ) ^ exponent := by
  obtain ⟨above, below, factor, someFactor, someBelow, aboveEq, belowEq, rounded⟩ :=
    @significandAt_eq numerator denominator exponent positive
  rw [rounded] at notPassed
  have midpoint : (2 * above : ℚ) ≤ 2 * (whole * below) + below := by
    exact_mod_cast le_midpoint_of_roundRatio_le someBelow notPassed
  rw [aboveEq, belowEq] at midpoint
  refine le_of_mul_le_mul_right ?_ someFactor
  linarith

theorem le_significandAt_of_midpoint_le {whole : Nat} (even : whole % 2 = 0)
    (midpoint : 2 * (whole * (denominator * (2 : ℚ) ^ exponent)) ≤
      2 * numerator + denominator * (2 : ℚ) ^ exponent) :
    whole ≤ significandAt numerator denominator exponent := by
  obtain ⟨above, below, factor, someFactor, someBelow, aboveEq, belowEq, rounded⟩ :=
    @significandAt_eq numerator denominator exponent positive
  rw [rounded]
  refine le_roundRatio_of_midpoint_le someBelow even ?_
  have scaled := mul_le_mul_of_nonneg_right midpoint someFactor.le
  have whole : (2 * (whole * below) : ℚ) ≤ 2 * above + below := by
    rw [aboveEq, belowEq]
    linarith
  exact_mod_cast whole

end

/-! ### Rounding to doubles -/

namespace Binary64

/-- The least whole number that is rounded past the range: the midpoint between the greatest double
and the next power of two. -/
def limit : Nat := (2 ^ 54 - 1) * 2 ^ 970

theorem two_pow_le_limit : 2 ^ 1023 ≤ limit := by
  have split : 2 ^ 1023 = 2 ^ 53 * 2 ^ 970 := by rw [← Nat.pow_add]
  rw [limit, split]
  exact Nat.mul_le_mul_right _ (by norm_num)

theorem limit_le_two_pow : limit ≤ 2 ^ 1024 := by
  have split : 2 ^ 1024 = 2 ^ 54 * 2 ^ 970 := by rw [← Nat.pow_add]
  rw [limit, split]
  exact Nat.mul_le_mul_right _ (by norm_num)

theorem lt_limit {number : Nat} (small : number ≤ 2 ^ 53) : number < limit := by
  rw [limit]
  refine lt_of_lt_of_le ?_ (Nat.le_mul_of_pos_right _ (by positivity))
  exact lt_of_le_of_lt small (by norm_num)

theorem cast_limit : (limit : ℚ) = (2 ^ 54 - 1) * 2 ^ 970 := by
  rw [limit, Nat.cast_mul, Nat.cast_pow]
  norm_num

/-- The significand and the exponent of a finite double are within their bounds. -/
def IsInFormat : Binary64 → Prop
  | finite _ significand exponent =>
    significand < 2 ^ 53 ∧ leastExponent ≤ exponent ∧ exponent ≤ greatestExponent
  | infinite _ => True
  | undefined => True

/-- The exponent to which a ratio is rounded. -/
def exponentOf (numerator denominator : Nat) : Int :=
  Max.max (binade numerator denominator - 52) leastExponent

/-- The significand of a ratio before it is carried. -/
def significandOf (numerator denominator : Nat) : Nat :=
  significandAt numerator denominator (exponentOf numerator denominator)

theorem ofRatio_eq (negative : Bool) {numerator : Nat} (someNumerator : 0 < numerator)
    (denominator : Nat) :
    ofRatio negative numerator denominator =
      if significandOf numerator denominator = 2 ^ 53 then
        if greatestExponent < exponentOf numerator denominator + 1 then infinite negative
        else finite negative (2 ^ 52) (exponentOf numerator denominator + 1)
      else if greatestExponent < exponentOf numerator denominator then infinite negative
      else finite negative (significandOf numerator denominator)
        (exponentOf numerator denominator) := by
  rw [ofRatio, if_neg (by omega)]
  have exponent : Max.max (binade numerator denominator - 52) leastExponent =
      exponentOf numerator denominator := rfl
  have significand : (if 0 ≤ exponentOf numerator denominator then
        roundRatio numerator (denominator * Nat.pow 2 (exponentOf numerator denominator).toNat)
      else roundRatio (numerator * Nat.pow 2 (-exponentOf numerator denominator).toNat)
        denominator) = significandOf numerator denominator := rfl
  simp only [exponent]
  rw [significand]
  simp only [precision, Nat.pow_eq]
  by_cases carried : significandOf numerator denominator = 2 ^ 53
  · simp only [carried, ↓reduceIte]
  · simp only [carried, ↓reduceIte]

section

variable {numerator denominator : Nat} (someNumerator : 0 < numerator) (positive : 0 < denominator)
include someNumerator positive

/-- The exponent leaves at most 53 bits, so the next power of two can only just be reached. -/
theorem significandOf_le : significandOf numerator denominator ≤ 2 ^ 53 := by
  by_contra tooLarge
  have midpoint := midpoint_le_of_le_significandAt positive (Nat.succ_le_of_lt (not_le.mp tooLarge))
  have below := (binade_spec someNumerator positive).2
  have step : binade numerator denominator + 1 ≤ 53 + exponentOf numerator denominator := by
    have atLeast := le_max_left (binade numerator denominator - 52) leastExponent
    rw [exponentOf]
    omega
  have unit : (0 : ℚ) < denominator * 2 ^ exponentOf numerator denominator := by
    have someDenominator : (0 : ℚ) < denominator := by exact_mod_cast positive
    positivity
  have spread : (denominator : ℚ) * 2 ^ (binade numerator denominator + 1) ≤
      2 ^ 53 * (denominator * 2 ^ exponentOf numerator denominator) := by
    calc (denominator : ℚ) * 2 ^ (binade numerator denominator + 1)
        ≤ denominator * 2 ^ (53 + exponentOf numerator denominator) := by
          gcongr
          norm_num
      _ = 2 ^ 53 * (denominator * 2 ^ exponentOf numerator denominator) := by
          rw [zpow_add₀ (by norm_num)]
          norm_cast
          ring
  push_cast at midpoint
  linarith

/-- Below the last binade a ratio is below the limit. -/
theorem lt_limit_mul_of_binade_lt (less : binade numerator denominator < 1023) :
    numerator < limit * denominator := by
  have power : (2 : ℚ) ^ (binade numerator denominator + 1) ≤ 2 ^ ((1023 : Nat) : Int) :=
    zpow_le_zpow_right₀ (by norm_num) (by omega)
  have within : (2 : ℚ) ^ ((1023 : Nat) : Int) ≤ limit := by
    rw [zpow_natCast]
    exact_mod_cast two_pow_le_limit
  have fits : (numerator : ℚ) < limit * denominator := by
    calc (numerator : ℚ) < denominator * 2 ^ (binade numerator denominator + 1) :=
          (binade_spec someNumerator positive).2
      _ ≤ denominator * limit := by gcongr; exact power.trans within
      _ = limit * denominator := mul_comm _ _
  exact_mod_cast fits

/-- Above the last binade a ratio is past the limit. -/
theorem limit_mul_le_of_lt_binade (more : 1023 < binade numerator denominator) :
    limit * denominator ≤ numerator := by
  have power : (2 : ℚ) ^ ((1024 : Nat) : Int) ≤ 2 ^ binade numerator denominator :=
    zpow_le_zpow_right₀ (by norm_num) (by omega)
  have beyond : (limit : ℚ) ≤ 2 ^ ((1024 : Nat) : Int) := by
    rw [zpow_natCast]
    exact_mod_cast limit_le_two_pow
  have past : (limit : ℚ) * denominator ≤ numerator := by
    calc (limit : ℚ) * denominator = denominator * limit := mul_comm _ _
      _ ≤ denominator * 2 ^ binade numerator denominator := by
        gcongr
        exact beyond.trans power
      _ ≤ numerator := (binade_spec someNumerator positive).1
  exact_mod_cast past

omit someNumerator in
/-- In the last binade the next power of two is reached from the limit on. -/
theorem two_pow_le_significandOf_iff (last : exponentOf numerator denominator = greatestExponent) :
    2 ^ 53 ≤ significandOf numerator denominator ↔ limit * denominator ≤ numerator := by
  have unit : (2 : ℚ) ^ exponentOf numerator denominator = 2 * 2 ^ 970 := by
    rw [last, ← pow_succ']
    exact zpow_natCast 2 971
  have midpoint : limit * denominator ≤ numerator ↔
      2 * (((2 ^ 53 : Nat) : ℚ) * (denominator * 2 ^ exponentOf numerator denominator)) ≤
        2 * numerator + denominator * 2 ^ exponentOf numerator denominator := by
    have cast : limit * denominator ≤ numerator ↔ (limit : ℚ) * denominator ≤ numerator := by
      exact_mod_cast Iff.rfl
    rw [cast, unit, cast_limit]
    push_cast
    generalize (2 : ℚ) ^ 970 = power
    constructor <;> intro bound <;> linarith
  rw [midpoint]
  exact ⟨midpoint_le_of_le_significandAt positive,
    le_significandAt_of_midpoint_le positive (by norm_num)⟩

/-- Exactly the positive ratios from the limit on are rounded past the range. -/
theorem ofRatio_eq_infinite_iff_of_pos (negative : Bool) :
    ofRatio negative numerator denominator = infinite negative ↔
      limit * denominator ≤ numerator := by
  rw [ofRatio_eq negative someNumerator]
  have exponent : exponentOf numerator denominator =
      Max.max (binade numerator denominator - 52) (-1074) := rfl
  have greatest : greatestExponent = 971 := rfl
  rcases lt_trichotomy (binade numerator denominator) 1023 with less | edge | more
  · -- Below the last binade nothing is rounded past the range.
    have fits := lt_limit_mul_of_binade_lt someNumerator positive less
    rw [if_neg (show ¬ greatestExponent < exponentOf numerator denominator + 1 by omega),
      if_neg (show ¬ greatestExponent < exponentOf numerator denominator by omega)]
    refine iff_of_false ?_ (not_le.mpr fits)
    split_ifs <;> simp
  · -- In the last binade only what is carried is.
    rw [if_pos (show greatestExponent < exponentOf numerator denominator + 1 by omega),
      if_neg (show ¬ greatestExponent < exponentOf numerator denominator by omega),
      ← two_pow_le_significandOf_iff positive (by omega)]
    have bounded := significandOf_le someNumerator positive
    split_ifs with carried
    · exact iff_of_true rfl carried.ge
    · exact iff_of_false (by simp) (by omega)
  · -- Above it everything is.
    rw [if_pos (show greatestExponent < exponentOf numerator denominator + 1 by omega),
      if_pos (show greatestExponent < exponentOf numerator denominator by omega), ite_self]
    exact iff_of_true rfl (limit_mul_le_of_lt_binade someNumerator positive more)

end

section

variable {denominator : Nat} (positive : 0 < denominator)
include positive

/-- Rounding gives a double. -/
theorem isInFormat_ofRatio (negative : Bool) (numerator : Nat) :
    (ofRatio negative numerator denominator).IsInFormat := by
  rcases Nat.eq_zero_or_pos numerator with rfl | someNumerator
  · exact ⟨by norm_num, le_refl _, by decide⟩
  · have bounded := significandOf_le someNumerator positive
    have least : leastExponent ≤ exponentOf numerator denominator := le_max_right _ _
    rw [ofRatio_eq negative someNumerator]
    split_ifs with carried high high
    · trivial
    · exact ⟨by norm_num, by omega, by omega⟩
    · trivial
    · exact ⟨by omega, by omega, by omega⟩

/-- Exactly the ratios from the limit on are rounded past the range. -/
theorem ofRatio_eq_infinite_iff (negative : Bool) (numerator : Nat) :
    ofRatio negative numerator denominator = infinite negative ↔
      limit * denominator ≤ numerator := by
  rcases Nat.eq_zero_or_pos numerator with rfl | someNumerator
  · have someLimit : 0 < limit * denominator :=
      Nat.mul_pos (lt_of_lt_of_le (by positivity) two_pow_le_limit) positive
    exact iff_of_false (fun equal => by cases equal) (by omega)
  · exact ofRatio_eq_infinite_iff_of_pos someNumerator positive negative

end

/-! ### Exact values -/

theorem scaled_eq (significand : Nat) (exponent : Int) :
    scaled significand exponent = significand * 2 ^ exponent := by
  rw [scaled]
  split
  · next nonneg =>
    lift exponent to Nat using nonneg
    simp
  · next negative =>
    obtain ⟨power, rfl⟩ := Int.exists_eq_neg_ofNat (not_le.mp negative).le
    rw [Rat.mkRat_eq_div, zpow_neg, zpow_natCast, div_eq_mul_inv]
    simp

/-- A finite double is below the limit by more than one. -/
theorem scaled_add_one_le_limit {significand : Nat} {exponent : Int}
    (small : significand < 2 ^ 53) (low : exponent ≤ greatestExponent) :
    scaled significand exponent + 1 ≤ limit := by
  have power : (2 : ℚ) ^ exponent ≤ 2 * 2 ^ 970 := by
    calc (2 : ℚ) ^ exponent ≤ 2 ^ ((971 : Nat) : Int) := zpow_le_zpow_right₀ (by norm_num) low
      _ = 2 * 2 ^ 970 := by rw [zpow_natCast, pow_succ']
  have bits : (significand : ℚ) ≤ 2 ^ 53 - 1 := by
    have whole : significand + 1 ≤ 2 ^ 53 := small
    have cast : (significand : ℚ) + 1 ≤ 2 ^ 53 := by exact_mod_cast whole
    linarith
  have gap (top : ℚ) (atLeast : 1 ≤ top) : (2 ^ 53 - 1) * (2 * top) + 1 ≤ (2 ^ 54 - 1) * top := by
    linarith
  have product : (significand : ℚ) * 2 ^ exponent ≤ (2 ^ 53 - 1) * (2 * 2 ^ 970) := by
    gcongr
  rw [scaled_eq, cast_limit]
  exact (add_le_add_left product 1).trans (gap _ (one_le_pow₀ (by norm_num)))

end Binary64

end ColdStart
