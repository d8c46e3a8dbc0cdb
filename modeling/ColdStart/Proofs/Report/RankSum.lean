/-
This file says when the rank sum test gives a probability. The exact distribution always does.
With the normal one the distance of the statistic from its mean is divided by the spread, which
ties make smaller: they take from the number of times and one, and if not all times are the same,
at least one is left, with what is rounded on the way. If all are the same nothing is left, and
the statistic is at its mean. One half is taken off all the same, so the distance is infinite
below the mean, and the probability is one.
-/

import ColdStart.Proofs.Number.Arithmetic
import ColdStart.Report.RankSum
import Mathlib.Algebra.Order.BigOperators.Group.List

namespace ColdStart

open Binary64

theorem sumOf_eq_sum (counts : List Nat) : sumOf counts = counts.sum :=
  List.sum_eq_foldl.symm

/-! ### The exact distribution -/

/-- The exact distribution has a probability for every statistic. -/
theorem exactTail_ne_undefined (first second above : Nat) :
    exactTail first second above ≠ undefined := by
  rw [exactTail]
  generalize (rankSumCounts first second).take _ = counts
  generalize sumOf _ = orders
  suffices ∀ sum : Binary64, sum.IsUnsigned →
      (counts.foldl (fun sum count => sum.add (.ofRatio false count orders)) sum).IsUnsigned from
    (this (zero false) (isUnsigned_finite _ _)).1
  induction counts with
  | nil => exact fun sum unsigned => unsigned
  | cons count rest inductionHypothesis =>
    exact fun sum unsigned => inductionHypothesis _ (unsigned.add (isUnsigned_ofRatio count orders))

namespace SamplePair

variable (pair : SamplePair)

/-- The number of all times. -/
def size : Nat := pair.candidate.length + pair.baseline.length

theorem length_all : pair.all.length = pair.size := List.length_append

/-! ### Ties -/

/-- All times are the same. -/
def IsTied : Prop := ∀ time ∈ pair.all, ∀ other ∈ pair.all, time = other

theorem multiplicity_le (time : ℚ) : pair.multiplicity time ≤ pair.size :=
  List.count_le_length.trans_eq pair.length_all

theorem multiplicity_of_isTied (tied : pair.IsTied) {time : ℚ} (member : time ∈ pair.all) :
    pair.multiplicity time = pair.size := by
  rw [multiplicity, ← length_all, List.count_eq_length]
  exact fun other isOther => tied time member other isOther

theorem multiplicity_lt_of_not_isTied (apart : ¬ pair.IsTied) (time : ℚ) :
    pair.multiplicity time < pair.size := by
  refine lt_of_le_of_ne (pair.multiplicity_le time) fun same => apart ?_
  rw [multiplicity, ← length_all, List.count_eq_length] at same
  exact fun first isFirst second isSecond =>
    (same first isFirst).symm.trans (same second isSecond)

theorem tieTerm_of_isTied (tied : pair.IsTied) :
    pair.tieTerm = pair.size * (pair.size ^ 2 - 1) := by
  have terms : pair.all.map (fun time => Nat.pow (pair.multiplicity time) 2 - 1) =
      List.replicate pair.size (pair.size ^ 2 - 1) := by
    rw [← length_all]
    refine List.map_eq_replicate_iff.mpr fun time member => ?_
    rw [pair.multiplicity_of_isTied tied member, length_all]
    rfl
  rw [tieTerm, terms, sumOf_eq_sum, List.sum_replicate, Nat.nsmul_eq_mul]

theorem tieTerm_le_of_not_isTied (apart : ¬ pair.IsTied) :
    pair.tieTerm ≤ pair.size * (pair.size - 1) ^ 2 := by
  rw [tieTerm, sumOf_eq_sum]
  refine (List.sum_le_card_nsmul _ ((pair.size - 1) ^ 2) fun term member => ?_).trans_eq ?_
  · obtain ⟨time, -, rfl⟩ := List.mem_map.mp member
    have fewer := pair.multiplicity_lt_of_not_isTied apart time
    exact (Nat.sub_le _ _).trans (Nat.pow_le_pow_left (by omega) 2)
  · rw [List.length_map, length_all, Nat.nsmul_eq_mul]

/-! ### The statistic -/

theorem twiceRank_le (time : ℚ) : pair.twiceRank time ≤ 4 * pair.size + 1 := by
  have below := List.length_filter_le (fun other => decide (other < time)) pair.all
  have same := pair.multiplicity_le time
  rw [length_all] at below
  rw [twiceRank]
  omega

theorem twiceStatistic_le : pair.twiceStatistic ≤ 5 * pair.size ^ 2 := by
  have first : pair.candidate.length ≤ pair.size := Nat.le_add_right _ _
  have second : pair.baseline.length ≤ pair.size := Nat.le_add_left _ _
  have ranks : sumOf (pair.candidate.map pair.twiceRank) ≤ 5 * pair.size ^ 2 := by
    rw [sumOf_eq_sum]
    calc (pair.candidate.map pair.twiceRank).sum
        ≤ (pair.candidate.map pair.twiceRank).length • (4 * pair.size + 1) := by
          refine List.sum_le_card_nsmul _ _ fun rank member => ?_
          obtain ⟨time, -, rfl⟩ := List.mem_map.mp member
          exact pair.twiceRank_le time
      _ = pair.candidate.length * (4 * pair.size + 1) := by
          rw [List.length_map, Nat.nsmul_eq_mul]
      _ ≤ pair.size * (4 * pair.size + 1) := Nat.mul_le_mul_right _ first
      _ = 4 * pair.size ^ 2 + pair.size := by ring
      _ ≤ 5 * pair.size ^ 2 := by
          have square := Nat.le_self_pow two_ne_zero pair.size
          omega
  have pairs : 2 * pair.candidate.length * pair.baseline.length ≤ 5 * pair.size ^ 2 := by
    calc 2 * pair.candidate.length * pair.baseline.length
        ≤ 2 * pair.size * pair.size := Nat.mul_le_mul (Nat.mul_le_mul_left 2 first) second
      _ = 2 * pair.size ^ 2 := by ring
      _ ≤ 5 * pair.size ^ 2 := Nat.mul_le_mul_right _ (by norm_num)
  exact max_le ((Nat.sub_le _ _).trans ranks) ((Nat.sub_le _ _).trans pairs)

/-- If all times are the same, every pair of two is a tie. -/
theorem twiceStatistic_of_isTied (tied : pair.IsTied) :
    pair.twiceStatistic = pair.candidate.length * pair.baseline.length := by
  have ranks : pair.candidate.map pair.twiceRank =
      List.replicate pair.candidate.length (pair.size + 1) := by
    refine List.map_eq_replicate_iff.mpr fun time member => ?_
    have inAll : time ∈ pair.all := List.mem_append_left _ member
    have none : pair.all.filter (· < time) = [] := by
      refine List.filter_eq_nil_iff.mpr fun other isOther => ?_
      simp [tied other isOther time inAll]
    rw [twiceRank, none, pair.multiplicity_of_isTied tied inAll, List.length_nil]
    omega
  have pairs : pair.candidate.length * (pair.size + 1) =
      pair.candidate.length * (pair.candidate.length + 1) +
        pair.candidate.length * pair.baseline.length := by
    rw [size]
    ring
  rw [twiceStatistic, ranks, sumOf_eq_sum, List.sum_replicate, Nat.nsmul_eq_mul, pairs, mul_assoc]
  omega

/-! ### The distance -/

/-- What ties take from the number of times and one. -/
def correction : Binary64 :=
  (ofInt pair.tieTerm).div (ofInt (pair.size * (pair.size - 1) : Nat))

/-- What ties leave of the number of times and one. -/
def factor : Binary64 := (ofInt (pair.size + 1 : Nat)).sub pair.correction

/-- The product of the numbers of times, which is twice the mean of the statistic. -/
def product : Nat := pair.candidate.length * pair.baseline.length

/-- The spread of the statistic. -/
def spread : Binary64 := ((ofRatio false pair.product 12).mul pair.factor).sqrt

/-- How far the statistic is from its mean, one half taken off. -/
def shift : Binary64 :=
  ((ofRatio false pair.twiceStatistic 2).sub (ofRatio false pair.product 2)).sub
    (ofRatio false 1 2)

theorem distance_eq : pair.distance = pair.shift.div pair.spread := rfl

/-- There are two times at least on each side. -/
def IsEnough : Prop := 2 ≤ pair.candidate.length ∧ 2 ≤ pair.baseline.length

variable {pair} (enough : pair.IsEnough)
include enough

theorem IsEnough.four_le_size : 4 ≤ pair.size := Nat.add_le_add enough.1 enough.2

theorem IsEnough.four_le_product : 4 ≤ pair.product := Nat.mul_le_mul enough.1 enough.2

section

variable (few : pair.size ≤ 2 ^ 52)
include few

omit enough in
theorem size_sq_le : pair.size ^ 2 ≤ 2 ^ 104 := Nat.pow_le_pow_left few 2

omit enough in
theorem product_le : pair.product ≤ 2 ^ 104 := by
  calc pair.product ≤ pair.size * pair.size :=
        Nat.mul_le_mul (Nat.le_add_right _ _) (Nat.le_add_left _ _)
    _ = pair.size ^ 2 := (sq _).symm
    _ ≤ 2 ^ 104 := size_sq_le few

/-- If not all times are the same, ties take no more than the number of times. -/
theorem exists_correction (apart : ¬ pair.IsTied) :
    ∃ taken, pair.correction.toRat? = some taken ∧ 0 ≤ taken ∧ taken ≤ pair.size := by
  have some := enough.four_le_size
  have ties : pair.tieTerm ≤ pair.size * (pair.size - 1) * (pair.size - 1) :=
    (pair.tieTerm_le_of_not_isTied apart).trans_eq (by ring)
  have fewer : pair.size - 1 ≤ 2 ^ 52 := (Nat.sub_le _ _).trans few
  have fewOrders := mul_le_two_pow few fewer
  have fewTies := ties.trans (mul_le_two_pow fewOrders fewer)
  have someOrders : 1 ≤ pair.size * (pair.size - 1) := Nat.mul_pos (by omega) (by omega)
  have room : (pair.tieTerm : ℚ) ≤
      (pair.size * (pair.size - 1) : Nat) * ((pair.size : ℚ) - 1) := by
    rw [← Nat.cast_pred (by omega)]
    exact_mod_cast ties
  have quotient := nearest_div_nearest_le (by exact_mod_cast someOrders)
    (by exact_mod_cast (by omega : 2 ≤ pair.size)) (by exact_mod_cast few) room
  have tieExact := toRat?_ofInt_nearest _ (lt_limit_of_bits fewTies (by norm_num))
  have ordersExact := toRat?_ofInt_nearest _ (lt_limit_of_bits fewOrders (by norm_num))
  have someNearest : 1 ≤ nearest (pair.size * (pair.size - 1) : Nat) :=
    one_le_nearest (by exact_mod_cast someOrders)
  have nonneg : 0 ≤ nearest pair.tieTerm / nearest (pair.size * (pair.size - 1) : Nat) :=
    div_nonneg (nearest_nonneg (Nat.cast_nonneg _)) (by linarith)
  have fits : |nearest pair.tieTerm / nearest (pair.size * (pair.size - 1) : Nat)| < limit := by
    rw [abs_of_nonneg nonneg]
    exact lt_limit_of_le_two_pow (quotient.trans (by exact_mod_cast few)) (by norm_num)
  exact ⟨_, toRat?_div tieExact ordersExact (by linarith) fits, nearest_nonneg nonneg,
    nearest_le (isDouble_natCast (by omega)) quotient⟩

/-- If not all times are the same, ties leave at least one. -/
theorem one_le_factor (apart : ¬ pair.IsTied) :
    ∃ left, pair.factor.toRat? = some left ∧ 1 ≤ left ∧ left ≤ 2 ^ 53 := by
  obtain ⟨taken, exactly, nonneg, atMost⟩ := exists_correction enough few apart
  have whole : (ofInt (pair.size + 1 : Nat)).toRat? = some ((pair.size + 1 : Nat) : ℚ) :=
    toRat?_ofInt (pair.size + 1 : Nat) (by omega)
  have most : IsDouble ((pair.size + 1 : Nat) : ℚ) := isDouble_natCast (by omega)
  have fewWhole : ((pair.size + 1 : Nat) : ℚ) ≤ 2 ^ 53 := by
    exact_mod_cast (by omega : pair.size + 1 ≤ 2 ^ 53)
  have low : 1 ≤ ((pair.size + 1 : Nat) : ℚ) - taken := by
    push_cast
    linarith
  have high : ((pair.size + 1 : Nat) : ℚ) - taken ≤ (pair.size + 1 : Nat) := sub_le_self _ nonneg
  have fits : |((pair.size + 1 : Nat) : ℚ) - taken| < limit := by
    rw [abs_of_nonneg (zero_le_one.trans low)]
    exact lt_limit_of_le_two_pow (high.trans fewWhole) (by norm_num)
  exact ⟨_, toRat?_sub whole exactly fits, one_le_nearest low,
    (nearest_le most high).trans fewWhole⟩

/-- The twelfth part of the product is far from zero, and far below the limit. -/
theorem exists_twelfth :
    ∃ part, (ofRatio false pair.product 12).toRat? = some part ∧
      1 / 2 ^ 2 ≤ part ∧ part ≤ 2 ^ 105 := by
  obtain ⟨part, exactly, small⟩ :=
    isWithin_ofRatio (by norm_num : 0 < 12) (product_le few) (by norm_num)
  refine ⟨part, exactly, ?_, (abs_le.mp small).2⟩
  have some : (4 : ℚ) ≤ pair.product := by exact_mod_cast enough.four_le_product
  have rounded := toRat?_ofRatio_natCast (by norm_num : 0 < 12)
    ((lt_limit_of_bits (product_le few) (by norm_num)).trans_le
      (Nat.le_mul_of_pos_right _ (by norm_num)))
  rw [← Option.some.inj (rounded.symm.trans exactly)]
  refine le_nearest isDouble_quarter ?_
  norm_num
  linarith

/-- If not all times are the same, the spread is positive. -/
theorem isPositive_spread (apart : ¬ pair.IsTied) : pair.spread.IsPositive := by
  obtain ⟨left, leftExact, leftLow, leftHigh⟩ := one_le_factor enough few apart
  obtain ⟨part, partExact, partLow, partHigh⟩ := exists_twelfth enough few
  have low : 1 / 2 ^ 2 ≤ part * left :=
    partLow.trans (le_mul_of_one_le_right (by linarith) leftLow)
  have high : part * left ≤ 2 ^ (105 + 53) := by
    rw [pow_add]
    exact mul_le_mul partHigh leftHigh (by linarith) (by positivity)
  have fits : |part * left| < limit := by
    rw [abs_of_nonneg (by linarith)]
    exact lt_limit_of_le_two_pow high (by norm_num)
  refine isPositive_sqrt (isInFormat_mul partExact leftExact) ?_
  refine isPositive_of_toRat? (toRat?_mul partExact leftExact fits) ?_
  exact (by norm_num : (0 : ℚ) < 1 / 2 ^ 2).trans_le (le_nearest isDouble_quarter low)

omit enough in
theorem isWithin_shift : pair.shift.IsWithin 112 := by
  have statistic : pair.twiceStatistic ≤ 2 ^ 107 := by
    have most := pair.twiceStatistic_le
    have square := size_sq_le few
    omega
  have above := isWithin_ofRatio two_pos statistic (by norm_num)
  have mean := isWithin_ofRatio two_pos ((product_le few).trans (by norm_num : 2 ^ 104 ≤ 2 ^ 107))
    (by norm_num)
  have half : (ofRatio false 1 2).IsWithin 1 :=
    isWithin_ofRatio two_pos (by norm_num : 1 ≤ 2 ^ 0) (by norm_num)
  exact (above.sub mean (by norm_num)).sub (half.mono (by norm_num)) (by norm_num)

/-- If not all times are the same, the distance is defined. -/
theorem distance_ne_undefined (apart : ¬ pair.IsTied) : pair.distance ≠ undefined := by
  obtain ⟨value, exactly, -⟩ := isWithin_shift few
  exact div_ne_undefined exactly (isPositive_spread enough few apart)

end

section

variable (tied : pair.IsTied) (small : pair.size ^ 3 - pair.size ≤ 2 ^ 53)
include tied small

/-- If all times are the same, each order of two of them adds one more than their number. -/
theorem tieTerm_eq_of_isTied :
    pair.tieTerm = (pair.size + 1) * (pair.size * (pair.size - 1)) ∧ pair.tieTerm ≤ 2 ^ 53 := by
  have some := enough.four_le_size
  constructor
  · obtain ⟨less, sizeEq⟩ : ∃ less, pair.size = less + 1 := ⟨pair.size - 1, by omega⟩
    have square : (less + 1) ^ 2 = less * (less + 2) + 1 := by ring
    rw [pair.tieTerm_of_isTied tied, sizeEq, square, Nat.add_sub_cancel, Nat.add_sub_cancel]
    ring
  · rwa [pair.tieTerm_of_isTied tied, Nat.mul_sub, Nat.mul_one, ← pow_succ']

theorem size_le_of_isTied : pair.size ≤ 2 ^ 52 := by
  have some := enough.four_le_size
  obtain ⟨ties, fewTies⟩ := tieTerm_eq_of_isTied enough tied small
  have orders := Nat.mul_le_mul_left pair.size (by omega : 3 ≤ pair.size - 1)
  have all := Nat.le_mul_of_pos_left (pair.size * (pair.size - 1))
    (by omega : 0 < pair.size + 1)
  omega

/-- If all times are the same, ties take everything. -/
theorem correction_of_isTied :
    pair.correction.toRat? = some ((pair.size + 1 : Nat) : ℚ) := by
  have some := enough.four_le_size
  have few := size_le_of_isTied enough tied small
  obtain ⟨ties, fewTies⟩ := tieTerm_eq_of_isTied enough tied small
  have someOrders : 0 < pair.size * (pair.size - 1) := Nat.mul_pos (by omega) (by omega)
  have fewOrders := Nat.le_mul_of_pos_left (pair.size * (pair.size - 1))
    (by omega : 0 < pair.size + 1)
  have tieExact := toRat?_ofInt pair.tieTerm (by rwa [Int.natAbs_natCast])
  have ordersExact := toRat?_ofInt (pair.size * (pair.size - 1) : Nat)
    (by rw [Int.natAbs_natCast]; omega)
  rw [Int.cast_natCast] at tieExact ordersExact
  have quotient : (pair.tieTerm : ℚ) / (pair.size * (pair.size - 1) : Nat) =
      (pair.size + 1 : Nat) := by
    rw [ties, Nat.cast_mul]
    exact mul_div_cancel_right₀ _ (by exact_mod_cast someOrders.ne')
  have fits : |((pair.size + 1 : Nat) : ℚ)| < limit := by
    rw [Nat.abs_cast]
    exact_mod_cast lt_limit (by omega)
  have rounded := toRat?_div tieExact ordersExact (by exact_mod_cast someOrders.ne')
    (by rwa [quotient])
  rwa [quotient, nearest_of_isDouble (isDouble_natCast (by omega))] at rounded

/-- If all times are the same, the statistic is at its mean and there is no spread. -/
theorem distance_of_isTied : pair.distance = infinite true := by
  have few := size_le_of_isTied enough tied small
  have fits := lt_limit_of_bits (product_le few) (by norm_num)
  have nothingLeft : pair.factor = zero false :=
    sub_eq_zero_of_same (toRat?_ofInt (pair.size + 1 : Nat) (by omega))
      (correction_of_isTied enough tied small) (isUnsigned_ofInt _).2
  have noSpread : pair.spread = zero false := by
    rw [spread, nothingLeft, mul_zero_of_unsigned (toRat?_ofRatio_natCast (by norm_num)
      (fits.trans_le (Nat.le_mul_of_pos_right _ (by norm_num)))) (isUnsigned_ofRatio _ _).2]
    rfl
  have mean := toRat?_ofRatio_natCast two_pos
    (fits.trans_le (Nat.le_mul_of_pos_right _ two_pos))
  have atMean : (ofRatio false pair.twiceStatistic 2).sub (ofRatio false pair.product 2) =
      zero false := by
    rw [pair.twiceStatistic_of_isTied tied]
    exact sub_eq_zero_of_same mean mean (isUnsigned_ofRatio _ _).2
  rw [distance_eq, shift, atMean, noSpread]
  decide +kernel

end

/-! ### The probability -/

omit enough in
theorem probability_eq :
    pair.probability = ((if pair.isExact then exactTail pair.candidate.length pair.baseline.length
      (pair.twiceStatistic / 2) else pair.distance.normalTail).mul (ofInt 2)).clipped := rfl

omit enough in
/-- A probability that is defined is one. -/
theorem exists_toRat?_probability (defined : pair.probability ≠ undefined) :
    ∃ ratio, pair.probability.toRat? = some ratio ∧ 0 ≤ ratio ∧ ratio ≤ 1 := by
  rw [probability_eq] at defined ⊢
  refine exists_toRat?_clipped fun nothing => defined ?_
  rw [nothing, clipped_undefined]

/-- There is a probability if not all times are the same. -/
theorem probability_ne_undefined (few : pair.size ≤ 2 ^ 52) (apart : ¬ pair.IsTied) :
    pair.probability ≠ undefined := by
  have tail : (if pair.isExact then exactTail pair.candidate.length pair.baseline.length
      (pair.twiceStatistic / 2) else pair.distance.normalTail) ≠ undefined := by
    split
    · exact exactTail_ne_undefined _ _ _
    · exact normalTail_ne_undefined (distance_ne_undefined enough few apart)
  have twice := mul_ne_undefined tail (toRat?_ofInt 2 (by norm_num)) (by norm_num)
  obtain ⟨ratio, exactly, -⟩ := exists_toRat?_clipped twice
  intro nothing
  rw [probability_eq] at nothing
  rw [nothing] at exactly
  cases exactly

/-- The probability is one if all times are the same. -/
theorem probability_of_isTied (tied : pair.IsTied)
    (small : pair.size ^ 3 - pair.size ≤ 2 ^ 53) : pair.probability.toRat? = some 1 := by
  have ties : pair.hasTies = true := by
    have some := enough.four_le_size
    obtain ⟨time, member⟩ := List.exists_mem_of_length_pos
      (by rw [pair.length_all]; omega : 0 < pair.all.length)
    refine List.any_eq_true.mpr ⟨time, member, ?_⟩
    rw [pair.multiplicity_of_isTied tied member, decide_eq_true_eq]
    omega
  rw [probability_eq, isExact, ties, distance_of_isTied enough tied small, Bool.not_true,
    Bool.false_and, if_neg Bool.false_ne_true]
  decide +kernel

end SamplePair

end ColdStart
