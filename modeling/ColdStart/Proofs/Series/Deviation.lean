/-
This file says how far the integer variance and deviation of a series are from the
exact ones. The variance is the mean squared distance from the mean as it is shown,
rounded down or up to a whole number, and the deviation is less than one away from the
exact deviation. Three fractions are dropped on the way. The one dropped from the mean
moves the mean squared distance up by less than one, and that it cannot move it up from
zero is where the samples have to be whole numbers.
-/

import ColdStart.Proofs.Series
import Mathlib.Analysis.Real.Sqrt
import Mathlib.Data.Rat.Floor
import Mathlib.Tactic.Linarith

namespace ColdStart

/-! ### Squared distances -/

/-- The sum of the squared distances of numbers from a point. -/
def squaredDistances (values : List Int) (point : Int) : Int :=
  (values.map fun value => (value - point) ^ 2).sum

/-- The variance of numbers, times the square of their count: a whole number. -/
def scatter (values : List Int) : Int :=
  values.length * (values.map (· ^ 2)).sum - values.sum ^ 2

theorem squaredDistances_cons (value : Int) (rest : List Int) (point : Int) :
    squaredDistances (value :: rest) point = (value - point) ^ 2 + squaredDistances rest point :=
  rfl

theorem squaredDistances_eq (values : List Int) (point : Int) :
    squaredDistances values point =
      (values.map (· ^ 2)).sum - 2 * point * values.sum + values.length * point ^ 2 := by
  induction values with
  | nil => simp [squaredDistances]
  | cons value rest inductionHypothesis =>
    rw [squaredDistances_cons, inductionHypothesis, List.map_cons, List.sum_cons, List.sum_cons,
      List.length_cons]
    push_cast
    ring

/-- Distances from a point are those from the mean and, for each number, the distance of the two
points. -/
theorem length_mul_squaredDistances (values : List Int) (point : Int) :
    values.length * squaredDistances values point =
      scatter values + (values.sum - values.length * point) ^ 2 := by
  rw [squaredDistances_eq, scatter]
  ring

theorem squaredDistances_nonneg (values : List Int) (point : Int) :
    0 ≤ squaredDistances values point :=
  List.sum_nonneg (List.forall_mem_map.mpr fun _ _ => sq_nonneg _)

/-- A whole number is no larger than its square, so the sum of whole distances is bounded by that of
their squares. -/
theorem abs_sum_sub_le_squaredDistances (values : List Int) (point : Int) :
    |values.sum - values.length * point| ≤ squaredDistances values point := by
  induction values with
  | nil => simp [squaredDistances]
  | cons value rest inductionHypothesis =>
    have here : |value - point| ≤ (value - point) ^ 2 := by
      rw [← sq_abs, ← Int.natCast_natAbs]
      exact_mod_cast Nat.le_self_pow two_ne_zero _
    have split : (value :: rest).sum - (value :: rest).length * point =
        (value - point) + (rest.sum - rest.length * point) := by
      rw [List.sum_cons, List.length_cons]
      push_cast
      ring
    rw [split, squaredDistances_cons]
    exact (abs_add_le _ _).trans (add_le_add here inductionHypothesis)

/-! ### The variance -/

namespace Series

section

variable {values : List Int} (someValues : values ≠ [])
include someValues

theorem cast_length_pos : (0 : Int) < values.length := by
  exact_mod_cast List.length_pos_iff.mpr someValues

/-- The mean, its fraction dropped, is less than one away from the exact mean. -/
theorem abs_sum_sub_average_lt :
    |values.sum - values.length * (ofList values).average| < values.length := by
  have positive := cast_length_pos someValues
  have rest : values.sum - values.length * (ofList values).average =
      values.sum.tmod values.length := by
    rw [average, divisor_ofList someValues, sum_ofList, Int.tmod_def]
  rw [rest, ← Int.natCast_natAbs, Int.natAbs_tmod]
  exact_mod_cast Nat.mod_lt _ (by omega)

/-- The variance is the mean squared distance from the mean that is shown. A fraction is rounded
down if the distances are at least those of the mean from zero, and up otherwise. -/
theorem variance_ofList :
    (ofList values).variance =
      if values.length * (ofList values).average ^ 2 ≤
          squaredDistances values (ofList values).average then
        ⌊(squaredDistances values (ofList values).average : ℚ) / values.length⌋
      else ⌈(squaredDistances values (ofList values).average : ℚ) / values.length⌉ := by
  have nonzero := (cast_length_pos someValues).ne'
  rw [variance, divisor_ofList someValues, sum_ofList, sumOfSquares_ofList]
  generalize (ofList values).average = average
  have numerator : (values.map (· ^ 2)).sum - 2 * average * values.sum =
      squaredDistances values average - values.length * average ^ 2 := by
    rw [squaredDistances_eq]
    ring
  rw [numerator, Rat.floor_intCast_div_natCast, Rat.ceil_intCast_div_natCast]
  split
  · next less =>
    rw [Int.tdiv_eq_ediv_of_nonneg (sub_nonneg.mpr less), Int.sub_mul_ediv_left _ _ nonzero]
    ring
  · next more =>
    have turned : squaredDistances values average - values.length * average ^ 2 =
        -(-squaredDistances values average + values.length * average ^ 2) := by ring
    rw [turned, Int.neg_tdiv, Int.tdiv_eq_ediv_of_nonneg (by omega),
      Int.add_mul_ediv_left _ _ nonzero]
    ring

/-- However it is rounded, the variance is less than one away from the mean squared distance. -/
theorem variance_bounds :
    ((ofList values).variance - 1) * values.length <
        squaredDistances values (ofList values).average ∧
      squaredDistances values (ofList values).average <
        ((ofList values).variance + 1) * values.length := by
  have positive : (0 : ℚ) < values.length := by
    exact_mod_cast List.length_pos_iff.mpr someValues
  have bounds : ((ofList values).variance - 1 : ℚ) <
      squaredDistances values (ofList values).average / values.length ∧
      (squaredDistances values (ofList values).average : ℚ) / values.length <
        (ofList values).variance + 1 := by
    rw [variance_ofList someValues]
    generalize (squaredDistances values (ofList values).average : ℚ) / values.length = mean
    split
    · exact ⟨(sub_one_lt _).trans_le (Int.floor_le mean), Int.lt_floor_add_one mean⟩
    · exact ⟨sub_lt_iff_lt_add.mpr (Int.ceil_lt_add_one mean),
        (Int.le_ceil mean).trans_lt (lt_add_one _)⟩
  rw [lt_div_iff₀ positive, div_lt_iff₀ positive] at bounds
  exact_mod_cast bounds

theorem variance_nonneg : 0 ≤ (ofList values).variance := by
  have positive := cast_length_pos someValues
  have least := squaredDistances_nonneg values (ofList values).average
  have above := least.trans_lt (variance_bounds someValues).2
  exact Int.lt_add_one_iff.mp (pos_of_mul_pos_left above positive.le)

/-- Nothing is cut off when the deviation takes the variance as a natural number. -/
theorem cast_toNat_variance : ((ofList values).variance.toNat : Int) = (ofList values).variance :=
  Int.toNat_of_nonneg (variance_nonneg someValues)

/-- Where no sample is away from the mean, the variance is zero. -/
theorem variance_eq_zero (same : squaredDistances values (ofList values).average = 0) :
    (ofList values).variance = 0 := by
  have positive := cast_length_pos someValues
  have below := (variance_bounds someValues).1
  rw [same] at below
  have atMost : (ofList values).variance < 1 := by
    by_contra more
    exact absurd below (not_lt.mpr (mul_nonneg (by omega) positive.le))
  exact le_antisymm (by omega) (variance_nonneg someValues)

/-- A series of equal samples has that sample as its mean. -/
theorem average_ofList_of_constant {value : Int} (constant : ∀ other ∈ values, other = value) :
    (ofList values).average = value := by
  have nonzero := (cast_length_pos someValues).ne'
  have sum : values.sum = values.length * value := by
    conv_lhs => rw [List.eq_replicate_of_mem constant]
    rw [List.sum_replicate, nsmul_eq_mul]
  rw [average, divisor_ofList someValues, sum_ofList, sum, Int.mul_tdiv_cancel_left _ nonzero]

theorem squaredDistances_of_constant {value : Int} (constant : ∀ other ∈ values, other = value) :
    squaredDistances values (ofList values).average = 0 := by
  rw [average_ofList_of_constant someValues constant, squaredDistances]
  refine List.sum_eq_zero (List.forall_mem_map.mpr fun other member => ?_)
  rw [constant other member, sub_self, zero_pow two_ne_zero]

/-! ### The deviation -/

/-- Where the exact variance is zero, so is that of the series. -/
theorem variance_of_scatter_nonpos (none : scatter values ≤ 0) : (ofList values).variance = 0 := by
  have positive := cast_length_pos someValues
  have identity := length_mul_squaredDistances values (ofList values).average
  have whole := abs_sum_sub_le_squaredDistances values (ofList values).average
  have near := abs_sum_sub_average_lt someValues
  have least := squaredDistances_nonneg values (ofList values).average
  refine variance_eq_zero someValues (le_antisymm ?_ least)
  generalize values.sum - values.length * (ofList values).average = offset at *
  generalize squaredDistances values (ofList values).average = distances at *
  -- The offset of the means is a whole number below the count whose square is at least the count
  -- times itself, so it is zero.
  have square : values.length * distances ≤ |offset| * |offset| := by
    rw [identity, abs_mul_abs_self, ← sq]
    omega
  have noOffset : |offset| = 0 := by
    by_contra someOffset
    have positiveOffset : 0 < |offset| := lt_of_le_of_ne (abs_nonneg _) (Ne.symm someOffset)
    have small : |offset| * |offset| < values.length * |offset| :=
      mul_lt_mul_of_pos_right near positiveOffset
    have large : values.length * |offset| ≤ values.length * distances :=
      mul_le_mul_of_nonneg_left whole positive.le
    omega
  rw [noOffset, mul_zero] at square
  exact nonpos_of_mul_nonpos_right square positive

theorem variance_lt_deviation_add_one_sq :
    (ofList values).variance < ((ofList values).deviation + 1) ^ 2 := by
  rw [← cast_toNat_variance someValues]
  exact_mod_cast Nat.lt_succ_sqrt' (ofList values).variance.toNat

theorem deviation_sq_le_variance :
    ((ofList values).deviation : Int) ^ 2 ≤ (ofList values).variance := by
  rw [← cast_toNat_variance someValues]
  exact_mod_cast Nat.sqrt_le' (ofList values).variance.toNat

/-- The exact deviation is below the next whole number. -/
theorem scatter_lt_deviation_add_one_sq :
    scatter values < ((ofList values).deviation + 1) ^ 2 * values.length ^ 2 := by
  have positive := cast_length_pos someValues
  have identity := length_mul_squaredDistances values (ofList values).average
  have offset := sq_nonneg (values.sum - values.length * (ofList values).average)
  calc scatter values
      ≤ values.length * squaredDistances values (ofList values).average := by omega
    _ < values.length * (((ofList values).variance + 1) * values.length) :=
      mul_lt_mul_of_pos_left (variance_bounds someValues).2 positive
    _ = ((ofList values).variance + 1) * values.length ^ 2 := by ring
    _ ≤ ((ofList values).deviation + 1) ^ 2 * values.length ^ 2 :=
      mul_le_mul_of_nonneg_right (variance_lt_deviation_add_one_sq someValues) (sq_nonneg _)

/-- The dropped fractions move the variance up by less than two. -/
theorem variance_sub_two_mul_lt_scatter :
    ((ofList values).variance - 2) * values.length ^ 2 < scatter values := by
  have positive := cast_length_pos someValues
  have identity := length_mul_squaredDistances values (ofList values).average
  have below := mul_lt_mul_of_pos_left (variance_bounds someValues).1 positive
  have near : (values.sum - values.length * (ofList values).average) ^ 2 <
      (values.length : Int) ^ 2 :=
    sq_lt_sq' (abs_lt.mp (abs_sum_sub_average_lt someValues)).1
      (abs_lt.mp (abs_sum_sub_average_lt someValues)).2
  linarith

/-- The exact deviation is above the whole number before, unless the deviation is zero. -/
theorem deviation_sub_one_sq_lt_scatter (someDeviation : (ofList values).deviation ≠ 0) :
    (((ofList values).deviation : Int) - 1) ^ 2 * values.length ^ 2 < scatter values := by
  have least := deviation_sq_le_variance someValues
  have bound := variance_sub_two_mul_lt_scatter someValues
  obtain one | more : (ofList values).deviation = 1 ∨ 2 ≤ (ofList values).deviation := by omega
  · -- The bound on the variance says nothing here.
    have someScatter : 0 < scatter values := by
      by_contra none
      rw [variance_of_scatter_nonpos someValues (not_lt.mp none), one] at least
      exact absurd least (by decide)
    simpa [one] using someScatter
  · have step : (((ofList values).deviation : Int) - 1) ^ 2 ≤ (ofList values).variance - 2 := by
      have cast : (2 : Int) ≤ (ofList values).deviation := by exact_mod_cast more
      linarith
    exact (mul_le_mul_of_nonneg_right step (sq_nonneg _)).trans_lt bound

end

end Series

/-- The exact deviation of numbers: the root of the mean square less the square of the mean. -/
noncomputable def populationDeviation (values : List Int) : ℝ :=
  √(((values.map (· ^ 2)).sum : Int) / values.length - ((values.sum : Int) / values.length) ^ 2)

theorem populationDeviation_eq {values : List Int} (someValues : values ≠ []) :
    populationDeviation values = √(scatter values / values.length ^ 2) := by
  have nonzero : (values.length : ℝ) ≠ 0 := by
    exact_mod_cast (List.length_pos_iff.mpr someValues).ne'
  rw [populationDeviation, scatter]
  congr 1
  rw [Int.cast_sub, Int.cast_mul, Int.cast_pow, Int.cast_natCast]
  field_simp

/-- A whole number is above the exact deviation if its square is above the exact variance. -/
theorem populationDeviation_lt {values : List Int} (someValues : values ≠ []) {whole : Int}
    (positive : 0 < whole) (above : scatter values < whole ^ 2 * values.length ^ 2) :
    populationDeviation values < whole := by
  have length : (0 : ℝ) < values.length ^ 2 := by
    exact_mod_cast Nat.pow_pos (List.length_pos_iff.mpr someValues)
  rw [populationDeviation_eq someValues, Real.sqrt_lt' (by exact_mod_cast positive),
    div_lt_iff₀ length]
  exact_mod_cast above

/-- A whole number is below the exact deviation if its square is below the exact variance. -/
theorem lt_populationDeviation {values : List Int} (someValues : values ≠ []) {whole : Int}
    (nonneg : 0 ≤ whole) (below : whole ^ 2 * values.length ^ 2 < scatter values) :
    whole < populationDeviation values := by
  have length : (0 : ℝ) < values.length ^ 2 := by
    exact_mod_cast Nat.pow_pos (List.length_pos_iff.mpr someValues)
  rw [populationDeviation_eq someValues, Real.lt_sqrt (by exact_mod_cast nonneg),
    lt_div_iff₀ length]
  exact_mod_cast below

/-! ### The figures of a series -/

/-- The variance of a series that takes whole numbers is the mean squared distance from the mean
that it shows. A fraction is rounded down if the distances add up to at least what the mean alone
is away from zero, and up otherwise. So the variance is never negative, the deviation is its root
without any cutting off at zero, and it is zero when all samples are the same. -/
theorem variance_isMeanSquaredDistance {values : List Int} (someValues : values ≠ []) :
    ∃ series : Series,
      series.IsOf values ∧
      (series.variance =
        if values.length * series.average ^ 2 ≤ squaredDistances values series.average then
          ⌊(squaredDistances values series.average : ℚ) / values.length⌋
        else ⌈(squaredDistances values series.average : ℚ) / values.length⌉) ∧
      0 ≤ series.variance ∧
      max series.variance 0 = series.variance ∧
      (series.deviation ^ 2 ≤ series.variance ∧ series.variance < (series.deviation + 1) ^ 2) ∧
      ∀ constant : Int, (∀ value ∈ values, value = constant) → series.variance = 0 := by
  have nonneg := Series.variance_nonneg someValues
  refine ⟨.ofList values, Series.isOf_ofList values,
    Series.variance_ofList someValues, nonneg, max_eq_left nonneg,
    ⟨Series.deviation_sq_le_variance someValues,
      Series.variance_lt_deviation_add_one_sq someValues⟩, fun constant same => ?_⟩
  exact Series.variance_eq_zero someValues (Series.squaredDistances_of_constant someValues same)

/-- Samples below zero whose mean is not a whole number. -/
def coldSamples : List Int := [-7, -8, -10]

theorem variance_isMeanSquaredDistance_coldSamples :
    coldSamples ≠ [] ∧ ∃ series : Series,
      series.IsOf coldSamples ∧
      series.average = -8 ∧ squaredDistances coldSamples series.average = 5 ∧
      series.variance = ⌈(5 : ℚ) / 3⌉ := by
  have someSamples : coldSamples ≠ [] := by decide
  obtain ⟨series, added, variance, -⟩ := variance_isMeanSquaredDistance someSamples
  have same := Series.isOf_iff.mp added
  have average : series.average = -8 := by rw [same]; decide
  have distances : squaredDistances coldSamples series.average = 5 := by rw [average]; decide
  refine ⟨someSamples, series, added, average, distances, ?_⟩
  rw [variance, distances, average, if_neg (by decide)]
  rfl

/-- The deviation of a series that takes whole numbers is less than one away from the exact
deviation, said over the real numbers and, multiplied out, over whole numbers. -/
theorem deviation_isWithinOne {values : List Int} (someValues : values ≠ []) :
    ∃ series : Series,
      series.IsOf values ∧
      |series.deviation - populationDeviation values| < 1 ∧
      (let count : Int := values.length
        let sum : Int := values.sum
        let squares : Int := (values.map (· ^ 2)).sum
        count * squares - sum ^ 2 < (series.deviation + 1) ^ 2 * count ^ 2 ∧
          (series.deviation = 0 ∨
            (series.deviation - 1) ^ 2 * count ^ 2 < count * squares - sum ^ 2)) := by
  have above := Series.scatter_lt_deviation_add_one_sq someValues
  have below := Series.deviation_sub_one_sq_lt_scatter someValues
  refine ⟨.ofList values, Series.isOf_ofList values, ?_, above,
    or_iff_not_imp_left.mpr below⟩
  have high := populationDeviation_lt someValues (by positivity) above
  push_cast at high
  refine abs_sub_lt_iff.mpr ⟨?_, by linarith⟩
  by_cases zero : (Series.ofList values).deviation = 0
  · have root : 0 ≤ populationDeviation values := Real.sqrt_nonneg _
    rw [zero, Nat.cast_zero]
    linarith
  · have low := lt_populationDeviation someValues (by omega) (below zero)
    push_cast at low
    linarith

theorem deviation_isWithinOne_coldSamples :
    coldSamples ≠ [] ∧ ∃ series : Series,
      series.IsOf coldSamples ∧
      series.deviation = 1 ∧ |1 - populationDeviation coldSamples| < 1 ∧
      scatter coldSamples < (1 + 1) ^ 2 * 3 ^ 2 ∧ (1 - 1) ^ 2 * 3 ^ 2 < scatter coldSamples := by
  have someSamples : coldSamples ≠ [] := by decide
  obtain ⟨series, added, near, above, below⟩ := deviation_isWithinOne someSamples
  have same := Series.isOf_iff.mp added
  have deviation : series.deviation = 1 := by rw [same]; decide +kernel
  rw [deviation] at near above below
  rw [Nat.cast_one] at near
  exact ⟨someSamples, series, added, deviation, near, above, below.resolve_left one_ne_zero⟩

end ColdStart
