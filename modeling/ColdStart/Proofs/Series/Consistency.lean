/-
This file shows that the figures in one line of a report do not contradict each other. The
mean lies between the extremes, and so no sample is further away from it than they are from
each other. Squared distances that are bounded are so on average, and the bound is a whole
number, so dropping a fraction, in whichever direction, does not carry the variance past it.
-/

import ColdStart.Number.Quantity
import ColdStart.Proofs.Series.Deviation

namespace ColdStart

/-- Distances between numbers in a range, squared, add up to no more than as many times the square
of the range. -/
theorem squaredDistances_le {values : List Int} {point least greatest : Int}
    (range : ∀ value ∈ values, least ≤ value ∧ value ≤ greatest)
    (pointRange : least ≤ point ∧ point ≤ greatest) :
    squaredDistances values point ≤ values.length * (greatest - least) ^ 2 := by
  have each : ∀ distance ∈ values.map fun value => (value - point) ^ 2,
      distance ≤ (greatest - least) ^ 2 := by
    refine List.forall_mem_map.mpr fun value member => ?_
    obtain ⟨above, below⟩ := range value member
    exact sq_le_sq' (by omega) (by omega)
  have total := List.sum_le_card_nsmul _ _ each
  rwa [nsmul_eq_mul, List.length_map] at total

namespace Series

/-! ### Figures of samples in a range -/

section

variable {values : List Int} {least greatest : Int} (someValues : values ≠ [])
  (range : ∀ value ∈ values, least ≤ value ∧ value ≤ greatest)
include someValues range

theorem average_mem_range :
    least ≤ (ofList values).average ∧ (ofList values).average ≤ greatest :=
  ⟨le_average someValues fun value member => (range value member).1,
    average_le someValues fun value member => (range value member).2⟩

theorem variance_le_sq : (ofList values).variance ≤ (greatest - least) ^ 2 := by
  have positive := cast_length_pos someValues
  have distances := squaredDistances_le range (average_mem_range someValues range)
  have below := (variance_bounds someValues).1.trans_le distances
  rw [mul_comm] at below
  exact Int.sub_one_lt_iff.mp (lt_of_mul_lt_mul_left below positive.le)

theorem deviation_le : ((ofList values).deviation : Int) ≤ greatest - least := by
  obtain ⟨below, above⟩ := average_mem_range someValues range
  have squares := (deviation_sq_le_variance someValues).trans (variance_le_sq someValues range)
  exact (pow_le_pow_iff_left₀ (Int.natCast_nonneg _) (by omega) two_ne_zero).mp squares

end

/-! ### The figures of a line -/

/-- Every division that the figures are computed by has a result. -/
structure IsComputed (series : Series) : Prop where
  average : divideTowardZero series.sum series.divisor = .ok series.average
  variance :
    divideTowardZero (series.sumOfSquares - 2 * series.average * series.sum) series.divisor =
      .ok (series.variance - series.average * series.average)

/-- No series is divided by zero, the empty one included. -/
theorem isComputed (series : Series) : series.IsComputed := by
  have nonzero : (series.divisor : Int) ≠ 0 := by
    rw [divisor]
    omega
  refine ⟨?_, ?_⟩
  · rw [divideTowardZero, if_neg nonzero, Series.average]
  · rw [divideTowardZero, if_neg nonzero, Series.variance, add_sub_cancel_left]

/-- The figures of a series with extremes agree with these. -/
structure IsConsistent (series : Series) (least greatest : Int) : Prop where
  hasLeast : series.least = some least
  hasGreatest : series.greatest = some greatest
  least_le_average : least ≤ series.average
  average_le_greatest : series.average ≤ greatest
  spread : series.spread = greatest - least
  spread_nonneg : 0 ≤ series.spread
  deviation_le_spread : series.deviation ≤ series.spread

theorem exists_isConsistent {values : List Int} (someValues : values ≠ []) :
    ∃ least greatest, (ofList values).IsConsistent least greatest := by
  obtain ⟨least, greatest, isLeast, isGreatest, ordered⟩ := exists_min?_max? someValues
  have hasLeast := (summarizes_ofList values).least.trans isLeast
  have hasGreatest := (summarizes_ofList values).greatest.trans isGreatest
  have range : ∀ value ∈ values, least ≤ value ∧ value ≤ greatest := fun value member =>
    ⟨(List.min?_eq_some_iff.mp isLeast).2 value member,
      (List.max?_eq_some_iff.mp isGreatest).2 value member⟩
  have spread : (ofList values).spread = greatest - least := by
    rw [Series.spread, hasLeast, hasGreatest]
  exact ⟨least, greatest, {
    hasLeast
    hasGreatest
    least_le_average := (average_mem_range someValues range).1
    average_le_greatest := (average_mem_range someValues range).2
    spread
    spread_nonneg := by omega
    deviation_le_spread := by
      rw [spread]
      exact deviation_le someValues range }⟩

/-- The figures of a series without samples, which are zero. -/
structure IsBlank (series : Series) : Prop where
  count : series.count = 0
  average : series.average = 0
  variance : series.variance = 0
  deviation : series.deviation = 0
  spread : series.spread = 0
  median : series.median = .ok (.zero false)

theorem isBlank_empty : empty.IsBlank :=
  ⟨rfl, by decide, by decide, by decide, rfl, by decide +kernel⟩

end Series

/-- The figures of a series that takes whole numbers are all computed, and they fit together. Its
mean lies between the extremes, and its deviation is no larger than what lies between these. They
are zero while no number was taken, and a line shows them. -/
theorem Series.figures_areConsistent (values : List Int) :
    ∃ series : Series,
      series.IsOf values ∧
      series.IsComputed ∧
      (values ≠ [] → ∃ least greatest, series.IsConsistent least greatest) ∧
      (values = [] → series.IsBlank ∧ ∀ name,
        series.line name =
          padRight 30 name ++ ": COUNT=0     AVG=0     INTERVAL=0     STDDEV=0    ") := by
  refine ⟨ofList values, isOf_ofList values, isComputed _, exists_isConsistent, ?_⟩
  rintro rfl
  refine ⟨isBlank_empty, fun name => ?_⟩
  have zero : padRight 5 (integerText 0) = "0    " := by decide +kernel
  have parts : ": COUNT=0     AVG=0     INTERVAL=0     STDDEV=0    " =
      ": COUNT=" ++ ("0    " ++ (" AVG=" ++ ("0    " ++ (" INTERVAL=" ++ ("0    " ++
        (" STDDEV=" ++ "0    ")))))) := by decide
  have blank : (ofList []).IsBlank := isBlank_empty
  rw [line, blank.count, blank.average, blank.spread, blank.deviation, Nat.cast_zero, zero, parts]
  simp only [String.append_assoc]

end ColdStart
