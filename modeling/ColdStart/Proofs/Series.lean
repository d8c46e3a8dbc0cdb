/-
This file says what a series is after its samples were taken. Its running figures are
those of the samples: the extremes too, although a sample is set against one of them
only, and so its mean lies between bounds that all samples keep. In which order the
samples were taken shows in their list alone, and in no figure that is drawn from them.
-/

import ColdStart.Series
import Mathlib.Algebra.Order.BigOperators.Group.List
import Mathlib.Algebra.Order.Ring.Int

namespace ColdStart

/-! ### Extremes of a list -/

theorem min?_of_perm {values others : List Int} (perm : values.Perm others) :
    values.min? = others.min? := by
  refine Option.ext fun bound => ?_
  rw [List.min?_eq_some_iff, List.min?_eq_some_iff]
  simp only [perm.mem_iff]

theorem max?_of_perm {values others : List Int} (perm : values.Perm others) :
    values.max? = others.max? := by
  refine Option.ext fun bound => ?_
  rw [List.max?_eq_some_iff, List.max?_eq_some_iff]
  simp only [perm.mem_iff]

theorem min?_concat (values : List Int) (value : Int) :
    (values ++ [value]).min? = some (values.min?.elim value (min value)) :=
  (min?_of_perm List.perm_append_comm).trans List.min?_cons

theorem max?_concat (values : List Int) (value : Int) :
    (values ++ [value]).max? = some (values.max?.elim value (max value)) :=
  (max?_of_perm List.perm_append_comm).trans List.max?_cons

/-- Numbers that are there have a least and a greatest, and these are in order. -/
theorem exists_min?_max? {values : List Int} (someValues : values ≠ []) :
    ∃ least greatest, values.min? = some least ∧ values.max? = some greatest ∧
      least ≤ greatest := by
  obtain ⟨least, isLeast⟩ := Option.ne_none_iff_exists'.mp (mt List.min?_eq_none_iff.mp someValues)
  obtain ⟨greatest, isGreatest⟩ :=
    Option.ne_none_iff_exists'.mp (mt List.max?_eq_none_iff.mp someValues)
  refine ⟨least, greatest, isLeast, isGreatest, ?_⟩
  exact (List.min?_eq_some_iff.mp isLeast).2 greatest (List.max?_eq_some_iff.mp isGreatest).1

namespace Series

/-! ### The running figures -/

@[simp]
theorem samples_push (series : Series) (value : Int) :
    (series.push value).samples = series.samples ++ [value] := rfl

@[simp]
theorem count_push (series : Series) (value : Int) :
    (series.push value).count = series.count + 1 := rfl

@[simp]
theorem sum_push (series : Series) (value : Int) :
    (series.push value).sum = series.sum + value := rfl

@[simp]
theorem sumOfSquares_push (series : Series) (value : Int) :
    (series.push value).sumOfSquares = series.sumOfSquares + value * value := rfl

/-- All running figures of a series are those of its samples. -/
structure Summarizes (series : Series) (values : List Int) : Prop where
  samples : series.samples = values
  count : series.count = values.length
  sum : series.sum = values.sum
  sumOfSquares : series.sumOfSquares = (values.map (· ^ 2)).sum
  least : series.least = values.min?
  greatest : series.greatest = values.max?

namespace Summarizes

variable {series : Series} {values : List Int}

theorem empty : Series.empty.Summarizes [] := ⟨rfl, rfl, rfl, rfl, rfl, rfl⟩

/-- To set a sample against one of the extremes is enough, because the extremes are in order. -/
theorem extremesWith (same : series.Summarizes values) (value : Int) :
    series.extremesWith value = ((values ++ [value]).min?, (values ++ [value]).max?) := by
  rw [min?_concat, max?_concat, Series.extremesWith, same.count, same.least, same.greatest]
  rcases eq_or_ne values [] with rfl | someValues
  · rfl
  · obtain ⟨least, greatest, isLeast, isGreatest, ordered⟩ := exists_min?_max? someValues
    rw [if_neg (by simpa using someValues), isLeast, isGreatest]
    simp only [Option.any_some, decide_eq_true_eq, Option.elim_some]
    split_ifs with below above
    · rw [min_eq_left below.le, max_eq_right (below.le.trans ordered)]
    · rw [min_eq_right (ordered.trans above.le), max_eq_left above.le]
    · rw [min_eq_right (not_lt.mp below), max_eq_right (not_lt.mp above)]

/-- One more sample is one more in every figure. -/
theorem push (same : series.Summarizes values) (value : Int) :
    (series.push value).Summarizes (values ++ [value]) where
  samples := by rw [samples_push, same.samples]
  count := by rw [count_push, same.count, List.length_append, List.length_singleton]
  sum := by rw [sum_push, same.sum, List.sum_append, List.sum_singleton]
  sumOfSquares := by
    rw [sumOfSquares_push, same.sumOfSquares, List.map_append, List.sum_append, List.map_singleton,
      List.sum_singleton, sq]
  least := congrArg Prod.fst (same.extremesWith value)
  greatest := congrArg Prod.snd (same.extremesWith value)

theorem foldl_push (same : series.Summarizes values) (others : List Int) :
    (others.foldl Series.push series).Summarizes (values ++ others) := by
  induction others generalizing series values with
  | nil => rwa [List.append_nil]
  | cons value rest inductionHypothesis =>
    rw [List.foldl_cons, List.append_cons]
    exact inductionHypothesis (same.push value)

end Summarizes

theorem summarizes_ofList (values : List Int) : (ofList values).Summarizes values :=
  Summarizes.empty.foldl_push values

theorem samples_ofList (values : List Int) : (ofList values).samples = values :=
  (summarizes_ofList values).samples

theorem count_ofList (values : List Int) : (ofList values).count = values.length :=
  (summarizes_ofList values).count

theorem sum_ofList (values : List Int) : (ofList values).sum = values.sum :=
  (summarizes_ofList values).sum

theorem sumOfSquares_ofList (values : List Int) :
    (ofList values).sumOfSquares = (values.map (· ^ 2)).sum :=
  (summarizes_ofList values).sumOfSquares

/-- The series is what a fresh one becomes when whole numbers are added to it in order. -/
def IsOf (series : Series) (values : List Int) : Prop :=
  (values.map Quantity.whole).foldlM add empty = .ok series

theorem foldlM_add_whole (values : List Int) (series : Series) :
    (values.map Quantity.whole).foldlM add series = .ok (values.foldl push series) := by
  induction values generalizing series with
  | nil => rfl
  | cons value rest inductionHypothesis => exact inductionHypothesis (series.push value)

theorem isOf_ofList (values : List Int) : (ofList values).IsOf values :=
  foldlM_add_whole values empty

theorem isOf_iff {series : Series} {values : List Int} :
    series.IsOf values ↔ series = ofList values := by
  rw [IsOf, foldlM_add_whole, Except.ok.injEq, eq_comm]
  rfl

/-! ### The mean -/

section

variable {values : List Int} {bound : Int} (someValues : values ≠ [])
include someValues

theorem divisor_ofList : (ofList values).divisor = values.length := by
  rw [divisor, count_ofList, Nat.max_eq_left (List.length_pos_iff.mpr someValues)]

/-- No mean is below the least sample: a bound is the mean of as many times itself. -/
theorem le_average (below : ∀ value ∈ values, bound ≤ value) :
    bound ≤ (ofList values).average := by
  have positive : (0 : Int) < values.length := by
    exact_mod_cast List.length_pos_iff.mpr someValues
  have total := List.card_nsmul_le_sum values bound below
  rw [nsmul_eq_mul] at total
  rw [average, divisor_ofList someValues, sum_ofList]
  calc bound = (values.length * bound).tdiv values.length :=
        (Int.mul_tdiv_cancel_left _ positive.ne').symm
    _ ≤ values.sum.tdiv values.length := Int.tdiv_le_tdiv positive total

/-- No mean is above the greatest sample. -/
theorem average_le (above : ∀ value ∈ values, value ≤ bound) :
    (ofList values).average ≤ bound := by
  have positive : (0 : Int) < values.length := by
    exact_mod_cast List.length_pos_iff.mpr someValues
  have total := List.sum_le_card_nsmul values bound above
  rw [nsmul_eq_mul] at total
  rw [average, divisor_ofList someValues, sum_ofList]
  calc values.sum.tdiv values.length ≤ (values.length * bound).tdiv values.length :=
        Int.tdiv_le_tdiv positive total
    _ = bound := Int.mul_tdiv_cancel_left _ positive.ne'

end

/-- No mean is larger than the largest sample. -/
theorem natAbs_average_le {bound : Nat} (values : List Int)
    (bounded : ∀ value ∈ values, value.natAbs ≤ bound) :
    (ofList values).average.natAbs ≤ bound := by
  rcases eq_or_ne values [] with rfl | someValues
  · exact Nat.zero_le bound
  · have least : -(bound : Int) ≤ (ofList values).average :=
      le_average someValues fun value member => by have := bounded value member; omega
    have most : (ofList values).average ≤ bound :=
      average_le someValues fun value member => by have := bounded value member; omega
    omega

/-! ### Order -/

/-- Two series of the same samples, taken in whatever order. -/
structure Reordered (series other : Series) : Prop where
  count : series.count = other.count
  sum : series.sum = other.sum
  sumOfSquares : series.sumOfSquares = other.sumOfSquares
  least : series.least = other.least
  greatest : series.greatest = other.greatest
  samples : series.samples.Perm other.samples

namespace Reordered

/-- Samples can be taken in any order. -/
theorem ofList {values others : List Int} (perm : values.Perm others) :
    (Series.ofList values).Reordered (.ofList others) where
  count := by rw [count_ofList, count_ofList, perm.length_eq]
  sum := by rw [sum_ofList, sum_ofList, perm.sum_eq]
  sumOfSquares := by rw [sumOfSquares_ofList, sumOfSquares_ofList, (perm.map _).sum_eq]
  least := by
    rw [(summarizes_ofList values).least, (summarizes_ofList others).least, min?_of_perm perm]
  greatest := by
    rw [(summarizes_ofList values).greatest, (summarizes_ofList others).greatest,
      max?_of_perm perm]
  samples := by rwa [samples_ofList, samples_ofList]

variable {series other : Series}

/-! ### Figures -/

theorem average (same : series.Reordered other) : series.average = other.average := by
  rw [Series.average, Series.average, divisor, divisor, same.count, same.sum]

theorem variance (same : series.Reordered other) : series.variance = other.variance := by
  rw [Series.variance, Series.variance, divisor, divisor, same.average, same.count, same.sum,
    same.sumOfSquares]

theorem spread (same : series.Reordered other) : series.spread = other.spread := by
  rw [Series.spread, Series.spread, same.least, same.greatest]

/-- The line of a report is the same. -/
theorem line (same : series.Reordered other) (name : String) :
    series.line name = other.line name := by
  rw [Series.line, Series.line, deviation, deviation, same.count, same.average, same.spread,
    same.variance]

theorem sorted (same : series.Reordered other) : series.sorted = other.sorted := by
  have ascending (values : List Int) : values.mergeSort.Pairwise fun first second =>
      decide (first ≤ second) = true :=
    List.pairwise_mergeSort (fun _ _ _ => by simpa using Int.le_trans)
      (fun first second => by simpa using Int.le_total first second) values
  have perm : series.sorted.Perm other.sorted :=
    ((List.mergeSort_perm _ _).trans same.samples).trans (List.mergeSort_perm _ _).symm
  refine List.Perm.eq_of_pairwise (fun first second _ _ before after => ?_)
    (ascending _) (ascending _) perm
  exact Int.le_antisymm (of_decide_eq_true before) (of_decide_eq_true after)

theorem median (same : series.Reordered other) : series.median = other.median := by
  rw [Series.median, Series.median, sortedDoubles, sortedDoubles, same.sorted]

end Reordered

end Series

end ColdStart
