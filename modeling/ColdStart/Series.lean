/-
This file holds a series of measurements in whole milliseconds: how many there
are, their sum, the sum of their squares, the least and the greatest, and the
samples themselves. Mean, variance and deviation are integers, each division
dropping the fraction; the median alone is a double.
-/

import ColdStart.Number.Quantity
import ColdStart.Text.Columns

namespace ColdStart

/-- The samples taken so far and their running figures. -/
structure Series where
  count : Nat := 0
  sum : Int := 0
  sumOfSquares : Int := 0
  least : Option Int := none
  greatest : Option Int := none
  samples : List Int := []
  deriving DecidableEq, Repr

namespace Series

/-- The series without samples. -/
def empty : Series := {}

/-- The least and the greatest sample once one more is taken. The first sample is both. A later one
is set against the greatest only if it is not below the least. -/
def extremesWith (series : Series) (value : Int) : Option Int × Option Int :=
  if series.count = 0 then (some value, some value)
  else if series.least.any (value < ·) then (some value, series.greatest)
  else if series.greatest.any (· < value) then (series.least, some value)
  else (series.least, series.greatest)

/-- The series with one more sample. -/
def push (series : Series) (value : Int) : Series :=
  { count := series.count + 1
    sum := series.sum + value
    sumOfSquares := series.sumOfSquares + value * value
    least := (series.extremesWith value).1
    greatest := (series.extremesWith value).2
    samples := series.samples ++ [value] }

/-- The series of the given samples. -/
def ofList (values : List Int) : Series := values.foldl push empty

/-- The series with the whole part of a quantity as one more sample. A quantity without a whole
part is refused. -/
def add (series : Series) (quantity : Quantity) : Except NumberFault Series :=
  quantity.toWhole.map series.push

/-- The number that sums are divided by: the count, but one for an empty series. -/
def divisor (series : Series) : Nat := max series.count 1

/-- The mean, its fraction dropped; zero for an empty series. -/
def average (series : Series) : Int := series.sum.tdiv series.divisor

/-- The mean squared distance from the mean, from the running sums. -/
def variance (series : Series) : Int :=
  let average := series.average
  average * average +
    (series.sumOfSquares - 2 * average * series.sum).tdiv series.divisor

/-- The whole part of the root of the variance. -/
def deviation (series : Series) : Nat := series.variance.toNat.sqrt

/-- The distance between the least and the greatest sample; zero for an empty series. -/
def spread (series : Series) : Int :=
  match series.least, series.greatest with
  | some least, some greatest => greatest - least
  | _, _ => 0

/-- The samples in ascending order. -/
def sorted (series : Series) : List Int := series.samples.mergeSort

/-- The samples in ascending order, as the doubles nearest to them. -/
def sortedDoubles (series : Series) : Except NumberFault (List Binary64) :=
  series.sorted.mapM wholeToBinary64

/-- The middle of ascending doubles; of two middle ones, half their sum. -/
def middle (values : List Binary64) : Binary64 :=
  let half := values.length / 2
  let upper := values.getD half (.zero false)
  if values.length % 2 = 1 then upper
  else (values.getD (half - 1) (.zero false)).add upper |>.div (.ofInt 2)

/-- The median of the samples as doubles; zero for an empty series. -/
def median (series : Series) : Except NumberFault Binary64 :=
  series.sortedDoubles.map middle

/-- The line of a report that shows the series. -/
def line (series : Series) (name : String) : String :=
  padRight 30 name ++
    ": COUNT=" ++ padRight 5 (integerText series.count) ++
    " AVG=" ++ padRight 5 (integerText series.average) ++
    " INTERVAL=" ++ padRight 5 (integerText series.spread) ++
    " STDDEV=" ++ padRight 5 (integerText series.deviation)

end Series

/-! ### The three series of a phase -/

/-- Total, user and system time of one phase. -/
structure PhaseSeries where
  total : Series := {}
  user : Series := {}
  system : Series := {}
  deriving DecidableEq, Repr

namespace PhaseSeries

/-- The series with one more measurement each. -/
def push (series : PhaseSeries) (total user system : Int) : PhaseSeries :=
  { total := series.total.push total
    user := series.user.push user
    system := series.system.push system }

/-- Feeds total, user and system time in this order. When one is refused, the series fed before
it keep their new sample. -/
def add (series : PhaseSeries) (total user system : Quantity) :
    PhaseSeries × Option NumberFault :=
  match series.total.add total with
  | .error fault => (series, some fault)
  | .ok total =>
    let series := { series with total }
    match series.user.add user with
    | .error fault => (series, some fault)
    | .ok user =>
      let series := { series with user }
      match series.system.add system with
      | .error fault => (series, some fault)
      | .ok system => ({ series with system }, none)

/-- The number of measurements. -/
def count (series : PhaseSeries) : Nat := series.total.count

/-- The lines of a report that show the phase. -/
def lines (series : PhaseSeries) (name : String) : List String :=
  [series.total.line (name ++ " (total)"), series.user.line (name ++ " (user)"),
    series.system.line (name ++ " (system)")]

end PhaseSeries

end ColdStart
