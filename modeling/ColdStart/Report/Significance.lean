/-
This file compares the times of a mode with those of the baseline. With at
least two times on each side a rank sum test gives a probability, and the
difference is significant when that is defined and below the level asked for.
-/

import ColdStart.Report.RankSum
import ColdStart.Report.Statistics

namespace ColdStart

/-- The outcome of a comparison. Without enough times there is no probability, and none either
when it is undefined. -/
structure Comparison where
  name : String
  baselineMedian : Binary64
  median : Binary64
  probability : Option Binary64
  significant : Bool
  deriving DecidableEq, Repr

/-- The fewest times that are compared. -/
def fewestCompared : Nat := 2

/-- The times of a series as doubles, in the order in which they were taken. -/
def Series.exactDoubles (series : Series) : Except NumberFault (List Rat) :=
  series.samples.mapM fun value =>
    (wholeToBinary64 value).map fun nearest => nearest.toRat?.getD 0

/-- The probability that a test gives, if there are enough times and it is defined. -/
def RankTest.probability? (test : RankTest) (pair : SamplePair) : Option Binary64 :=
  if pair.baseline.length < fewestCompared || pair.candidate.length < fewestCompared then none
  else
    let probability := test pair
    if probability = .undefined then none else some probability

/-- The comparison of a mode with the baseline at a level, by a test. -/
def compareTotals (baseline candidate : ModeStatistics) (level : Binary64)
    (test : RankTest := .plain) : Except NumberFault Comparison := do
  let baselineTimes ← baseline.appTotals.exactDoubles
  let candidateTimes ← candidate.appTotals.exactDoubles
  let baselineMedian ← baseline.appTotals.median
  let median ← candidate.appTotals.median
  let probability := test.probability? ⟨candidateTimes, baselineTimes⟩
  return {
    name := candidate.mode.name
    baselineMedian
    median
    probability
    significant := probability.any (·.lt level) }

end ColdStart
