/-
This file tests whether two lists of times differ, by the rank sum of the one
among both. Small samples without ties are compared with the exact
distribution of the rank sum, all others with a normal one of the same mean and
spread, ties taken into account. The probability counts both directions.
-/

import ColdStart.Number.Normal

namespace ColdStart

/-! ### The exact distribution -/

/-- The sum of a list of counts. -/
def sumOf (counts : List Nat) : Nat := counts.foldl Nat.add 0

/-- The sum of two lists of counts, position by position. -/
def addCounts : List Nat → List Nat → List Nat
  | [], second => second
  | first, [] => first
  | a :: first, b :: second => (a + b) :: addCounts first second

/-- Given, for each size of the second sample, how often each rank sum occurs with one element
less in the first sample, the same with that element. -/
def nextCounts : (size : Nat) → (current : List Nat) → List (List Nat) → List (List Nat)
  | _, _, [] => []
  | size, current, fewer :: rest =>
    let counts := addCounts (List.replicate size 0 ++ fewer) current
    counts :: nextCounts (size + 1) counts rest

/-- How many of the orders of two samples have each rank sum, counted from the least. -/
def rankSumCounts (first second : Nat) : List Nat :=
  let start := List.replicate (second + 1) [1]
  let table := (List.range first).foldl (fun counts _ => nextCounts 0 [] counts) start
  table.getLastD [1]

/-- The probability that the rank sum is at least so far above the least, from the other end of
the distribution, which is symmetric. -/
def exactTail (first second above : Nat) : Binary64 :=
  let counts := rankSumCounts first second
  let orders := sumOf counts
  let below := first * second - above
  (counts.take (below + 1)).foldl
    (fun sum count => sum.add (.ofRatio false count orders)) (.zero false)

/-! ### The statistic -/

/-- Two samples of times. -/
structure SamplePair where
  candidate : List Rat
  baseline : List Rat

namespace SamplePair

/-- All times of both samples. -/
def all (pair : SamplePair) : List Rat := pair.candidate ++ pair.baseline

/-- How often a time occurs. -/
def multiplicity (pair : SamplePair) (time : Rat) : Nat := pair.all.count time

/-- Twice the mean rank of a time among all. -/
def twiceRank (pair : SamplePair) (time : Rat) : Nat :=
  2 * (pair.all.filter (· < time)).length + pair.multiplicity time + 1

/-- Twice the number of pairs in which the candidate is greater, a tie counting one half; or the
same for the baseline, whichever is more. -/
def twiceStatistic (pair : SamplePair) : Nat :=
  let first := pair.candidate.length
  let second := pair.baseline.length
  let greater := sumOf (pair.candidate.map pair.twiceRank) - first * (first + 1)
  max greater (2 * first * second - greater)

/-- Whether some time occurs twice. -/
def hasTies (pair : SamplePair) : Bool :=
  pair.all.any fun time => 1 < pair.multiplicity time

/-- The sum of `t³ - t` over all times that occur `t` times. -/
def tieTerm (pair : SamplePair) : Nat :=
  sumOf (pair.all.map fun time => Nat.pow (pair.multiplicity time) 2 - 1)

/-- The distance of the statistic from its mean, in units of its spread, with one half taken off
because it is a whole number. -/
def distance (pair : SamplePair) : Binary64 :=
  let first := pair.candidate.length
  let second := pair.baseline.length
  let size := first + second
  let mean := Binary64.ofRatio false (first * second) 2
  let correction := (Binary64.ofInt pair.tieTerm).div (.ofInt (size * (size - 1) : Nat))
  let spread :=
    ((Binary64.ofRatio false (first * second) 12).mul
      ((Binary64.ofInt (size + 1 : Nat)).sub correction)).sqrt
  (((Binary64.ofRatio false pair.twiceStatistic 2).sub mean).sub (.ofRatio false 1 2)).div spread

/-- Samples up to this size are compared with the exact distribution. -/
def exactLimit : Nat := 8

/-- Whether the exact distribution is used. -/
def isExact (pair : SamplePair) : Bool :=
  !pair.hasTies &&
    !(exactLimit < pair.candidate.length && exactLimit < pair.baseline.length)

/-- The probability of a statistic at least as extreme, if both samples come from the same
distribution. -/
def probability (pair : SamplePair) : Binary64 :=
  let tail :=
    if pair.isExact then
      exactTail pair.candidate.length pair.baseline.length (pair.twiceStatistic / 2)
    else pair.distance.normalTail
  ((tail.mul (.ofInt 2)).max (.zero false)).min (.ofInt 1)

end SamplePair

/-- A test of whether two samples differ: the probability that it gives, which may be undefined. -/
abbrev RankTest := SamplePair → Binary64

/-- The test that is used unless another is given. -/
def RankTest.plain : RankTest := SamplePair.probability

end ColdStart
