/-
This file finds the fewest decimal digits that read back as a given double. A
double stands for the interval of reals that round to it. For each number of
digits in turn, the two numerals next to the double are tried; the first grid
with one inside the interval wins, and of two inside, the nearer.
-/

import ColdStart.Number.Places

namespace ColdStart

/-- A decimal numeral `digits * 10 ^ exponent`. -/
structure Numeral where
  digits : Nat
  exponent : Int
  deriving DecidableEq, Repr

/-- The exact value of a numeral. -/
def Numeral.toRat (numeral : Numeral) : Rat :=
  if 0 ≤ numeral.exponent then ((numeral.digits * Nat.pow 10 numeral.exponent.toNat : Nat) : Rat)
  else mkRat numeral.digits (Nat.pow 10 (-numeral.exponent).toNat)

/-- The reals that round to one double. -/
structure RoundingInterval where
  low : Rat
  high : Rat
  closed : Bool

/-- The interval of a positive double. Below a power of two the doubles lie twice as close. -/
def RoundingInterval.of (significand : Nat) (exponent : Int) : RoundingInterval :=
  let belowPower := significand = Nat.pow 2 52 && Binary64.leastExponent < exponent
  let low :=
    if belowPower then Binary64.scaled (4 * significand - 1) (exponent - 2)
    else Binary64.scaled (2 * significand - 1) (exponent - 1)
  { low, high := Binary64.scaled (2 * significand + 1) (exponent - 1),
    closed := significand % 2 == 0 }

/-- Whether a real rounds to the double of the interval. -/
def RoundingInterval.contains (interval : RoundingInterval) (value : Rat) : Bool :=
  if interval.closed then interval.low ≤ value && value ≤ interval.high
  else interval.low < value && value < interval.high

/-- The numeral with this many digits that reads back and lies nearest, if there is one; of two
equally near the even one. -/
def RoundingInterval.numeral? (interval : RoundingInterval) (value : Rat) (count : Nat) :
    Option Numeral :=
  let exponent := decade value + 1 - count
  let below := decimalFloor exponent
  let low : Numeral := ⟨below, exponent⟩
  let high : Numeral :=
    if below + 1 = Nat.pow 10 count then ⟨1, exponent + count⟩ else ⟨below + 1, exponent⟩
  match interval.contains low.toRat, interval.contains high.toRat with
  | false, false => none
  | true, false => some low
  | false, true => some high
  | true, true =>
    let fromLow := value - low.toRat
    let fromHigh := high.toRat - value
    if fromLow < fromHigh then some low
    else if fromHigh < fromLow then some high
    else if below % 2 = 0 then some low else some high
where
  /-- The greatest numeral of the grid that is not above the value. -/
  decimalFloor (exponent : Int) : Nat :=
    let numerator := value.num.natAbs
    if 0 ≤ exponent then numerator / (value.den * Nat.pow 10 exponent.toNat)
    else numerator * Nat.pow 10 (-exponent).toNat / value.den

/-- The shortest numeral that reads back, tried with this many digits and up. Seventeen digits
always suffice. -/
def RoundingInterval.shortest (interval : RoundingInterval) (value : Rat) (count : Nat) :
    (attempts : Nat) → Numeral
  | 0 => ⟨decimalUnits value (16 - decade value), decade value - 16⟩
  | attempts + 1 =>
    match interval.numeral? value count with
    | some numeral => numeral
    | none => interval.shortest value (count + 1) attempts

/-- The shortest numeral that reads back as a positive double. -/
def shortestNumeral (significand : Nat) (exponent : Int) : Numeral :=
  (RoundingInterval.of significand exponent).shortest (Binary64.scaled significand exponent) 1 17

/-- When a numeral is written with an exponent instead of zeros. -/
structure NumeralLayout where
  /-- The least power of ten of the leading digit that is written in place. -/
  leastInPlace : Int
  /-- The greatest power of ten of the leading digit that is written in place. -/
  greatestInPlace : Int

/-- Significance levels have an exponent below a ten-thousandth and from ten to the sixteenth. -/
def significanceLayout : NumeralLayout := ⟨-4, 15⟩

/-- A numeral written out: in place with at least one decimal, or with an exponent. -/
def NumeralLayout.text (layout : NumeralLayout) (numeral : Numeral) : String :=
  let digits := Nat.toDigits 10 numeral.digits
  let lead := numeral.exponent + digits.length - 1
  if layout.leastInPlace ≤ lead && lead ≤ layout.greatestInPlace then
    if 0 ≤ numeral.exponent then
      String.ofList (digits ++ List.replicate numeral.exponent.toNat '0') ++ ".0"
    else pointText (-numeral.exponent).toNat numeral.digits
  else
    match digits with
    | [only] => String.ofList [only] ++ exponentText lead
    | first :: rest => String.ofList (first :: '.' :: rest) ++ exponentText lead
    | [] => exponentText lead

/-- The double with the fewest digits that read back. -/
def Binary64.shortestText (layout : NumeralLayout) : Binary64 → String
  | infinite negative => if negative then "-inf" else "inf"
  | undefined => "nan"
  | finite negative significand exponent =>
    (if negative then "-" else "") ++
      if significand = 0 then "0.0" else layout.text (shortestNumeral significand exponent)

end ColdStart
