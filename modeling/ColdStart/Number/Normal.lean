/-
This file computes the upper tail of the standard normal distribution. With
`E = e ^ (z² / 2)` and `S = z + z³ / 3 + z⁵ / 15 + …` the tail at `z` is one half
of `1 - S √(2 / π) / E`. Both series have positive terms only and are summed in
fixed point, with enough bits that the difference keeps full precision.
-/

import ColdStart.Number.Binary64

namespace ColdStart

/-- The sum of terms of which each is the one before times `numerator / denominator index`. The
terms are whole numbers of units of the last bit, and the sum ends with the first zero. -/
def sumSeries (numerator : Nat) (denominator : Nat → Nat) :
    (fuel index term total : Nat) → Nat
  | 0, _, _, total => total
  | fuel + 1, index, term, total =>
    if term = 0 then total
    else
      sumSeries numerator denominator fuel (index + 1) (term * numerator / denominator index)
        (total + term)

/-- The terms of the series of the arc tangent of `1 / √square` from one on, added and taken away
in turn. -/
def sumAlternating (square : Nat) :
    (fuel odd power : Nat) → (added : Bool) → (total : Int) → Int
  | 0, _, _, _, total => total
  | fuel + 1, odd, power, added, total =>
    if power = 0 then total
    else
      let term : Int := (power / odd : Nat)
      sumAlternating square fuel (odd + 2) (power / square) (!added)
        (if added then total + term else total - term)

/-- The arc tangent of `1 / inverse` with so many bits. -/
def arcTangentInverse (bits inverse : Nat) : Int :=
  sumAlternating (inverse * inverse) bits 1 (Nat.pow 2 bits / inverse) true 0

/-- The ratio of a circle's circumference to its diameter with so many bits. -/
def circleRatio (bits : Nat) : Nat :=
  (16 * arcTangentInverse bits 5 - 4 * arcTangentInverse bits 239).toNat

/-- The probability of lying within `distance` of the mean, with so many bits. -/
def normalCentral (bits : Nat) (distance : Rat) : Nat :=
  let square := distance * distance
  let unit := Nat.pow 2 bits
  let fuel := 2 * bits + 8 * square.ceil.toNat
  let exponential :=
    sumSeries square.num.natAbs (fun index => 2 * square.den * (index + 1)) fuel 0 unit 0
  let series :=
    sumSeries square.num.natAbs (fun index => square.den * (2 * index + 3)) fuel 0
      (unit * distance.num.natAbs / distance.den) 0
  let factor := (2 * Nat.pow unit 3 / circleRatio bits).sqrt
  series * factor / exponential

/-- Distances from here on leave a tail too small for a double. -/
def tailLimit : Rat := 40

/-- The probability that a standard normal variable is greater than the number. -/
def Binary64.normalTail : Binary64 → Binary64
  | undefined => undefined
  | infinite negative => if negative then ofInt 1 else zero false
  | finite negative significand exponent =>
    let distance := scaled significand exponent
    if tailLimit < distance then if negative then ofInt 1 else zero false
    else
      let bits := 160 + (distance * distance).ceil.toNat
      let unit := Nat.pow 2 bits
      let central := normalCentral bits distance
      ofRatio false (if negative then unit + central else unit - central) (2 * unit)

end ColdStart
