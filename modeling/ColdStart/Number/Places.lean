/-
This file writes doubles in decimal: with a fixed number of places, with a
fixed number of places and an exponent, and with the fewest digits that read
back as the same double. The first two round the exact value to the nearest
numeral, a tie going to the even last digit.
-/

import ColdStart.Number.Binary64

namespace ColdStart

/-- The decimal digits of a number, the leading one first. -/
def decimalText (number : Nat) : String := String.ofList (Nat.toDigits 10 number)

/-- The digits of a number with zeros in front up to a width. -/
def paddedDigits (width number : Nat) : List Char :=
  let digits := Nat.toDigits 10 number
  List.replicate (width - digits.length) '0' ++ digits

/-- A whole number of units of the last place, with a point before the last places. -/
def pointText (places units : Nat) : String :=
  let digits := paddedDigits (places + 1) units
  let cut := digits.length - places
  if places = 0 then String.ofList digits
  else String.ofList (digits.take cut ++ '.' :: digits.drop cut)

/-- The nearest whole number to `value * 10 ^ places`, a tie going to the even one. -/
def decimalUnits (value : Rat) (places : Int) : Nat :=
  if 0 ≤ places then roundRatio (value.num.natAbs * Nat.pow 10 places.toNat) value.den
  else roundRatio value.num.natAbs (value.den * Nat.pow 10 (-places).toNat)

/-- The power of ten at or just below a positive value. -/
def decade (value : Rat) : Int :=
  let numerator := value.num.natAbs
  let estimate : Int := ((binade numerator value.den * 1233).fdiv 4096)
  let reaches (power : Int) : Bool :=
    if 0 ≤ power then value.den * Nat.pow 10 power.toNat ≤ numerator
    else value.den ≤ numerator * Nat.pow 10 (-power).toNat
  if reaches (estimate + 2) then estimate + 2
  else if reaches (estimate + 1) then estimate + 1
  else if reaches estimate then estimate
  else estimate - 1

/-- How doubles that are not finite, and negative ones, are written around a magnitude. -/
def Binary64.signedText (magnitudeText : Rat → String) : Binary64 → String
  | infinite negative => if negative then "-inf" else "inf"
  | undefined => "nan"
  | finite negative significand exponent =>
    (if negative then "-" else "") ++ magnitudeText (scaled significand exponent)

/-- The double with a fixed number of places. -/
def Binary64.fixedText (places : Nat) (value : Binary64) : String :=
  value.signedText fun magnitude => pointText places (decimalUnits magnitude places)

/-- An exponent with its sign and at least two digits. -/
def exponentText (exponent : Int) : String :=
  (if exponent < 0 then "e-" else "e+") ++ String.ofList (paddedDigits 2 exponent.natAbs)

/-- One digit, a point, a fixed number of places and the exponent. -/
def scientificMagnitude (places : Nat) (magnitude : Rat) : String :=
  if magnitude = 0 then pointText places 0 ++ exponentText 0
  else
    let exponent := decade magnitude
    let units := decimalUnits magnitude (places - exponent)
    if units = Nat.pow 10 (places + 1) then
      pointText places (Nat.pow 10 places) ++ exponentText (exponent + 1)
    else pointText places units ++ exponentText exponent

/-- The double with one digit before the point, a fixed number of places and an exponent. -/
def Binary64.scientificText (places : Nat) (value : Binary64) : String :=
  value.signedText (scientificMagnitude places)

end ColdStart
