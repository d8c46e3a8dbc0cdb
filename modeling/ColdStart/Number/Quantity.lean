/-
This file holds the steps between whole numbers and doubles that can fail: the
whole part of a given quantity, division toward zero, and the doubles nearest
to an integer and to a ratio of integers.
-/

import ColdStart.Number.Binary64
import ColdStart.Number.Fault

namespace ColdStart

/-- A number as it is handed in: whole, real, or not there at all. -/
inductive Quantity where
  | whole (value : Int)
  | real (value : Binary64)
  | missing
  deriving DecidableEq, Repr

/-- The whole part of a double. -/
def Binary64.toWhole : Binary64 → Except NumberFault Int
  | infinite _ => .error .infiniteWhole
  | undefined => .error .undefinedWhole
  | finite negative significand exponent =>
    let magnitude := (scaled significand exponent).floor
    .ok (if negative then -magnitude else magnitude)

/-- The whole part of a quantity: its fraction is dropped. -/
def Quantity.toWhole : Quantity → Except NumberFault Int
  | whole value => .ok value
  | real value => value.toWhole
  | missing => .error .missing

/-- The quotient rounded toward zero. -/
def divideTowardZero (numerator denominator : Int) : Except NumberFault Int :=
  if denominator = 0 then .error .divisionByZero else .ok (numerator.tdiv denominator)

/-- The double nearest to an integer. -/
def wholeToBinary64 (value : Int) : Except NumberFault Binary64 :=
  match Binary64.ofInt value with
  | .infinite _ => .error .wholeTooLarge
  | nearest => .ok nearest

/-- The double nearest to the ratio of an integer to a positive integer. -/
def quotientToBinary64 (numerator : Int) (denominator : Nat) : Except NumberFault Binary64 :=
  match Binary64.ofRatio (decide (numerator < 0)) numerator.natAbs denominator with
  | .infinite _ => .error .quotientTooLarge
  | nearest => .ok nearest

end ColdStart
