/-
This file holds the double precision numbers in which percentages, medians and
probabilities are computed. A finite number is a sign, a significand and a
power of two, so its exact value is a rational. Every operation forms the exact
result and rounds it once, to the nearest double, a tie going to the even
significand; nothing rests on the machine's own arithmetic.
-/

namespace ColdStart

/-- A double precision number. A finite one denotes `significand * 2 ^ exponent` with its
sign; `undefined` is the result of an operation that has none. -/
inductive Binary64 where
  | finite (negative : Bool) (significand : Nat) (exponent : Int)
  | infinite (negative : Bool)
  | undefined
  deriving DecidableEq, Repr

/-! ### Rounding a ratio to a whole number -/

/-- The whole number nearest to a ratio; a tie goes to the even neighbour. -/
def roundRatio (numerator denominator : Nat) : Nat :=
  let quotient := numerator / denominator
  let twiceRemainder := 2 * (numerator % denominator)
  if twiceRemainder < denominator then quotient
  else if denominator < twiceRemainder then quotient + 1
  else quotient + quotient % 2

/-- The power of two at or just below a positive ratio. -/
def binade (numerator denominator : Nat) : Int :=
  let estimate : Int := (numerator.log2 : Int) - denominator.log2
  let above :=
    if 0 ≤ estimate then numerator < denominator * Nat.pow 2 estimate.toNat
    else numerator * Nat.pow 2 (-estimate).toNat < denominator
  if above then estimate - 1 else estimate

namespace Binary64

/-! ### The format -/

/-- The number of bits of a full significand. -/
def precision : Nat := 53

/-- The exponent of the smallest positive number. -/
def leastExponent : Int := -1074

/-- The exponent of the largest finite number. -/
def greatestExponent : Int := 971

/-- Positive or negative zero. -/
def zero (negative : Bool) : Binary64 := finite negative 0 leastExponent

/-- The double nearest to a ratio that carries the given sign. A ratio past the range becomes
infinite. -/
def ofRatio (negative : Bool) (numerator denominator : Nat) : Binary64 :=
  if numerator = 0 then zero negative
  else
    let exponent := max (binade numerator denominator - 52) leastExponent
    let significand :=
      if 0 ≤ exponent then roundRatio numerator (denominator * Nat.pow 2 exponent.toNat)
      else roundRatio (numerator * Nat.pow 2 (-exponent).toNat) denominator
    let carried := significand = Nat.pow 2 precision
    let exponent := if carried then exponent + 1 else exponent
    if greatestExponent < exponent then infinite negative
    else finite negative (if carried then Nat.pow 2 52 else significand) exponent

/-- The double nearest to a rational number; zero is positive. -/
def ofRat (value : Rat) : Binary64 :=
  ofRatio (decide (value < 0)) value.num.natAbs value.den

/-- The double nearest to an integer. -/
def ofInt (value : Int) : Binary64 :=
  ofRatio (decide (value < 0)) value.natAbs 1

/-- The exact value of a significand at an exponent. -/
def scaled (significand : Nat) (exponent : Int) : Rat :=
  if 0 ≤ exponent then ((significand * Nat.pow 2 exponent.toNat : Nat) : Rat)
  else mkRat significand (Nat.pow 2 (-exponent).toNat)

/-- The exact value of a finite number. -/
def toRat? : Binary64 → Option Rat
  | finite negative significand exponent =>
    let magnitude := scaled significand exponent
    some (if negative then -magnitude else magnitude)
  | infinite _ => none
  | undefined => none

/-- Whether the sign bit is set. -/
def isNegative : Binary64 → Bool
  | finite negative _ _ => negative
  | infinite negative => negative
  | undefined => false

/-- Whether the number is neither infinite nor undefined. -/
def isFinite : Binary64 → Bool
  | finite _ _ _ => true
  | _ => false

/-- Whether the number is a zero of either sign. -/
def isZero : Binary64 → Bool
  | finite _ significand _ => significand == 0
  | _ => false

/-! ### Arithmetic -/

/-- The number with its sign turned. -/
def neg : Binary64 → Binary64
  | finite negative significand exponent => finite (!negative) significand exponent
  | infinite negative => infinite (!negative)
  | undefined => undefined

/-- The rounded sum. An exact zero is negative only when both terms are. -/
def add : Binary64 → Binary64 → Binary64
  | undefined, _ => undefined
  | _, undefined => undefined
  | infinite first, infinite second => if first = second then infinite first else undefined
  | infinite first, finite _ _ _ => infinite first
  | finite _ _ _, infinite second => infinite second
  | finite first m p, finite second n q =>
    let left := if first then -scaled m p else scaled m p
    let right := if second then -scaled n q else scaled n q
    let sum := left + right
    if sum = 0 then zero (first && second) else ofRat sum

/-- The rounded difference. -/
def sub (left right : Binary64) : Binary64 := add left (neg right)

/-- The rounded product. -/
def mul : Binary64 → Binary64 → Binary64
  | undefined, _ => undefined
  | _, undefined => undefined
  | infinite first, infinite second => infinite (first != second)
  | infinite first, finite second n _ =>
    if n = 0 then undefined else infinite (first != second)
  | finite first m _, infinite second =>
    if m = 0 then undefined else infinite (first != second)
  | finite first m p, finite second n q =>
    let product := scaled m p * scaled n q
    ofRatio (first != second) product.num.natAbs product.den

/-- The rounded quotient. A nonzero number over zero is infinite. -/
def div : Binary64 → Binary64 → Binary64
  | undefined, _ => undefined
  | _, undefined => undefined
  | infinite _, infinite _ => undefined
  | infinite first, finite second _ _ => infinite (first != second)
  | finite first _ _, infinite second => zero (first != second)
  | finite first m p, finite second n q =>
    if n = 0 then
      if m = 0 then undefined else infinite (first != second)
    else
      let quotient := scaled m p / scaled n q
      ofRatio (first != second) quotient.num.natAbs quotient.den

/-- The rounded square root. The root of the significand is taken with at least 55 bits; when
it is not exact an odd last bit stands for the rest, which settles on which side of every
double and every midpoint between doubles the root lies. -/
def sqrt : Binary64 → Binary64
  | undefined => undefined
  | infinite negative => if negative then undefined else infinite false
  | finite negative significand exponent =>
    if significand = 0 then finite negative significand exponent
    else if negative then undefined
    else
      let parity := exponent % 2
      let widened := significand * Nat.pow 2 (110 + parity.toNat)
      let root := widened.sqrt
      let marked := 2 * root + (if root * root = widened then 0 else 1)
      let value := scaled marked ((exponent - parity - 110) / 2 - 1)
      ofRatio false value.num.natAbs value.den

/-! ### Order -/

/-- Strictly less; nothing is less than or greater than an undefined number. -/
def lt : Binary64 → Binary64 → Bool
  | undefined, _ => false
  | _, undefined => false
  | infinite first, infinite second => first && !second
  | infinite first, finite _ _ _ => first
  | finite _ _ _, infinite second => !second
  | finite first m p, finite second n q =>
    let left := if first then -scaled m p else scaled m p
    let right := if second then -scaled n q else scaled n q
    decide (left < right)

/-- The first number unless the second is strictly less. -/
def min (left right : Binary64) : Binary64 := if lt right left then right else left

/-- The first number unless the second is strictly greater. -/
def max (left right : Binary64) : Binary64 := if lt left right then right else left

/-! ### Whole parts and bits -/

/-- The whole part, the fraction dropped. -/
def truncate? (value : Binary64) : Option Int :=
  value.toRat?.map fun exact => exact.num.tdiv exact.den

/-- The greatest whole number that is not above. -/
def floor? (value : Binary64) : Option Int :=
  value.toRat?.map Rat.floor

/-- The 64 bits of the interchange format: sign, eleven bits of exponent, 52 of fraction. -/
def bits : Binary64 → Nat
  | finite negative significand exponent =>
    let sign := if negative then Nat.pow 2 63 else 0
    let unit := Nat.pow 2 52
    if significand < unit then sign + significand
    else sign + (exponent - leastExponent + 1).toNat * unit + (significand - unit)
  | infinite negative => (if negative then Nat.pow 2 63 else 0) + 2047 * Nat.pow 2 52
  | undefined => 4095 * Nat.pow 2 51

end Binary64

end ColdStart
