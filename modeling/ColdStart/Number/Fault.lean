/-
This file holds what can go wrong when numbers are converted or divided, and
the sentence that reports each case.
-/

namespace ColdStart

/-- Why an arithmetic step has no result. -/
inductive NumberFault where
  /-- A whole number was divided by zero. -/
  | divisionByZero
  /-- An infinite number has no whole part. -/
  | infiniteWhole
  /-- An undefined number has no whole part. -/
  | undefinedWhole
  /-- Nothing was given where a number belongs. -/
  | missing
  /-- A whole number lies past the range of doubles. -/
  | wholeTooLarge
  /-- The quotient of two whole numbers lies past the range of doubles. -/
  | quotientTooLarge
  deriving DecidableEq, Repr

/-- The sentence that reports the fault. -/
def NumberFault.message : NumberFault → String
  | divisionByZero => "integer division or modulo by zero"
  | infiniteWhole => "cannot convert float infinity to integer"
  | undefinedWhole => "cannot convert float NaN to integer"
  | missing =>
    "int() argument must be a string, a bytes-like object or a real number, not 'NoneType'"
  | wholeTooLarge => "int too large to convert to float"
  | quotientTooLarge => "integer division result too large for a float"

end ColdStart
