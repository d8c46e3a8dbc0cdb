/-
This file holds percentages of a baseline. The share is taken as a double, one
half is added, and the whole number at or below the sum is the percentage, so
halves are rounded up. A baseline below one counts as one.
-/

import ColdStart.Number.Quantity

namespace ColdStart

/-- What a share is multiplied with: the baseline itself is a hundred percent. -/
def percentFactor : Int := 100

/-- One half. -/
def Binary64.half : Binary64 := .ofRatio false 1 2

/-- The number as a percentage of a baseline. -/
def percentage (number baseline : Int) : Except NumberFault Int := do
  let share ← quotientToBinary64 (number * percentFactor) (max baseline 1).toNat
  match (share.add .half).floor? with
  | some whole => .ok whole
  | none => .error .infiniteWhole

end ColdStart
