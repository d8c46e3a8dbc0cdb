/-
This file says what a series is after quantities of any kind were offered to it, one after
the other. Those that are numbers are taken without their fractions, in order. The others
are refused, and a refusal leaves the series as it is, so it makes no difference where
among the numbers the refused ones come.
-/

import ColdStart.Proofs.Number.Decimal
import ColdStart.Proofs.Series
import Mathlib.Data.List.Induction
import Mathlib.Data.Rat.Floor

namespace ColdStart

/-! ### Whole parts -/

/-- A number without its fraction: the nearest whole number on the side of zero. -/
def wholePart (value : ℚ) : Int := if 0 ≤ value then ⌊value⌋ else ⌈value⌉

theorem wholePart_eq_tdiv (value : ℚ) : wholePart value = value.num.tdiv value.den := by
  rw [wholePart]
  split
  · next nonneg =>
    rw [Int.tdiv_eq_ediv_of_nonneg (Rat.num_nonneg.mpr nonneg)]
    exact Rat.floor_def value
  · next negative =>
    have opposite : 0 ≤ (-value).num := Rat.num_nonneg.mpr (by linarith)
    have turned : value.num = -(-value).num := by rw [Rat.neg_num, neg_neg]
    rw [← neg_neg value, Int.ceil_neg, neg_neg, turned, Int.neg_tdiv,
      Int.tdiv_eq_ediv_of_nonneg opposite]
    exact congrArg Neg.neg (Rat.floor_def (-value))

theorem wholePart_neg (value : ℚ) : wholePart (-value) = -wholePart value := by
  rw [wholePart_eq_tdiv, wholePart_eq_tdiv, Rat.neg_num, Rat.neg_den, Int.neg_tdiv]

theorem wholePart_intCast (value : Int) : wholePart value = value := by
  rw [wholePart, Int.floor_intCast, Int.ceil_intCast, ite_self]

namespace Quantity

/-- The exact value of a quantity, if it is a number. -/
def value? : Quantity → Option ℚ
  | whole value => some value
  | real value => value.toRat?
  | missing => none

variable {quantity : Quantity}

theorem toWhole_of_value {value : ℚ} (isNumber : quantity.value? = some value) :
    quantity.toWhole = .ok (wholePart value) := by
  cases quantity with
  | whole value =>
    obtain rfl := Option.some.inj isNumber
    rw [wholePart_intCast]
    rfl
  | real double =>
    have exactly : double.toRat? = some value := isNumber
    refine (toWhole_eq_ok_iff double _).mpr ?_
    rw [Binary64.truncate?, exactly, Option.map_some, wholePart_eq_tdiv]
  | missing => cases isNumber

/-- What is no number has no whole part. -/
theorem exists_toWhole_error (noNumber : quantity.value? = none) :
    ∃ fault, quantity.toWhole = .error fault := by
  cases quantity with
  | whole value => cases noNumber
  | real double =>
    cases double with
    | finite negative significand exponent => cases noNumber
    | infinite negative => exact ⟨_, rfl⟩
    | undefined => exact ⟨_, rfl⟩
  | missing => exact ⟨_, rfl⟩

end Quantity

/-- The whole parts of the quantities that are numbers, in order. -/
def wholeParts (quantities : List Quantity) : List Int :=
  (quantities.filterMap Quantity.value?).map wholePart

theorem wholeParts_concat (quantities : List Quantity) (quantity : Quantity) :
    wholeParts (quantities ++ [quantity]) =
      wholeParts quantities ++ (quantity.value?.map wholePart).toList := by
  rw [wholeParts, List.filterMap_append, List.map_append]
  cases exactly : quantity.value? with
  | none => simp [wholeParts, exactly]
  | some value => simp [wholeParts, exactly]

/-! ### Offers -/

namespace Series

/-- The series behind an offer, and why the offer was refused if it was. -/
def offer (series : Series) (quantity : Quantity) : Series × Option NumberFault :=
  match series.add quantity with
  | .ok taken => (taken, none)
  | .error fault => (series, some fault)

/-- The series behind all offers. -/
def offerAll (series : Series) (quantities : List Quantity) : Series :=
  quantities.foldl (fun series quantity => (series.offer quantity).1) series

theorem offerAll_concat (series : Series) (quantities : List Quantity) (quantity : Quantity) :
    series.offerAll (quantities ++ [quantity]) =
      ((series.offerAll quantities).offer quantity).1 := by
  rw [offerAll, List.foldl_append]
  rfl

theorem offer_of_value (series : Series) {quantity : Quantity} {value : ℚ}
    (isNumber : quantity.value? = some value) :
    series.offer quantity = (series.push (wholePart value), none) := by
  rw [offer, add, Quantity.toWhole_of_value isNumber]
  rfl

theorem exists_offer_refused (series : Series) {quantity : Quantity}
    (noNumber : quantity.value? = none) :
    ∃ fault, series.add quantity = .error fault ∧ series.offer quantity = (series, some fault) := by
  obtain ⟨fault, refused⟩ := Quantity.exists_toWhole_error noNumber
  have added : series.add quantity = .error fault := by
    rw [add, refused]
    rfl
  exact ⟨fault, added, by rw [offer, added]⟩

/-- One more offer keeps the figures those of the numbers among the offers. -/
theorem Summarizes.offer {series : Series} {quantities : List Quantity}
    (same : series.Summarizes (wholeParts quantities)) (quantity : Quantity) :
    (series.offer quantity).1.Summarizes (wholeParts (quantities ++ [quantity])) := by
  rw [wholeParts_concat]
  cases exactly : quantity.value? with
  | none =>
    obtain ⟨fault, -, refused⟩ := exists_offer_refused series exactly
    rw [refused, Option.map_none, Option.toList_none, List.append_nil]
    exact same
  | some value =>
    rw [offer_of_value series exactly]
    exact same.push (wholePart value)

theorem summarizes_offerAll (quantities : List Quantity) :
    (empty.offerAll quantities).Summarizes (wholeParts quantities) := by
  induction quantities using List.reverseRecOn with
  | nil => exact .empty
  | append_singleton quantities quantity inductionHypothesis =>
    rw [offerAll_concat]
    exact inductionHypothesis.offer quantity

/-- After any offers to a fresh series, whatever was refused among them, all its figures are those
of the numbers among the offers without their fractions; there are extremes unless all offers were
refused. The next offer is refused if it is no number, and then nothing changes; otherwise its
whole part is one more sample. -/
theorem offerAll_isExact (quantities : List Quantity) :
    let series := empty.offerAll quantities
    series.Summarizes (wholeParts quantities) ∧
    (series.least = none ↔ wholeParts quantities = []) ∧
    (series.greatest = none ↔ wholeParts quantities = []) ∧
    ∀ quantity : Quantity,
      (quantity.value? = none →
        (∃ fault, series.add quantity = .error fault ∧
          series.offer quantity = (series, some fault)) ∧
        empty.offerAll (quantities ++ [quantity]) = series) ∧
      ∀ value, quantity.value? = some value →
        ∃ next, series.add quantity = .ok next ∧ series.offer quantity = (next, none) ∧
          empty.offerAll (quantities ++ [quantity]) = next ∧
          next.Summarizes (wholeParts quantities ++ [wholePart value]) := by
  intro series
  have same : series.Summarizes (wholeParts quantities) := summarizes_offerAll quantities
  refine ⟨same, ?_, ?_, fun quantity => ⟨fun noNumber => ?_, fun value isNumber => ?_⟩⟩
  · rw [same.least, List.min?_eq_none_iff]
  · rw [same.greatest, List.max?_eq_none_iff]
  · obtain ⟨fault, added, refused⟩ := exists_offer_refused series noNumber
    refine ⟨⟨fault, added, refused⟩, ?_⟩
    rw [offerAll_concat, refused]
  · have taken := offer_of_value series isNumber
    refine ⟨series.push (wholePart value), ?_, taken, ?_, same.push (wholePart value)⟩
    · rw [add, Quantity.toWhole_of_value isNumber]
      rfl
    · rw [offerAll_concat, taken]

example : (empty.offerAll
    [.whole 5, .missing, .real (.ofRatio true 27 10), .real .undefined]).samples = [5, -2] := by
  decide +kernel

end Series

end ColdStart
