/-
This file says which numbers get through doubles. A whole number becomes a double
and a percentage can be formed exactly when what is rounded lies below the limit of
the range, and every time that is read from a document lies below it, because it
was a double itself.
-/

import ColdStart.Percentage
import ColdStart.Proofs.Document.Format
import ColdStart.Proofs.Number.Decimal
import ColdStart.Proofs.Number.Nearest
import Mathlib.Data.Rat.Floor

namespace ColdStart

/-! ### Results that may be past the range -/

/-- The faults of numbers that are too large for a double. -/
def NumberFault.IsOverflow (fault : NumberFault) : Prop :=
  fault = .wholeTooLarge ∨ fault = .quotientTooLarge

/-- A result is given if a condition holds; otherwise some number is too large for a double. -/
inductive GivenIf {Value : Type} (condition : Prop) : Except NumberFault Value → Prop where
  | given (holds : condition) (value : Value) : GivenIf condition (.ok value)
  | tooLarge (fails : ¬ condition) {fault : NumberFault} (overflow : fault.IsOverflow) :
      GivenIf condition (.error fault)

namespace GivenIf

variable {Item Value Next : Type} {condition other : Prop}

theorem congr {result : Except NumberFault Value} (here : GivenIf condition result)
    (same : condition ↔ other) : GivenIf other result := by
  cases here with
  | given holds value => exact .given (same.mp holds) value
  | tooLarge fails overflow => exact .tooLarge (mt same.mpr fails) overflow

theorem exists_ok {result : Except NumberFault Value} (here : GivenIf condition result)
    (holds : condition) : ∃ value, result = .ok value := by
  cases here with
  | given _ value => exact ⟨value, rfl⟩
  | tooLarge fails _ => exact absurd holds fails

/-- Two steps give a result if both do. -/
theorem bind {first : Except NumberFault Value} {next : Value → Except NumberFault Next}
    (here : GivenIf condition first) (later : ∀ value, GivenIf other (next value)) :
    GivenIf (condition ∧ other) (first >>= next) := by
  cases here with
  | given holds value => exact (later value).congr (and_iff_right holds).symm
  | tooLarge fails overflow => exact .tooLarge (fun both => fails both.1) overflow

theorem pure (value : Value) : GivenIf True (Pure.pure value : Except NumberFault Value) :=
  .given trivial value

/-- A step that always gives a result comes before another. -/
theorem follow {first : Except NumberFault Value} {next : Value → Except NumberFault Next}
    (here : GivenIf True first) (later : ∀ value, GivenIf other (next value)) :
    GivenIf other (first >>= next) :=
  (here.bind later).congr (iff_of_eq (true_and _))

/-- A step that always gives a result comes behind another. -/
theorem before {first : Except NumberFault Value} {next : Value → Except NumberFault Next}
    (here : GivenIf condition first) (later : ∀ value, GivenIf True (next value)) :
    GivenIf condition (first >>= next) :=
  (here.bind later).congr (iff_of_eq (and_true _))

theorem map {result : Except NumberFault Value} (here : GivenIf condition result)
    (change : Value → Next) : GivenIf condition (result.map change) := by
  cases here with
  | given holds value => exact .given holds (change value)
  | tooLarge fails overflow => exact .tooLarge fails overflow

/-- A traversal gives results if every step does. -/
theorem mapM {condition : Item → Prop} {step : Item → Except NumberFault Value}
    (items : List Item) (each : ∀ item ∈ items, GivenIf (condition item) (step item)) :
    GivenIf (∀ item ∈ items, condition item) (items.mapM step) := by
  induction items with
  | nil => exact .given (List.forall_mem_nil _) []
  | cons item rest inductionHypothesis =>
    obtain ⟨here, later⟩ := List.forall_mem_cons.mp each
    rw [List.mapM_cons, List.forall_mem_cons]
    exact here.bind fun _ => (inductionHypothesis later).before fun _ => .pure _

end GivenIf

/-! ### Whole numbers and quotients -/

/-- A whole number below the limit becomes the nearest double; any other is too large. -/
theorem wholeToBinary64_eq (value : Int) :
    wholeToBinary64 value =
      if value.natAbs < Binary64.limit then .ok (.ofInt value) else .error .wholeTooLarge := by
  rw [wholeToBinary64, Binary64.ofInt]
  by_cases fits : value.natAbs < Binary64.limit
  · obtain ⟨significand, exponent, nearest, -⟩ := Binary64.exists_ofRatio_eq one_pos
      (by rwa [Nat.mul_one]) (decide (value < 0))
    rw [nearest, if_pos fits]
  · rw [(Binary64.ofRatio_eq_infinite_iff one_pos _ _).mpr (by rwa [Nat.mul_one, ← not_lt]),
      if_neg fits]

/-- A whole number becomes a double if it is below the limit. -/
theorem givenIf_wholeToBinary64 (value : Int) :
    GivenIf (value.natAbs < Binary64.limit) (wholeToBinary64 value) := by
  rw [wholeToBinary64_eq]
  split
  · next fits => exact .given fits _
  · next tooLarge => exact .tooLarge tooLarge (.inl rfl)

/-! ### Percentages -/

/-- One half is added to a double as to a rational number, and the sum is rounded once. -/
theorem floor?_add_half {double : Binary64} {value : ℚ} (format : double.IsInFormat)
    (exactly : double.toRat? = some value) :
    (double.add .half).floor? = some ⌊Binary64.nearest (value + 1 / 2)⌋ := by
  cases double with
  | infinite negative => cases exactly
  | undefined => cases exactly
  | finite negative significand exponent =>
    obtain ⟨small, -, low⟩ := format
    have isHalf : Binary64.half = .finite false (2 ^ 52) (-53) := by decide +kernel
    have exactHalf : Binary64.scaled (2 ^ 52) (-53) = 1 / 2 := by
      rw [Binary64.scaled_eq]
      norm_num
    have magnitude := Binary64.scaled_add_one_le_limit small low
    have nonneg := scaled_nonneg significand exponent
    have below : |value + 1 / 2| < Binary64.limit := by
      cases negative with
      | false =>
        cases exactly
        rw [if_neg Bool.false_ne_true]
        exact abs_lt.mpr ⟨by linarith, by linarith⟩
      | true =>
        cases exactly
        rw [if_pos rfl]
        exact abs_lt.mpr ⟨by linarith, by linarith⟩
    have sum : (Binary64.finite negative significand exponent).add .half =
        if value + 1 / 2 = 0 then .zero (negative && false) else .ofRat (value + 1 / 2) := by
      rw [isHalf, Binary64.add, exactHalf, ← Option.some.inj exactly]
      rfl
    rw [sum, Binary64.floor?]
    split
    · next nothing =>
      have exactZero : (Binary64.zero (negative && false)).toRat? = some 0 := by
        rw [Bool.and_false, Binary64.zero, Binary64.toRat?, scaled_zero]
        rfl
      rw [exactZero, nothing, Binary64.nearest_zero]
      rfl
    · rw [Binary64.toRat?_ofRat below]
      rfl

/-- The share of a baseline is below the limit. -/
def HasShare (number baseline : Int) : Prop :=
  (number * percentFactor).natAbs < Binary64.limit * (max baseline 1).toNat

instance : DecidableRel HasShare := fun _ _ => inferInstanceAs (Decidable (_ < _))

/-- A number in percent of a baseline is its share, rounded to a double, and one half more, rounded
to a double again, without the fraction. A share past the limit has none. -/
theorem percentage_eq (number baseline : Int) :
    percentage number baseline =
      if HasShare number baseline then
        .ok ⌊Binary64.nearest (Binary64.nearest
          ((number * percentFactor : Int) / (max baseline 1).toNat) + 1 / 2)⌋
      else .error .quotientTooLarge := by
  have positive : 0 < (max baseline 1).toNat := by omega
  rw [percentage, quotientToBinary64]
  by_cases fits : HasShare number baseline
  · have format := Binary64.isInFormat_ofRatio positive (decide (number * percentFactor < 0))
      (number * percentFactor).natAbs
    have exactly := Binary64.toRat?_ofRatio positive fits rfl
    obtain ⟨significand, exponent, finite, -⟩ :=
      Binary64.exists_ofRatio_eq positive fits (decide (number * percentFactor < 0))
    rw [finite] at format exactly ⊢
    simp only [bind, Except.bind, floor?_add_half format exactly, if_pos fits]
  · rw [(Binary64.ofRatio_eq_infinite_iff positive _ _).mpr (not_lt.mp fits), if_neg fits]
    rfl

/-- A number can be put in percent of a baseline if its share is below the limit. -/
theorem givenIf_percentage (number baseline : Int) :
    GivenIf (HasShare number baseline) (percentage number baseline) := by
  rw [percentage_eq]
  split
  · next fits => exact .given fits _
  · next tooLarge => exact .tooLarge tooLarge (.inr rfl)

/-! ### Times that were read -/

theorem isInFormat_ofDecimal (negative : Bool) (digits : Nat) (exponent : Int) :
    (Binary64.ofDecimal negative digits exponent).IsInFormat := by
  have zero : (Binary64.zero negative).IsInFormat :=
    Binary64.isInFormat_ofRatio one_pos negative 0
  rw [Binary64.ofDecimal]
  split_ifs
  · exact zero
  · trivial
  · exact Binary64.isInFormat_ofRatio one_pos _ _
  · exact zero
  · exact Binary64.isInFormat_ofRatio (Nat.pow_pos (by decide)) _ _

/-- Whatever numeral is read, it is read as a double. -/
theorem isInFormat_readBinary64? {text : List Char} {value : Binary64}
    (read : readBinary64? text = some value) : value.IsInFormat := by
  unfold readBinary64? readMagnitude? at read
  simp only at read
  split_ifs at read
  · cases read
    trivial
  · cases read
    trivial
  · obtain ⟨exponent, -, rfl⟩ := Option.map_eq_some_iff.mp read
    exact isInFormat_ofDecimal _ _ _

/-- The whole part of a double is below the limit. -/
theorem natAbs_lt_limit_of_toWhole {value : Binary64} (format : value.IsInFormat) {whole : Int}
    (taken : value.toWhole = .ok whole) : whole.natAbs < Binary64.limit := by
  cases value with
  | infinite negative => cases taken
  | undefined => cases taken
  | finite negative significand exponent =>
    obtain ⟨small, -, low⟩ := format
    have magnitude := Binary64.scaled_add_one_le_limit small low
    have nonneg := scaled_nonneg significand exponent
    have least : 0 ≤ (Binary64.scaled significand exponent).floor :=
      Rat.le_floor_iff.mpr (by exact_mod_cast nonneg)
    have atMost := Rat.floor_le (Binary64.scaled significand exponent)
    have below : (Binary64.scaled significand exponent).floor < Binary64.limit := by
      have strict : (((Binary64.scaled significand exponent).floor : Int) : ℚ) <
          Binary64.limit := by linarith
      exact_mod_cast strict
    have whole : (Binary64.scaled significand exponent).floor.natAbs < Binary64.limit := by
      omega
    cases negative with
    | false =>
      cases taken
      exact whole
    | true =>
      cases taken
      exact (Int.natAbs_neg _).trans_lt whole

/-- Every time that is read is below the limit. -/
theorem natAbs_lt_limit_of_saysTime {text : Option String} {time : Int}
    (said : SaysTime text time) : time.natAbs < Binary64.limit := by
  obtain ⟨double, read, truncated⟩ := said
  exact natAbs_lt_limit_of_toWhole (isInFormat_readBinary64? read)
    ((toWhole_eq_ok_iff double time).mpr truncated)

end ColdStart
