/-
This file compares looking one mode up with selecting. A selection of a single fragment
reads the pattern that the lookup reads, so both are refused with one fault, and of the
modes that the selection leaves the lookup gives the first. A number that is too large
for a pattern is no exception: both are refused for it alike, but not with a fault that
says how the pattern is written. All this holds for any engine that reads the patterns.
-/

import ColdStart.Proofs.Selection
import ColdStart.Workspace

namespace ColdStart

/-! ### Faults -/

/-- The fault lies in how a selection is written: it is reported, and not for want of a match. -/
def SelectionFault.IsMisspelling (fault : SelectionFault) : Prop :=
  (Fault.selection fault).isReported = true ∧ ∀ pattern, fault ≠ .noMatch pattern

/-- A text is no pattern because of a repetition or a code point past what can be held. -/
def PatternEngine.HasTooLargeNumber (engine : PatternEngine) (text : String) : Prop :=
  engine.parse text = .error .repetitionTooLarge ∨ engine.parse text = .error .codeTooLarge

instance (engine : PatternEngine) (text : String) : Decidable (engine.HasTooLargeNumber text) :=
  match parsed : engine.parse text with
  | .ok _ => .isFalse (by simp [PatternEngine.HasTooLargeNumber, parsed])
  | .error fault => decidable_of_iff (fault = .repetitionTooLarge ∨ fault = .codeTooLarge) <| by
      rw [PatternEngine.HasTooLargeNumber, parsed, Except.error.injEq, Except.error.injEq]

theorem not_isMisspelling_noMatch (pattern : String) :
    ¬ (SelectionFault.noMatch pattern).IsMisspelling :=
  fun misspelling => misspelling.2 pattern rfl

theorem isMisspelling_badPattern_iff (text : String) (fault : PatternFault) :
    (SelectionFault.badPattern text fault).IsMisspelling ↔
      fault ≠ .repetitionTooLarge ∧ fault ≠ .codeTooLarge := by
  have noMatch : ∀ pattern, SelectionFault.badPattern text fault ≠ .noMatch pattern := by simp
  rw [SelectionFault.IsMisspelling, and_iff_left noMatch]
  cases fault <;> simp [Fault.isReported]

variable {engine : PatternEngine}

theorem readPattern_eq_error_iff (text : String) (fault : SelectionFault) :
    readPattern engine text = .error fault ↔
      ∃ cause, engine.parse text = .error cause ∧ fault = .badPattern text cause := by
  rw [readPattern]
  cases engine.parse text with
  | ok pattern => simp
  | error cause => simp [eq_comm]

/-- A text is refused as a pattern for how it is written, unless it has a number too large. -/
theorem isMisspelling_of_readPattern {text : String} {fault : SelectionFault}
    (refused : readPattern engine text = .error fault) :
    fault.IsMisspelling ↔ ¬ engine.HasTooLargeNumber text := by
  obtain ⟨cause, parsed, rfl⟩ := (readPattern_eq_error_iff text fault).mp refused
  rw [isMisspelling_badPattern_iff, PatternEngine.HasTooLargeNumber, parsed, not_or,
    Except.error.injEq, Except.error.injEq]

/-! ### Selections of one fragment -/

theorem selectionFragments_of_isWholeFragment {fragment : String}
    (whole : IsWholeFragment fragment) : selectionFragments fragment = [fragment] := by
  have alone : selectionFragments (",".intercalate [fragment]) = [fragment] :=
    selectionFragments_intercalate (List.cons_ne_nil _ _) (by simpa using whole)
  rwa [String.intercalate_singleton] at alone

namespace Matrix

variable (matrix : Matrix) {fragment : String}

/-- A selection of one fragment is refused if that is no pattern, and keeps the modes in whose
name it occurs. -/
theorem select_of_isWholeFragment (whole : IsWholeFragment fragment) :
    matrix.select fragment engine = (readPattern engine fragment).map fun pattern =>
      ⟨matrix.modes.filter fun mode => engine.occursIn pattern mode.name⟩ := by
  rw [select, readSelection, selectionFragments_of_isWholeFragment whole]
  cases read : readPattern engine fragment with
  | error fault => simp [Except.map, read]
  | ok pattern => simp [Except.map, read, selects]

/-- The first mode, if there is any. -/
def first (matrix : Matrix) (sought : String) : Except SelectionFault Mode :=
  match matrix.modes.head? with
  | some mode => .ok mode
  | none => .error (.noMatch sought)

theorem first_eq_ok_iff (sought : String) (mode : Mode) :
    matrix.first sought = .ok mode ↔ matrix.modes.head? = some mode := by
  rw [first]
  cases matrix.modes.head? <;> simp

theorem first_eq_error_iff (sought : String) (fault : SelectionFault) :
    matrix.first sought = .error fault ↔ matrix.modes = [] ∧ fault = .noMatch sought := by
  rw [first, ← List.head?_eq_none_iff]
  cases matrix.modes.head? <;> simp [eq_comm]

/-- Looking up is selecting and taking the first mode that is left. -/
theorem find_eq_bind (whole : IsWholeFragment fragment) :
    matrix.find fragment engine =
      matrix.select fragment engine >>= fun left => left.first fragment := by
  rw [matrix.select_of_isWholeFragment whole, find]
  cases readPattern engine fragment with
  | error fault => rfl
  | ok pattern =>
    have found : matrix.modes.find? (fun mode => engine.occursIn pattern mode.name) =
        (matrix.modes.filter fun mode => engine.occursIn pattern mode.name).head? :=
      List.head?_filter.symm
    simp only [found]
    rfl

theorem find_of_readPattern {text : String} {fault : SelectionFault}
    (refused : readPattern engine text = .error fault) :
    matrix.find text engine = .error fault := by
  rw [find, refused]

/-- What a lookup gives is one of the modes. -/
theorem mem_of_find {text : String} {mode : Mode}
    (found : matrix.find text engine = .ok mode) : mode ∈ matrix.modes := by
  rw [find] at found
  split at found
  · cases found
  · split at found
    · next first =>
      cases found
      exact List.mem_of_find?_eq_some first
    · cases found

theorem select_eq_error_iff (whole : IsWholeFragment fragment) (fault : SelectionFault) :
    matrix.select fragment engine = .error fault ↔ readPattern engine fragment = .error fault := by
  rw [matrix.select_of_isWholeFragment whole]
  cases readPattern engine fragment with
  | error other => simp [Except.map]
  | ok pattern => simp [Except.map]

theorem ne_noMatch_of_select (whole : IsWholeFragment fragment) {fault : SelectionFault}
    (refused : matrix.select fragment engine = .error fault) (sought : String) :
    fault ≠ .noMatch sought := by
  rw [matrix.select_eq_error_iff whole, readPattern_eq_error_iff] at refused
  obtain ⟨cause, -, rfl⟩ := refused
  simp

/-- The lookup is refused like the selection, or for want of a mode that is left. -/
theorem find_eq_error_iff (whole : IsWholeFragment fragment) (fault : SelectionFault) :
    matrix.find fragment engine = .error fault ↔ matrix.select fragment engine = .error fault ∨
      ∃ left, matrix.select fragment engine = .ok left ∧ left.modes = [] ∧
        fault = .noMatch fragment := by
  rw [matrix.find_eq_bind whole, bind_eq_error_iff]
  simp only [first_eq_error_iff]

/-- Looking up by a text agrees with selecting by it, as an engine reads it. -/
structure AgreesOn (engine : PatternEngine) (matrix : Matrix) (text : String) : Prop where
  /-- The lookup gives the first of the modes that the selection leaves. -/
  found : ∀ mode, matrix.find text engine = .ok mode ↔
    ∃ left, matrix.select text engine = .ok left ∧ left.modes.head? = some mode
  /-- It has no match exactly if the selection leaves nothing. -/
  noMatch : matrix.find text engine = .error (.noMatch text) ↔
    ∃ left, matrix.select text engine = .ok left ∧ left.modes = []
  /-- Otherwise both are refused with one fault, and so with one message. -/
  refused : ∀ fault, matrix.find text engine = .error fault ∧ fault ≠ .noMatch text ↔
    matrix.select text engine = .error fault
  /-- If no number is too large, the selection is refused exactly when the lookup is refused for
  how the text is written. -/
  misspelled : ¬ engine.HasTooLargeNumber text → ∀ fault,
    matrix.find text engine = .error fault ∧ fault.IsMisspelling ↔
      matrix.select text engine = .error fault

/-- Looking one mode up agrees with selecting, whatever the modes are and whatever engine reads the
patterns, by every text that is one fragment. -/
theorem find_agreesWith_select (engine : PatternEngine) (whole : IsWholeFragment fragment) :
    matrix.AgreesOn engine fragment := by
  refine ⟨fun mode => ?_, ?_, fun fault => ?_, fun small fault => ?_⟩
  · rw [matrix.find_eq_bind whole, bind_eq_ok_iff]
    simp only [first_eq_ok_iff]
  · rw [matrix.find_eq_error_iff whole]
    constructor
    · rintro (unread | ⟨left, selected, empty, -⟩)
      · exact absurd rfl (matrix.ne_noMatch_of_select whole unread fragment)
      · exact ⟨left, selected, empty⟩
    · rintro ⟨left, selected, empty⟩
      exact .inr ⟨left, selected, empty, rfl⟩
  · rw [matrix.find_eq_error_iff whole]
    constructor
    · rintro ⟨unread | ⟨left, -, -, noMatch⟩, other⟩
      · exact unread
      · exact absurd noMatch other
    · exact fun unread => ⟨.inl unread, matrix.ne_noMatch_of_select whole unread fragment⟩
  · rw [matrix.find_eq_error_iff whole]
    constructor
    · rintro ⟨unread | ⟨left, -, -, rfl⟩, misspelling⟩
      · exact unread
      · exact absurd misspelling (not_isMisspelling_noMatch fragment)
    · intro unread
      have unparsed := (matrix.select_eq_error_iff whole fault).mp unread
      exact ⟨.inl unread, (isMisspelling_of_readPattern unparsed).mpr small⟩

theorem find_agreesWith_select_twoPlatforms :
    IsWholeFragment "^(r2r|jit)-platform" ∧
      ¬ PatternEngine.plain.HasTooLargeNumber "^(r2r|jit)-platform" ∧
      (Matrix.create none true).AgreesOn .plain "^(r2r|jit)-platform" := by
  have whole : IsWholeFragment "^(r2r|jit)-platform" := by decide
  exact ⟨whole, by decide +kernel, (Matrix.create none true).find_agreesWith_select .plain whole⟩

/-- A repetition of which the number is the first that is too large. -/
def endlessRepetition : String := "a\x7b4294967295\x7d"

/-- A number too large is refused by both, but not for how the text is written. -/
theorem find_endlessRepetition :
    let matrix := Matrix.create none false
    IsWholeFragment endlessRepetition ∧
      ¬ ((∃ fault, matrix.find endlessRepetition = .error fault ∧ fault.IsMisspelling) ↔
        ∃ fault, matrix.select endlessRepetition = .error fault) := by
  intro matrix
  have whole : IsWholeFragment endlessRepetition := by decide
  have tooLarge : PatternEngine.plain.HasTooLargeNumber endlessRepetition := by decide +kernel
  obtain ⟨fault, unread⟩ : ∃ fault, readPattern .plain endlessRepetition = .error fault := by
    rcases tooLarge with parsed | parsed
    · exact ⟨_, (readPattern_eq_error_iff _ _).mpr ⟨_, parsed, rfl⟩⟩
    · exact ⟨_, (readPattern_eq_error_iff _ _).mpr ⟨_, parsed, rfl⟩⟩
  refine ⟨whole, fun same => ?_⟩
  obtain ⟨other, found, misspelling⟩ :=
    same.mpr ⟨fault, (matrix.select_eq_error_iff whole fault).mpr unread⟩
  have both := (matrix.find_of_readPattern unread).symm.trans found
  obtain rfl : fault = other := Except.error.inj both
  exact (isMisspelling_of_readPattern unread).mp misspelling tooLarge

end Matrix

end ColdStart
