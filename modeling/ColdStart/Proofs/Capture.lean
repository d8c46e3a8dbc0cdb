/-
This file shows that what is kept of an output is settled by the nearest mark
before each line. Cutting an output goes over it once and knows only in which
section it is; here each line is looked at by itself, with everything that stands
before it. Where marks are repeated, left out or in the wrong order, both agree.
-/

import ColdStart.Capture
import Mathlib.Data.List.Infix

namespace ColdStart

/-! ### Marks -/

/-- A line that is the start mark or the end mark. -/
def isMark (line : String) : Bool := line = fragmentStart || line = fragmentEnd

/-- The nearest mark, looking back over the lines before a place. -/
def nearestMark? (before : List String) : Option String := before.reverse.find? isMark

/-- A line belongs to a fragment: it is no mark, and the nearest mark before it is a start. -/
def belongsToFragment (before : List String) (line : String) : Bool :=
  !isMark line && nearestMark? before = some fragmentStart

/-- A line may name a failure: the nearest mark before it is an end, and some start stands before
it. -/
def belongsToFailures (before : List String) : Bool :=
  nearestMark? before = some fragmentEnd && before.contains fragmentStart

theorem nearestMark?_concat (before : List String) (line : String) :
    nearestMark? (before ++ [line]) = if isMark line then some line else nearestMark? before := by
  rw [nearestMark?, List.reverse_append, List.reverse_singleton, List.singleton_append,
    List.find?_cons]
  cases isMark line <;> rfl

/-- Behind a start mark there is a nearest mark. -/
theorem nearestMark?_of_mem {before : List String} (started : fragmentStart ∈ before) :
    nearestMark? before = some fragmentStart ∨ nearestMark? before = some fragmentEnd := by
  cases nearest : nearestMark? before with
  | none =>
    have unmarked := List.find?_eq_none.mp nearest fragmentStart (List.mem_reverse.mpr started)
    simp [isMark] at unmarked
  | some mark =>
    have marked := List.find?_some nearest
    simpa [isMark] using marked

theorem mem_of_nearestMark? {before : List String} {mark : String}
    (nearest : nearestMark? before = some mark) : mark ∈ before :=
  List.mem_reverse.mp (List.mem_of_find?_eq_some nearest)

/-! ### Sections -/

/-- The section behind some lines, as their marks settle it. -/
def sectionBehind (before : List String) : Section :=
  if nearestMark? before = some fragmentStart then .inside
  else if belongsToFailures before then .after
  else .before

theorem sectionBehind_eq_inside (before : List String) :
    sectionBehind before = .inside ↔ nearestMark? before = some fragmentStart := by
  rw [sectionBehind]
  split
  · next started => simp [started]
  · next notStarted => split <;> simp [notStarted]

theorem sectionBehind_eq_after (before : List String) :
    sectionBehind before = .after ↔ belongsToFailures before = true := by
  rw [sectionBehind]
  split
  · next started =>
    have different : ¬ fragmentStart = fragmentEnd := by decide
    simp [belongsToFailures, started, different]
  · split
    · next failing => simp [failing]
    · next notFailing => simp [notFailing]

/-- Without a start there is only what stands before one. -/
theorem sectionBehind_eq_before (before : List String) :
    sectionBehind before = .before ↔ fragmentStart ∉ before := by
  constructor
  · intro isBefore started
    rcases nearestMark?_of_mem started with nearest | nearest
    · rw [(sectionBehind_eq_inside before).mpr nearest] at isBefore
      cases isBefore
    · have failing : belongsToFailures before = true := by
        simp [belongsToFailures, nearest, started]
      rw [(sectionBehind_eq_after before).mpr failing] at isBefore
      cases isBefore
  · intro notStarted
    have notInside : ¬ nearestMark? before = some fragmentStart := fun nearest =>
      notStarted (mem_of_nearestMark? nearest)
    have notAfter : belongsToFailures before = false := by
      simp [belongsToFailures, notStarted]
    rw [sectionBehind, if_neg notInside, notAfter]
    rfl

/-- A start begins a fragment from anywhere, an end ends one, and no other line changes the
section. -/
theorem sectionBehind_concat (before : List String) (line : String) :
    sectionBehind (before ++ [line]) =
      if line = fragmentStart then .inside
      else if line = fragmentEnd ∧ sectionBehind before = .inside then .after
      else sectionBehind before := by
  split
  · next start =>
    rw [sectionBehind_eq_inside, nearestMark?_concat, if_pos (by simp [isMark, start]), start]
  · next notStart =>
    have sameStarts : fragmentStart ∈ before ++ [line] ↔ fragmentStart ∈ before := by
      simp [Ne.symm notStart]
    by_cases finish : line = fragmentEnd
    · have nearest : nearestMark? (before ++ [line]) = some fragmentEnd := by
        rw [nearestMark?_concat, if_pos (by simp [isMark, finish]), finish]
      have failing : belongsToFailures (before ++ [line]) = true ↔ fragmentStart ∈ before := by
        rw [belongsToFailures, nearest, ← sameStarts]
        simp
      cases place : sectionBehind before with
      | before =>
        rw [if_neg (by simp), sectionBehind_eq_before, sameStarts]
        exact (sectionBehind_eq_before before).mp place
      | inside =>
        rw [if_pos ⟨finish, rfl⟩, sectionBehind_eq_after, failing]
        exact mem_of_nearestMark? ((sectionBehind_eq_inside before).mp place)
      | after =>
        rw [if_neg (by simp), sectionBehind_eq_after, failing]
        have failingBefore := (sectionBehind_eq_after before).mp place
        simp only [belongsToFailures, Bool.and_eq_true, List.contains_iff_mem] at failingBefore
        exact failingBefore.2
    · have nearest : nearestMark? (before ++ [line]) = nearestMark? before := by
        rw [nearestMark?_concat, if_neg (by simp [isMark, notStart, finish])]
      rw [if_neg fun both => finish both.1, sectionBehind, sectionBehind, belongsToFailures,
        belongsToFailures, nearest]
      simp [Ne.symm notStart]

/-! ### Captures -/

/-- The lines of an output, each with all lines before it. -/
def linesBehind (lines : List String) : List (List String × String) := lines.inits.zip lines

/-- A mark names no failure. -/
theorem failureIdentifier?_mark {line : String} (mark : line = fragmentStart ∨ line = fragmentEnd) :
    failureIdentifier? line = none := by
  rcases mark with rfl | rfl <;> decide +kernel

/-- What a line adds to what is kept behind it. -/
theorem captureFrom_cons (collectFailures : Bool) (before rest : List String) (line : String) :
    captureFrom collectFailures (sectionBehind before) (line :: rest) =
      let later := captureFrom collectFailures (sectionBehind (before ++ [line])) rest
      { fragment := if belongsToFragment before line then line :: later.fragment
          else later.fragment
        failures := if collectFailures && belongsToFailures before then
            (failureIdentifier? line).toList ++ later.failures
          else later.failures } := by
  have fragment : belongsToFragment before line =
      (!isMark line && decide (sectionBehind before = .inside)) := by
    simp [belongsToFragment, sectionBehind_eq_inside]
  have failures : belongsToFailures before = decide (sectionBehind before = .after) := by
    simp [sectionBehind_eq_after]
  rw [sectionBehind_concat, fragment, failures, captureFrom.eq_def]
  by_cases start : line = fragmentStart
  · subst start
    simp [isMark, failureIdentifier?_mark]
  · cases sectionBehind before with
    | before => simp [start]
    | inside =>
      by_cases finish : line = fragmentEnd
      · subst finish
        simp [isMark, start]
      · simp [isMark, start, finish, Capture.consLine]
    | after =>
      cases collectFailures <;> cases identifier : failureIdentifier? line <;>
        simp [start, identifier, Capture.consFailure?]

/-- What is kept from a place on is kept line by line. -/
theorem captureFrom_eq (collectFailures : Bool) (before rest : List String) :
    captureFrom collectFailures (sectionBehind before) rest =
      let placed := (rest.inits.map (before ++ ·)).zip rest
      { fragment := (placed.filter fun (front, line) => belongsToFragment front line).map Prod.snd
        failures := if collectFailures then
            (placed.filter fun (front, _) => belongsToFailures front).filterMap fun (_, line) =>
              failureIdentifier? line
          else [] } := by
  induction rest generalizing before with
  | nil => cases collectFailures <;> simp [captureFrom]
  | cons line rest inductionHypothesis =>
    have placed : ((line :: rest).inits.map (before ++ ·)).zip (line :: rest) =
        (before, line) :: (rest.inits.map ((before ++ [line]) ++ ·)).zip rest := by
      simp [Function.comp_def]
    rw [captureFrom_cons, inductionHypothesis, placed]
    simp only [List.filter_cons]
    cases collectFailures <;> cases belongsToFragment before line <;>
      cases belongsToFailures before <;> cases identifier : failureIdentifier? line <;>
      simp [identifier]

/-- What is kept of an output is settled line by line, each by the nearest mark before it. The
fragment has, in order, the lines that are no marks and stand behind a start; whether failures are
collected does not matter to it. The failures are those that are named, in order, in the lines that
stand behind an end when there was a start before. -/
theorem ofLines_eq_by_nearest_mark (lines : List String) (collectFailures : Bool) :
    (Capture.ofLines lines collectFailures).fragment =
        ((linesBehind lines).filter fun (before, line) =>
          belongsToFragment before line).map Prod.snd ∧
      (Capture.ofLines lines collectFailures).failures =
        if collectFailures then
          ((linesBehind lines).filter fun (before, _) =>
            belongsToFailures before).filterMap fun (_, line) => failureIdentifier? line
        else [] := by
  have whole := captureFrom_eq collectFailures [] lines
  have fromNothing : sectionBehind [] = .before := rfl
  have placed : (lines.inits.map ([] ++ ·)).zip lines = linesBehind lines := by
    simp [linesBehind]
  rw [fromNothing, placed] at whole
  exact ⟨congrArg Capture.fragment whole, congrArg Capture.failures whole⟩

/-- A second start is no line of the fragment, and a failure in front of it is not kept. -/
example : Capture.ofLines
    ["LMXLMXLMX", "<R2RResolutionFailed>A</R2RResolutionFailed>", "XMLXMLXML", "1", "XMLXMLXML",
      "2", "LMXLMXLMX", "LMXLMXLMX", "<R2RResolutionFailed>B</R2RResolutionFailed>"] true =
    ⟨["1", "2"], ["B"]⟩ := by
  decide +kernel

end ColdStart
