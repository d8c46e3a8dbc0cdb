/-
This file shows that a path is had back from its text. Steps have no slash and are neither
empty nor a step that stays in place, so the text falls apart into them again, and the
slashes in front of them tell where it begins. All paths that are made of texts, or of
other such paths, have steps of this kind.
-/

import ColdStart.Files.Path
import ColdStart.Proofs.Text.Cutting
import Mathlib.Data.List.Basic

namespace ColdStart

/-- A text is a step that leads somewhere. -/
def IsStep (step : String) : Prop := '/' ∉ step.toList ∧ step ≠ "" ∧ step ≠ "."

/-- The steps between the slashes of a text. -/
def stepsOf (text : List Char) : List String :=
  ((fieldsAt '/' text).map String.ofList).filter fun step => step != "" && step != "."

theorem stepsOf_slash (text : List Char) : stepsOf ('/' :: text) = stepsOf text := by
  rw [stepsOf, fieldsAt, if_pos rfl, List.map_cons, List.filter_cons_of_neg (by decide)]
  rfl

/-- Steps with slashes between them are found again. -/
theorem stepsOf_intercalate {steps : List String} (areSteps : ∀ step ∈ steps, IsStep step) :
    stepsOf ("/".intercalate steps).toList = steps := by
  cases steps with
  | nil => rfl
  | cons first rest =>
    have slash : "/".toList = ['/'] := rfl
    have pieces : ("/".intercalate (first :: rest)).toList.splitOn '/' =
        (first :: rest).map String.toList := by
      rw [String.toList_intercalate, slash]
      refine List.splitOn_intercalate '/' ?_ (by simp)
      exact List.forall_mem_map.mpr fun step member => (areSteps step member).1
    rw [stepsOf, fieldsAt_eq_splitOn, pieces, List.map_map, Function.comp_def]
    simp only [String.ofList_toList, List.map_id']
    refine List.filter_eq_self.mpr fun step member => ?_
    simpa using (areSteps step member).2

/-- Steps do not begin with a slash. -/
theorem head?_intercalate_ne {steps : List String} (areSteps : ∀ step ∈ steps, IsStep step) :
    ∀ first ∈ ("/".intercalate steps).toList.head?, first ≠ '/' := by
  cases steps with
  | nil => simp
  | cons step rest =>
    obtain ⟨noSlash, someStep, -⟩ := areSteps step List.mem_cons_self
    have begins : ∃ behind, ("/".intercalate (step :: rest)).toList = step.toList ++ behind := by
      cases rest with
      | nil => exact ⟨[], by rw [String.intercalate_singleton, List.append_nil]⟩
      | cons second others =>
        refine ⟨"/".toList ++ ("/".intercalate (second :: others)).toList, ?_⟩
        rw [String.intercalate_cons_cons, String.toList_append, String.toList_append,
          List.append_assoc]
    obtain ⟨behind, whole⟩ := begins
    rintro _ isFirst rfl
    rw [whole, List.head?_append_of_ne_nil _ (by simpa using someStep)] at isFirst
    exact noSlash (List.mem_of_mem_head? isFirst)

/-- The slashes in front of steps tell where a path begins. -/
theorem PathStart.ofChars_append (start : PathStart) {behind : List Char}
    (plain : ∀ first ∈ behind.head?, first ≠ '/') :
    PathStart.ofChars (start.text.toList ++ behind) = start := by
  cases behind with
  | nil => cases start <;> rfl
  | cons first rest =>
    have other : first ≠ '/' := plain first rfl
    cases start with
    | here => simp [PathStart.text, PathStart.ofChars, other]
    | root => simp [PathStart.text, PathStart.ofChars, other]
    | doubleRoot => simp [PathStart.text, PathStart.ofChars, other]

namespace Path

/-- All steps of a path lead somewhere. -/
def IsPlain (path : Path) : Prop := ∀ step ∈ path.steps, IsStep step

theorem isPlain_ofText (text : String) : (ofText text).IsPlain := by
  intro step member
  rw [ofText, List.mem_filter, List.mem_map] at member
  obtain ⟨⟨piece, isPiece, rfl⟩, leads⟩ := member
  refine ⟨?_, by simpa using leads⟩
  rw [String.toList_ofList]
  exact notMem_of_mem_fieldsAt isPiece

theorem IsPlain.join {path next : Path} (plain : path.IsPlain) (plainNext : next.IsPlain) :
    (path.join next).IsPlain := by
  rw [Path.join]
  split
  · exact fun step member => (List.mem_append.mp member).elim (plain step) (plainNext step)
  · exact plainNext

/-- A path is had back from its text. -/
theorem ofText_text {path : Path} (plain : path.IsPlain) : ofText path.text = path := by
  by_cases here : path = {}
  · rw [here]
    rfl
  · have text : path.text.toList =
        path.start.text.toList ++ ("/".intercalate path.steps).toList := by
      rw [Path.text, if_neg here, String.toList_append]
    have start : (ofText path.text).start = path.start := by
      rw [ofText, text]
      exact path.start.ofChars_append (head?_intercalate_ne plain)
    have steps : (ofText path.text).steps = path.steps := by
      change stepsOf path.text.toList = path.steps
      rw [text]
      cases path.start with
      | here => exact stepsOf_intercalate plain
      | root => exact (stepsOf_slash _).trans (stepsOf_intercalate plain)
      | doubleRoot =>
        exact (stepsOf_slash _).trans ((stepsOf_slash _).trans (stepsOf_intercalate plain))
    calc ofText path.text = ⟨path.start, path.steps⟩ := by rw [← start, ← steps]
      _ = path := rfl

end Path

end ColdStart
