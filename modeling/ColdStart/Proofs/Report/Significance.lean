/-
This file reads back what is said of a comparison. The report gives a verdict at the end
of a line and the page gives a label. Both tell whether there is a probability at all and
whether it is below the level, in words and marks that no number is written with.
-/

import ColdStart.Proofs.Number.Places
import ColdStart.Proofs.Report.Sections
import ColdStart.Report.Page

namespace ColdStart

namespace Comparison

/-! ### Verdicts -/

/-- There is a probability, and it is below the level. -/
def IsSignificant (comparison : Comparison) : Prop :=
  comparison.probability ≠ none ∧ comparison.significant = true

/-- The words for a comparison with a probability. -/
def words (comparison : Comparison) : String :=
  if comparison.significant then "SIGNIFICANT" else "not significant"

variable {comparison : Comparison} {probability level : Binary64}

theorem verdict_of_none (untested : comparison.probability = none) :
    comparison.verdict level = "p=n/a (too few samples or all tied)" := by
  rw [verdict, untested]

theorem verdict_of_some (tested : comparison.probability = some probability) :
    comparison.verdict level = "p=" ++ probability.fixedText 4 ++ " (" ++ comparison.words ++
      " at alpha=" ++ level.shortestText significanceLayout ++ ")" := by
  rw [verdict, tested, words]

/-- What is in none of the words of a verdict and in no number is not in the verdict. -/
theorem notMem_verdict_of_some (tested : comparison.probability = some probability) {mark : Char}
    (foreign : ¬ IsNumeralMark mark) (noWord : mark ∉ comparison.words.toList)
    (absent : ∀ part ∈ ["p=", " (", " at alpha=", ")"], mark ∉ part.toList) :
    mark ∉ (comparison.verdict level).toList := by
  have noProbability := (probability.isNumeralText_fixedText 4).notMem foreign
  have noLevel := (level.isNumeralText_shortestText significanceLayout).notMem foreign
  obtain ⟨noStart, noOpening, noMiddle, noEnd⟩ : mark ∉ "p=".toList ∧ mark ∉ " (".toList ∧
      mark ∉ " at alpha=".toList ∧ mark ∉ ")".toList := by
    simpa using absent
  rw [verdict_of_some tested]
  simp only [String.toList_append, List.mem_append, not_or]
  exact ⟨⟨⟨⟨⟨⟨noStart, noProbability⟩, noOpening⟩, noWord⟩, noMiddle⟩, noLevel⟩, noEnd⟩

theorem notMem_words {mark : Char} (absent : mark ∉ "SIGNIFICANT".toList)
    (otherAbsent : mark ∉ "not significant".toList) : mark ∉ comparison.words.toList := by
  rw [words]
  split
  · exact absent
  · exact otherAbsent

/-- A verdict has no comma and is one line. -/
theorem notMem_verdict {mark : Char} (isMark : mark = ',' ∨ mark = '\n') :
    mark ∉ (comparison.verdict level).toList := by
  cases tested : comparison.probability with
  | none =>
    rw [verdict_of_none tested]
    rcases isMark with rfl | rfl <;> decide
  | some probability =>
    rcases isMark with rfl | rfl <;>
      exact notMem_verdict_of_some tested (by decide) (notMem_words (by decide) (by decide))
        (by decide)

/-- The verdict says that there is no probability when there is none. -/
theorem untested_prefix_verdict_iff :
    "p=n/a".toList <+: (comparison.verdict level).toList ↔ comparison.probability = none := by
  cases tested : comparison.probability with
  | none =>
    rw [verdict_of_none tested]
    exact iff_of_true (by decide) rfl
  | some probability =>
    refine iff_of_false (fun starts => ?_) (by simp)
    have slash : '/' ∈ (comparison.verdict level).toList := starts.subset (by decide)
    exact notMem_verdict_of_some tested (by decide) (notMem_words (by decide) (by decide))
      (by decide) slash

/-- The verdict calls the difference significant when it is. -/
theorem significant_infix_verdict_iff :
    "SIGNIFICANT".toList <:+: (comparison.verdict level).toList ↔ comparison.IsSignificant := by
  have capital (inside : "SIGNIFICANT".toList <:+: (comparison.verdict level).toList) :
      'S' ∈ (comparison.verdict level).toList := inside.subset (by decide)
  cases tested : comparison.probability with
  | none =>
    refine iff_of_false (fun inside => ?_) fun significant => significant.1 tested
    have absent : 'S' ∉ (comparison.verdict level).toList := by
      rw [verdict_of_none tested]
      decide
    exact absent (capital inside)
  | some probability =>
    cases significant : comparison.significant with
    | false =>
      refine iff_of_false (fun inside => ?_) fun isSignificant => ?_
      · have noWord : 'S' ∉ comparison.words.toList := by
          rw [words, significant]
          decide
        exact notMem_verdict_of_some tested (by decide) noWord (by decide) (capital inside)
      · exact absurd (significant.symm.trans isSignificant.2) (by decide)
    | true =>
      refine iff_of_true ?_ ⟨by simp [tested], significant⟩
      have parts : comparison.verdict level = ("p=" ++ probability.fixedText 4 ++ " (") ++
          "SIGNIFICANT" ++ (" at alpha=" ++ level.shortestText significanceLayout ++ ")") := by
        rw [verdict_of_some tested, words, if_pos significant]
        simp only [String.append_assoc]
      rw [parts, String.toList_append, String.toList_append]
      exact List.infix_append _ _ _

/-! ### Labels -/

theorem label_of_none (untested : comparison.probability = none) : comparison.label = "n/a" := by
  rw [label, untested]

theorem label_of_some (tested : comparison.probability = some probability) :
    comparison.label = "p=" ++ probability.fixedText 3 ++
      (if comparison.significant then " ⚠️" else "") := by
  rw [label, tested]

/-- The label says that there is no probability when there is none. -/
theorem label_eq_untested_iff : comparison.label = "n/a" ↔ comparison.probability = none := by
  cases tested : comparison.probability with
  | none => exact iff_of_true (label_of_none tested) rfl
  | some probability =>
    refine iff_of_false (fun same => ?_) (by simp)
    have first := congrArg (fun text => text.toList.head?) same
    rw [label_of_some tested] at first
    simp at first

/-- The label has the mark when the difference is significant. -/
theorem mark_infix_label_iff :
    "⚠️".toList <:+: comparison.label.toList ↔ comparison.IsSignificant := by
  have sign (inside : "⚠️".toList <:+: comparison.label.toList) : '⚠' ∈ comparison.label.toList :=
    inside.subset (by decide)
  cases tested : comparison.probability with
  | none =>
    refine iff_of_false (fun inside => ?_) fun significant => significant.1 tested
    have absent : '⚠' ∉ comparison.label.toList := by
      rw [label_of_none tested]
      decide
    exact absent (sign inside)
  | some probability =>
    cases significant : comparison.significant with
    | false =>
      refine iff_of_false (fun inside => ?_) fun isSignificant => ?_
      · have absent : '⚠' ∉ comparison.label.toList := by
          have noNumber : '⚠' ∉ (probability.fixedText 3).toList :=
            (probability.isNumeralText_fixedText 3).notMem (by decide)
          rw [label_of_some tested, significant]
          simp [noNumber]
        exact absent (sign inside)
      · exact absurd (significant.symm.trans isSignificant.2) (by decide)
    | true =>
      refine iff_of_true ?_ ⟨by simp [tested], significant⟩
      have parts : comparison.label =
          ("p=" ++ probability.fixedText 3 ++ " ") ++ "⚠️" ++ "" := by
        have spaced : " ⚠️" = " " ++ "⚠️" := by decide
        rw [label_of_some tested, if_pos significant, spaced]
        simp only [String.append_assoc, String.append_empty]
      rw [parts, String.toList_append, String.toList_append]
      exact List.infix_append _ _ _

/-! ### Lines -/

/-- What stands in a line before the verdict. -/
def figures (comparison : Comparison) : String :=
  padRight 40 comparison.name ++ ": median " ++ comparison.median.fixedText 1 ++
    " ms vs baseline " ++ comparison.baselineMedian.fixedText 1 ++ " ms"

theorem line_eq (comparison : Comparison) (level : Binary64) :
    comparison.line level = comparison.figures ++ ", " ++ comparison.verdict level := by
  have comma : " ms, " = " ms" ++ ", " := by decide
  rw [line, figures, comma, ← String.append_assoc]

end Comparison

/-- What stands behind the last comma of a line. -/
def verdictOf (line : String) : List Char :=
  match splitLast? ", ".toList line.toList with
  | some (_, verdict) => verdict
  | none => []

/-- The verdict is found in the line of a comparison, whatever the name of the mode. -/
theorem verdictOf_line (comparison : Comparison) (level : Binary64) :
    verdictOf (comparison.line level) = (comparison.verdict level).toList := by
  have notBehind : ',' ∉ (comparison.verdict level).toList := comparison.notMem_verdict (.inl rfl)
  have notInBack : ',' ∉ [' '] := by decide
  have comma : ", ".toList = [',', ' '] := rfl
  have found : splitLast? [',', ' '] (comparison.figures.toList ++ [',', ' '] ++
      (comparison.verdict level).toList) =
        some (comparison.figures.toList, (comparison.verdict level).toList) :=
    splitLast?_of_mark notInBack notBehind
  rw [verdictOf, comparison.line_eq, String.toList_append, String.toList_append, comma, found]

theorem notMem_line {comparison : Comparison} (single : '\n' ∉ comparison.name.toList)
    (level : Binary64) : '\n' ∉ (comparison.line level).toList := by
  have median : '\n' ∉ (comparison.median.fixedText 1).toList :=
    (comparison.median.isNumeralText_fixedText 1).notMem (by decide)
  have baselineMedian : '\n' ∉ (comparison.baselineMedian.fixedText 1).toList :=
    (comparison.baselineMedian.isNumeralText_fixedText 1).notMem (by decide)
  have verdict : '\n' ∉ (comparison.verdict level).toList := comparison.notMem_verdict (.inr rfl)
  rw [comparison.line_eq, Comparison.figures, padRight]
  simp [single, median, baselineMedian, verdict]

/-! ### The comparisons of a report -/

variable {test : RankTest}

theorem name_of_compareTotals {baseline candidate : ModeStatistics} {level : Binary64}
    {comparison : Comparison}
    (given : compareTotals baseline candidate level test = .ok comparison) :
    comparison.name = candidate.mode.name := by
  obtain ⟨_, -, rest⟩ := (bind_eq_ok_iff _ _ _).mp given
  obtain ⟨_, -, rest⟩ := (bind_eq_ok_iff _ _ _).mp rest
  obtain ⟨_, -, rest⟩ := (bind_eq_ok_iff _ _ _).mp rest
  obtain ⟨_, -, rest⟩ := (bind_eq_ok_iff _ _ _).mp rest
  exact Except.ok.inj rest ▸ rfl

/-- A report has the lines of the comparisons of all modes but the first. -/
theorem significanceTable_of_renderReport {first : ModeStatistics} {others : List ModeStatistics}
    {level : Binary64} {report : String}
    (single : ∀ mode ∈ others, '\n' ∉ mode.mode.name.toList)
    (rendered : renderReport (first :: others) level test = .ok report) :
    List.Forall₂ (fun mode line => ∃ comparison,
        compareTotals first mode level test = .ok comparison ∧ line = comparison.line level)
      others (significanceTable report others.length) := by
  rw [renderReport_eq] at rendered
  obtain ⟨rows, -, rest⟩ := (bind_eq_ok_iff _ _ _).mp rendered
  obtain ⟨later, laterGiven, rest⟩ := (bind_eq_ok_iff _ _ _).mp rest
  cases others with
  | nil =>
    rw [List.length_nil, significanceTable, List.rtake_zero]
    exact .nil
  | cons second others =>
    obtain ⟨comparisons, compared, laterText⟩ := (bind_eq_ok_iff _ _ _).mp laterGiven
    cases laterText
    cases rest
    have each := (mapM_eq_ok_iff _ _ _).mp compared
    have singleLines : ∀ comparison ∈ comparisons, '\n' ∉ (comparison.line level).toList := by
      intro comparison isComparison
      obtain ⟨mode, isMode, given⟩ := exists_of_forall₂_of_mem each isComparison
      exact notMem_line (name_of_compareTotals given ▸ single mode isMode) level
    rw [each.length_eq, significanceTable_reportText singleLines, List.forall₂_map_right_iff]
    exact each.imp fun mode comparison given => ⟨comparison, given, rfl⟩

end ColdStart
