/-
This file takes a report apart again. It is made of sections, and the summary and
the comparisons are found in its text without knowing what the details between them
hold: the rows of the summary end at the first empty line, and the comparisons are the
last lines of the text.
-/

import ColdStart.Proofs.Text.Cutting
import ColdStart.Proofs.Traversal
import ColdStart.Report.Summary
import Mathlib.Data.List.DropRight

namespace ColdStart

/-! ### Sections -/

/-- The section of a report that compares all modes with the first, if there is more than one. -/
def significanceSection (modes : List ModeStatistics) (level : Binary64) (test : RankTest) :
    Except NumberFault (List String) :=
  match modes with
  | baseline :: second :: others => do
    let comparisons ← (second :: others).mapM fun mode => compareTotals baseline mode level test
    return [joinLines (significanceLines comparisons level) ++ "\n"]
  | _ => .ok []

/-- A report of rows, of the statistics of all modes, and of what stands behind them. -/
def reportText (rows details later : List String) : String :=
  joinLines ([joinLines (summaryLines rows) ++ "\n",
    joinLines (underlined "Details" ++ details) ++ "\n"] ++ later)

theorem renderReport_eq (modes : List ModeStatistics) (level : Binary64) (test : RankTest) :
    renderReport modes level test = do
      let rows ← summaryRows modes
      let later ← significanceSection modes level test
      return reportText rows (modes.flatMap detailLines) later := by
  rw [renderReport, reportSections]
  cases summaryRows modes with
  | error fault => rfl
  | ok rows =>
    match modes with
    | [] => rfl
    | [_] => rfl
    | baseline :: second :: others =>
      simp only [significanceSection]
      cases (second :: others).mapM fun mode => compareTotals baseline mode level test <;> rfl

/-! ### The summary in a text -/

/-- The rows of the summary of a report: the lines behind its headings, up to the first empty
one. -/
def summaryTable (report : String) : List String :=
  ((textLines report).drop (summaryLines []).length).takeWhile (· ≠ "")

/-- A row can stand in a table: it is one line, and not an empty one. -/
structure IsRow (row : String) : Prop where
  nonempty : row ≠ ""
  single : '\n' ∉ row.toList

theorem notMem_of_mem_underlined {title line : String} (single : '\n' ∉ title.toList)
    (member : line ∈ underlined title) : '\n' ∉ line.toList := by
  rcases List.mem_pair.mp member with rfl | rfl
  · exact single
  · rw [String.toList_ofList]
    exact fun inside => absurd (List.eq_of_mem_replicate inside) (by decide)

/-- The summary of a report is followed by an empty line. -/
theorem textLines_reportText {rows : List String} (areRows : ∀ row ∈ rows, IsRow row)
    (details later : List String) :
    ∃ rest, textLines (reportText rows details later) = summaryLines rows ++ "" :: rest := by
  have single : ∀ line ∈ summaryLines rows, '\n' ∉ line.toList := by
    intro line member
    rcases List.mem_append.mp member with heading | isRow
    · rcases List.mem_append.mp heading with title | header
      · exact notMem_of_mem_underlined (by decide) title
      · exact notMem_of_mem_underlined (by decide) header
    · exact (areRows line isRow).single
  rw [reportText, joinLines, List.cons_append, List.singleton_append, String.intercalate_cons_cons,
    String.append_assoc, textLines_joinLines_append (by simp [summaryLines, underlined]) single,
    textLines_newline_append]
  exact ⟨_, rfl⟩

/-- The rows of the summary are found in the text of a report. -/
theorem summaryTable_reportText {rows : List String} (areRows : ∀ row ∈ rows, IsRow row)
    (details later : List String) : summaryTable (reportText rows details later) = rows := by
  obtain ⟨rest, lines⟩ := textLines_reportText areRows details later
  have headings : summaryLines rows = summaryLines [] ++ rows := by
    rw [summaryLines, summaryLines, List.append_nil]
  rw [summaryTable, lines, headings, List.append_assoc, List.drop_left,
    List.takeWhile_append_of_pos fun row member => decide_eq_true (areRows row member).nonempty]
  simp

/-! ### The comparisons in a text -/

/-- The lines at the end of a report that compare so many modes with the first. -/
def significanceTable (report : String) (modes : Nat) : List String :=
  ((textLines report).rdrop 2).rtake modes

/-- The comparisons are found in the text of a report, each line for itself. -/
theorem significanceTable_reportText {comparisons : List Comparison} {level : Binary64}
    (single : ∀ comparison ∈ comparisons, '\n' ∉ (comparison.line level).toList)
    (rows details : List String) :
    significanceTable (reportText rows details
        [joinLines (significanceLines comparisons level) ++ "\n"]) comparisons.length =
      comparisons.map (Comparison.line level) := by
  have lines : ∀ line ∈ significanceLines comparisons level, '\n' ∉ line.toList := by
    intro line member
    rcases List.mem_append.mp member with before | isEmpty
    · rcases List.mem_append.mp before with title | isLine
      · exact notMem_of_mem_underlined (by decide) title
      · obtain ⟨comparison, isComparison, rfl⟩ := List.mem_map.mp isLine
        exact single comparison isComparison
    · rw [List.mem_singleton.mp isEmpty]
      exact List.not_mem_nil
  have lastLines : textLines (joinLines (significanceLines comparisons level) ++ "\n") =
      significanceLines comparisons level ++ [""] := by
    rw [← String.append_empty (s := joinLines (significanceLines comparisons level) ++ "\n"),
      textLines_joinLines_append (by simp [significanceLines, underlined]) lines]
    rfl
  rw [significanceTable, reportText, textLines_joinLines_concat (List.cons_ne_nil _ _), lastLines,
    significanceLines, ← List.append_assoc, ← List.append_assoc, ← List.append_assoc,
    List.rdrop_concat_succ, List.rdrop_concat_succ, List.rdrop_zero, List.rtake,
    List.length_append, List.length_map, Nat.add_sub_cancel, List.drop_left]

end ColdStart
