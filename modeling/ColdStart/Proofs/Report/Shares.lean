/-
This file shows that the percentages of a page never contradict its times. A larger time
has no smaller percentage of the same baseline, and the baseline is a hundred percent of
itself, at any size. So a row that is marked as slower is that of a mode with a longer
time than the first one, and a row that is marked as faster that of a mode with a shorter
one. How a row is marked is told by the classes of its cells, as a scanner of the page
finds them.
-/

import ColdStart.Proofs.Percentage
import ColdStart.Proofs.Report.PageTags
import ColdStart.Proofs.Report.Range

namespace ColdStart

/-! ### Percentages of a baseline -/

/-- What is more than a hundred percent of the baseline is more than the baseline. -/
theorem lt_of_percentFactor_lt {total baseline share : Int} (positive : 1 ≤ baseline)
    (given : percentage total baseline = .ok share) (more : percentFactor < share) :
    baseline < total := by
  by_contra atMost
  have bounded := percentage_mono (not_lt.mp atMost) given (percentage_self positive)
  exact bounded.not_gt more

theorem lt_of_lt_percentFactor {total baseline share : Int} (positive : 1 ≤ baseline)
    (given : percentage total baseline = .ok share) (less : share < percentFactor) :
    total < baseline := by
  by_contra atLeast
  have bounded := percentage_mono (not_lt.mp atLeast) (percentage_self positive) given
  exact bounded.not_gt less

theorem percentFactor_lt_of_shareClass {share : Int} (isSlower : shareClass share = "slower") :
    percentFactor < share := by
  by_contra other
  rw [shareClass, if_neg other] at isSlower
  split_ifs at isSlower <;> exact absurd isSlower (by decide)

theorem lt_percentFactor_of_shareClass {share : Int} (isFaster : shareClass share = "faster") :
    share < percentFactor := by
  by_contra other
  rw [shareClass, if_neg other] at isFaster
  split_ifs at isFaster <;> exact absurd isFaster (by decide)

/-! ### Rows -/

/-- The classes of a cell. -/
def Cell.classes (cell : Cell) : List String :=
  match cell.attributes.lookup "class" with
  | none => []
  | some names => (fieldsAt ' ' names.toList).map String.ofList

/-- A cell of the row has the class. -/
def IsMarked (row : List Cell) (mark : String) : Prop := ∃ cell ∈ row, mark ∈ cell.classes

/-- What the third cell of a row shows, and its classes. -/
def shareCell? (row : List Cell) : Option (String × List String) :=
  row[2]?.map fun cell => (cell.text, cell.classes)

/-- The row shows what percentage of the baseline the total is, in a cell with the class of that
percentage. It is marked as slower only if the total is above the baseline, and as faster only if
it is below. -/
structure AgreesWithTotals (baseline total : Int) (row : List Cell) : Prop where
  share : ∃ percent, percentage total baseline = .ok percent ∧
    shareCell? row = some (integerText percent ++ "%", ["numeric-cell", shareClass percent])
  slower : IsMarked row "slower" → baseline < total
  faster : IsMarked row "faster" → total < baseline

theorem classes_shareCell (share : Int) (text : String) :
    Cell.classes ⟨[("class", "numeric-cell " ++ shareClass share)], text⟩ =
      ["numeric-cell", shareClass share] := by
  have classes (mark : String) : Cell.classes ⟨[("class", mark)], text⟩ =
      (fieldsAt ' ' mark.toList).map String.ofList := rfl
  rw [classes, shareClass]
  split_ifs <;> decide +kernel

namespace RowTexts

variable {texts : RowTexts} {mode : ModeStatistics}

theorem shareCell?_pageCells (texts : RowTexts) (mode : ModeStatistics) :
    shareCell? (texts.pageCells mode) =
      some (integerText texts.percent ++ "%", ["numeric-cell", shareClass texts.percent]) :=
  congrArg (fun classes => some (integerText texts.percent ++ "%", classes))
    (classes_shareCell texts.percent _)

/-- Apart from what all rows have, a row has the class of its percentage. -/
theorem eq_shareClass_of_isMarked {mark : String} (isMarked : IsMarked (texts.pageCells mode) mark)
    (other : mark ∉ ["numeric-cell", "significance-cell"]) : shareClass texts.percent = mark := by
  obtain ⟨cell, member, hasMark⟩ := isMarked
  have classes : (texts.pageCells mode).flatMap Cell.classes =
      ["numeric-cell", "numeric-cell", shareClass texts.percent, "numeric-cell", "numeric-cell",
        "numeric-cell", "numeric-cell", "numeric-cell", "significance-cell"] := by
    simp only [pageCells, List.flatMap_cons, List.flatMap_nil, classes_shareCell]
    rfl
  have among := List.mem_flatMap.mpr ⟨cell, member, hasMark⟩
  rw [classes] at among
  simp only [List.mem_cons, List.not_mem_nil, or_false] at among other
  tauto

theorem agreesWithTotals {baseline total : Int} (positive : 1 ≤ baseline)
    (given : percentage total baseline = .ok texts.percent) :
    AgreesWithTotals baseline total (texts.pageCells mode) where
  share := ⟨texts.percent, given, shareCell?_pageCells texts mode⟩
  slower isMarked := lt_of_percentFactor_lt positive given <|
    percentFactor_lt_of_shareClass (eq_shareClass_of_isMarked isMarked (by decide))
  faster isMarked := lt_of_lt_percentFactor positive given <|
    lt_percentFactor_of_shareClass (eq_shareClass_of_isMarked isMarked (by decide))

end RowTexts

/-- The mean time of a whole start of a mode, as the rows give it. -/
abbrev ModeStatistics.total (mode : ModeStatistics) : Int := (PhaseDeltas.ofStatistics mode).total

/-- The rows of a page agree with the times of the modes. -/
theorem forall₂_agreesWithTotals {first : ModeStatistics} {others : List ModeStatistics}
    {title timestamp : String} {level : Binary64} {test : RankTest} {page : String}
    (positive : 1 ≤ first.total)
    (rendered : renderPage (first :: others) title timestamp level test = .ok page) :
    List.Forall₂ (fun mode row => AgreesWithTotals first.total mode.total row)
      (first :: others) (modeRows page) := by
  obtain ⟨texts, isTexts, rows⟩ := modeRows_of_renderPage rendered
  obtain ⟨context, rfl, about⟩ := forall₂_of_pageTexts isTexts
  rw [rows]
  refine (forall₂_shownCells about).imp ?_
  rintro mode cells ⟨texts, ⟨isBaseline, given⟩, rfl⟩
  have isPercent := (PageContext.shows_of_texts given).2.1
  exact RowTexts.agreesWithTotals positive isPercent

/-- Where the time is that of the baseline, the row shows a hundred percent. -/
theorem AgreesWithTotals.shareCell?_self {baseline : Int} {row : List Cell}
    (agrees : AgreesWithTotals baseline baseline row) (positive : 1 ≤ baseline) :
    shareCell? row = some ("100%", ["numeric-cell", "neutral"]) := by
  obtain ⟨percent, given, shown⟩ := agrees.share
  rw [percentage_self positive] at given
  obtain rfl := Except.ok.inj given
  exact shown

/-- Percentages never contradict times. Of two times of any size with a percentage of the same
baseline, the longer one has no smaller percentage, and every baseline from one on is a hundred
percent of itself. So when the first of the modes on a page has a time of at least one, the row
of a mode is marked as slower only if its time is longer than that of the first, and as faster
only if it is shorter, and the row of the first shows a hundred percent and is marked as neutral. -/
theorem percentages_agreeWith_totals :
    (∀ number other baseline share otherShare, number ≤ other →
      percentage number baseline = .ok share → percentage other baseline = .ok otherShare →
      share ≤ otherShare) ∧
    (∀ baseline, 1 ≤ baseline → percentage baseline baseline = .ok 100) ∧
    ∀ (first : ModeStatistics) (others : List ModeStatistics) (title timestamp : String)
      (level : Binary64) (test : RankTest) (page : String), 1 ≤ first.total →
      renderPage (first :: others) title timestamp level test = .ok page →
      List.Forall₂ (fun mode row => AgreesWithTotals first.total mode.total row)
        (first :: others) (modeRows page) ∧
      (modeRows page).head?.bind shareCell? = some ("100%", ["numeric-cell", "neutral"]) := by
  refine ⟨fun number other baseline share otherShare => percentage_mono,
    fun baseline => percentage_self, ?_⟩
  intro first others title timestamp level test page positive rendered
  have agree := forall₂_agreesWithTotals positive rendered
  refine ⟨agree, ?_⟩
  generalize modeRows page = rows at agree
  cases agree with
  | cons here _ => exact here.shareCell?_self positive

/-- A mode that others are compared with. -/
def closeBaseline : Record :=
  { mode := { name := "baseline" }, samples := [⟨"APP", 200, 120, 8⟩] }

/-- Modes with times close to that one, on either side of it. -/
def closeRecords : List Record := [
  { mode := { name := "tiered" }, samples := [⟨"APP", 201, 120, 8⟩] },
  { mode := { name := "r2r", readyToRun := true }, samples := [⟨"APP", 199, 118, 8⟩] },
  { mode := { name := "r2r_large" }, samples := [⟨"APP", 198, 118, 7⟩] }]

theorem percentages_agreeWith_totals_closeRecords :
    let first := ModeStatistics.ofRecord closeBaseline
    let others := closeRecords.map ModeStatistics.ofRecord
    ((2 : Int) ^ 60 ≤ 2 ^ 60 + 1000 ∧
      percentage (2 ^ 60) 7 = .ok 16470307208669243392 ∧
      percentage (2 ^ 60 + 1000) 7 = .ok 16470307208669257728 ∧
      (16470307208669243392 : Int) ≤ 16470307208669257728) ∧
    percentage (10 ^ 29 - 1) (10 ^ 29 - 1) = .ok 100 ∧
    1 ≤ first.total ∧
    ∃ page,
      renderPage (first :: others) defaultTitle "2026-01-02 03:04:05" (.ofRatio false 1 20) =
        .ok page ∧
      List.Forall₂ (fun mode row => AgreesWithTotals first.total mode.total row)
        (first :: others) (modeRows page) ∧
      (modeRows page).head?.bind shareCell? = some ("100%", ["numeric-cell", "neutral"]) := by
  intro first others
  obtain ⟨monotone, self, rows⟩ := percentages_agreeWith_totals
  have more : (2 : Int) ^ 60 ≤ 2 ^ 60 + 1000 := by decide
  have lesser : percentage (2 ^ 60) 7 = .ok 16470307208669243392 := by decide +kernel
  have greater : percentage (2 ^ 60 + 1000) 7 = .ok 16470307208669257728 := by decide +kernel
  have positive : 1 ≤ first.total := by decide +kernel
  have inRange : ∀ record ∈ closeBaseline :: closeRecords, record.InRange := by decide +kernel
  have shown : ∀ first ∈ ((closeBaseline :: closeRecords).map ModeStatistics.ofRecord).head?,
      ∀ mode ∈ (closeBaseline :: closeRecords).map ModeStatistics.ofRecord, mode.IsShown first := by
    decide +kernel
  obtain ⟨page, rendered⟩ := exists_renderPage defaultTitle "2026-01-02 03:04:05"
    (.ofRatio false 1 20) inRange shown
  exact ⟨⟨more, lesser, greater, monotone _ _ _ _ _ more lesser greater⟩,
    self (10 ^ 29 - 1) (by decide), positive, page, rendered,
    rows first others _ _ _ _ page positive rendered⟩

end ColdStart
