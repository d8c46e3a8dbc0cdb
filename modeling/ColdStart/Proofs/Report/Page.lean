/-
This file shows that the page tells the same as the report. A reader of the page finds
one row of nine cells for each mode, and one of the report finds one row of the summary;
what they read there about the mode agrees, number by number. Where the report calls a
difference significant the page shows its mark, and both leave out the same comparisons.
-/

import ColdStart.Proofs.Report.Rows
import ColdStart.Proofs.Report.Significance

namespace ColdStart

variable {test : RankTest}

/-! ### Tables -/

/-- The rows of a page that have a cell for every heading. -/
def dataRows (page : String) : List (List String) :=
  (tableRows page).filter (·.length = 9)

/-- The rows of modes, with those of their bars between them, are read one after the other. -/
theorem reads_pageRows {rows : List String} {shown : List (List String)}
    (each : List.Forall₂ (fun row cells => Reads row fun rows => [""] :: cells :: rows)
      rows shown) :
    Reads (joinLines rows) fun reached =>
      (shown.flatMap fun cells => [cells, [""]]).reverse ++ reached := by
  have changes (reached : List (List String)) :
      (shown.map fun cells rows => [""] :: cells :: rows).foldl
        (fun reached change => change reached) reached =
      (shown.flatMap fun cells => [cells, [""]]).reverse ++ reached := by
    clear each
    induction shown generalizing reached with
    | nil => rfl
    | cons cells rest inductionHypothesis =>
      rw [List.map_cons, List.foldl_cons, inductionHypothesis]
      simp
  have reads := Reads.joinLines (List.forall₂_map_right_iff.mpr each)
  simp only [changes] at reads
  exact reads

/-- Of the rows of modes and bars, those with nine cells are those of the modes. -/
theorem filter_rows {Item : Type} (bar : Item) {shown : List (List Item)}
    (full : ∀ cells ∈ shown, cells.length = 9) :
    (shown.flatMap fun cells => [cells, [bar]]).filter (fun row => decide (row.length = 9)) =
      shown := by
  induction shown with
  | nil => rfl
  | cons cells rest inductionHypothesis =>
    obtain ⟨here, later⟩ := List.forall_mem_cons.mp full
    simp [here, inductionHypothesis later]

theorem notMem_pageStyle : '<' ∉ pageStyle.toList := by
  rw [pageStyle, String.toList_ofList]
  decide +kernel

/-- Text in an element that is no part of a table. -/
theorem reads_element {opening content closing : String} (opens : Reads opening id)
    (plain : '<' ∉ content.toList) (closes : Reads closing id) :
    Reads (opening ++ content ++ closing) id :=
  (opens.append (.text plain)).append closes

/-- The headings are in a row without cells. -/
theorem reads_headings :
    Reads ("    <thead><tr>" ++ pageHeadings ++ "</tr></thead>") ([] :: ·) := by
  have headings : Reads pageHeadings id := by
    refine Reads.join fun part isPart => ?_
    obtain ⟨heading, isHeading, rfl⟩ := List.mem_map.mp isPart
    have plain : ∀ heading ∈ ["Mode", "Total", "%", "Runtime", "Apphost", "Webhost", "App",
        "Dropped", "Significance"], '<' ∉ heading.toList := by decide
    exact reads_element (fun _ => rfl) (plain heading isHeading) (fun _ => rfl)
  have before : Reads "    <thead><tr>" ([] :: ·) := fun _ => rfl
  have behind : Reads "</tr></thead>" id := fun _ => rfl
  exact (before.append headings).append behind

/-- What stands above the table is no table. -/
theorem reads_meta (modes : List ModeStatistics) (timestamp : String) (level : Binary64) :
    Reads ("  <div class=\"meta\">Baseline: " ++
      (modes.head?.map fun mode => escapePage mode.mode.name).getD "none" ++ " &middot; alpha=" ++
      level.shortestText significanceLayout ++ " &middot; Generated " ++ escapePage timestamp ++
      "</div>") id := by
  have opens : Reads "  <div class=\"meta\">Baseline: " id := fun rows => by
    rw [PageReading.read, String.toList_ofList]
    rfl
  have name : '<' ∉
      ((modes.head?.map fun mode => escapePage mode.mode.name).getD "none").toList := by
    cases modes with
    | nil => decide
    | cons first others => exact notMem_escapePage (by decide) _
  have alpha : '<' ∉ (level.shortestText significanceLayout).toList :=
    (level.isNumeralText_shortestText significanceLayout).notMem (by decide)
  have generated : '<' ∉ (escapePage timestamp).toList := notMem_escapePage (by decide) timestamp
  have alphaTitle : Reads " &middot; alpha=" id := .text (by decide)
  have generatedTitle : Reads " &middot; Generated " id := .text (by decide)
  have closes : Reads "</div>" id := fun _ => rfl
  exact (((((opens.append (.text name)).append alphaTitle).append (.text alpha)).append
    generatedTitle).append (.text generated)).append closes

theorem tableRows_of_reads {page : String} {change : List (List String) → List (List String)}
    (reads : Reads page change) : tableRows page = (change []).reverse := by
  rw [tableRows, reads]

/-- The table of a page has one row of headings, and the rows that are put into it. -/
theorem tableRows_of_renderPage {modes : List ModeStatistics} {title timestamp : String}
    {level : Binary64} {page : String}
    (rendered : renderPage modes title timestamp level test = .ok page) :
    ∃ rows, pageRows modes level test = .ok rows ∧
      ∀ added, (Reads rows fun reached => added.reverse ++ reached) →
        tableRows page = [] :: added := by
  obtain ⟨rows, rowsGiven, rest⟩ := (bind_eq_ok_iff _ _ _).mp rendered
  obtain rfl := Except.ok.inj rest
  refine ⟨rows, rowsGiven, fun added readsRows => ?_⟩
  have plainTitle : '<' ∉ (escapePage title).toList := notMem_escapePage (by decide) title
  have titleLine : Reads ("  <title>" ++ escapePage title ++ "</title>") id :=
    reads_element (fun _ => rfl) plainTitle (fun _ => rfl)
  have styleLine : Reads ("  <style>" ++ pageStyle ++ "  </style>") id :=
    reads_element (fun _ => rfl) notMem_pageStyle (fun _ => rfl)
  have headingLine : Reads ("  <h1>" ++ escapePage title ++ "</h1>") id :=
    reads_element (fun _ => rfl) plainTitle (fun _ => rfl)
  -- Of all lines, only that of the headings and those of the modes leave anything in a table.
  refine (tableRows_of_reads (Reads.joinLines (?_ : List.Forall₂ Reads _
    [id, id, id, id, id, id, id, id, id, id, id, ([] :: ·), id,
      fun reached => added.reverse ++ reached, id, id, id, id, id]))).trans ?_
  · exact .cons (fun _ => rfl) <| .cons (fun _ => rfl) <| .cons (fun _ => rfl) <|
      .cons (fun _ => rfl) <| .cons titleLine <| .cons styleLine <| .cons (fun _ => rfl) <|
      .cons (fun _ => rfl) <| .cons headingLine <| .cons (reads_meta modes timestamp level) <|
      .cons (fun _ => rfl) <| .cons reads_headings <| .cons (fun _ => rfl) <| .cons readsRows <|
      .cons (fun _ => rfl) <| .cons (fun _ => rfl) <| .cons (fun _ => rfl) <|
      .cons (fun _ => rfl) <| .cons (fun _ => rfl) .nil
  · simp

/-! ### Agreement -/

/-- The rows of later modes tell entries about them, and each is read as its cells. -/
theorem exists_entries_of_rows {context : PageContext} {modes : List ModeStatistics}
    {rows : List String}
    (small : ∀ mode ∈ modes, ∀ value ∈ (PhaseDeltas.ofStatistics mode).values,
      value.natAbs ≤ 2 ^ 53)
    (given : (modes.mapM fun mode => context.row mode false) = .ok rows) :
    ∃ entries shown,
      List.Forall₂ (fun mode entry => entry.ShowsMode mode context.baseline ∧
        context.significance mode false = .ok entry.significance) modes entries ∧
      List.Forall₂ (fun row cells => Reads row fun rows => [""] :: cells :: rows) rows shown ∧
      List.Forall₂ (fun cells entry => PageEntry.read? cells = some entry) shown entries := by
  have each := (List.forall₂_and_left _ _).mpr ⟨small, (mapM_eq_ok_iff _ _ _).mp given⟩
  have told : List.Forall₂ (fun mode row => ∃ entry,
      (entry.ShowsMode mode context.baseline ∧
        context.significance mode false = .ok entry.significance) ∧
      ∃ cells, (Reads row fun rows => [""] :: cells :: rows) ∧
        PageEntry.read? cells = some entry) modes rows := by
    refine each.imp fun mode row both => ?_
    obtain ⟨entry, ⟨cells, told, reads⟩, shows, significance⟩ :=
      PageContext.exists_entry_of_row both.1 both.2
    exact ⟨entry, ⟨shows, significance⟩, cells, reads, told⟩
  obtain ⟨entries, shows, between⟩ := exists_between told
  obtain ⟨shown, reads, readBack⟩ := exists_between between
  exact ⟨entries, shown, shows, reads, readBack.flip⟩

/-- The page tells an entry about each mode, the first one as the baseline. -/
theorem exists_entries_of_renderPage {first : ModeStatistics} {others : List ModeStatistics}
    {title timestamp : String} {level : Binary64} {page : String}
    (small : ∀ mode ∈ first :: others, ∀ value ∈ (PhaseDeltas.ofStatistics mode).values,
      value.natAbs ≤ 2 ^ 53)
    (rendered : renderPage (first :: others) title timestamp level test = .ok page) :
    ∃ entry entries, (dataRows page).map PageEntry.read? = (entry :: entries).map some ∧
      entry.ShowsMode first first ∧ entry.significance = "baseline" ∧
      List.Forall₂ (fun mode entry => entry.ShowsMode mode first ∧
        (compareTotals first mode level test).map (·.label) = .ok entry.significance)
        others entries := by
  obtain ⟨rows, rowsGiven, table⟩ := tableRows_of_renderPage rendered
  obtain ⟨firstRow, firstGiven, rest⟩ := (bind_eq_ok_iff _ _ _).mp rowsGiven
  obtain ⟨otherRows, othersGiven, rest⟩ := (bind_eq_ok_iff _ _ _).mp rest
  obtain rfl := Except.ok.inj rest
  obtain ⟨smallFirst, smallOthers⟩ := List.forall_mem_cons.mp small
  obtain ⟨entry, ⟨cells, toldFirst, readsFirst⟩, showsFirst, isBaseline⟩ :=
    PageContext.exists_entry_of_row smallFirst firstGiven
  obtain ⟨entries, shown, shows, reads, told⟩ := exists_entries_of_rows smallOthers othersGiven
  have toldAll : List.Forall₂ (fun cells entry => PageEntry.read? cells = some entry)
      (cells :: shown) (entry :: entries) := .cons toldFirst told
  have full : ∀ row ∈ cells :: shown, row.length = 9 := by
    intro row member
    obtain ⟨other, -, toldRow⟩ := exists_of_forall₂_of_mem toldAll.flip member
    exact PageEntry.length_of_read? toldRow
  -- The row of headings goes first, and with it the rows of bars, because they are too short.
  have data : dataRows page = cells :: shown := by
    rw [dataRows, table _ (reads_pageRows (.cons readsFirst reads)),
      List.filter_cons_of_neg (by simp), filter_rows _ full]
  rw [data]
  exact ⟨entry, entries, map_eq_map_some toldAll, showsFirst, (Except.ok.inj isBaseline).symm,
    shows⟩

/-- The page of no modes has no data. -/
theorem dataRows_of_renderPage_nil {title timestamp : String} {level : Binary64} {page : String}
    (rendered : renderPage [] title timestamp level test = .ok page) : dataRows page = [] := by
  obtain ⟨rows, rowsGiven, table⟩ := tableRows_of_renderPage rendered
  obtain rfl := Except.ok.inj rowsGiven
  have parts : "<tr><td colspan=\"9\" class=\"empty\">No configurations in results document" ++
      "</td></tr>" = "<tr>" ++ ("<td colspan=\"9\" class=\"empty\">" ++
        "No configurations in results document" ++ "</td>") ++ "</tr>" := by
    decide +kernel
  have opens : Reads "<tr>" ([] :: ·) := fun _ => rfl
  have cell : Reads ("<td colspan=\"9\" class=\"empty\">" ++
      "No configurations in results document" ++ "</td>")
      (addCell "No configurations in results document") :=
    .cell (fun _ => rfl) (by decide)
  have closes : Reads "</tr>" id := fun _ => rfl
  have reads := (opens.append cell).append closes
  rw [← parts] at reads
  rw [dataRows, table [["No configurations in results document"]] reads]
  rfl

/-- The entry says of the difference from the first mode what a line of the report says. -/
structure PageEntry.SaysAs (entry : PageEntry) (line : String) : Prop where
  name : (padRight 40 entry.name ++ ": ").toList <+: line.toList
  untested : entry.significance = "n/a" ↔ "p=n/a".toList <+: verdictOf line
  marked : "⚠️".toList <:+: entry.significance.toList ↔ "SIGNIFICANT".toList <:+: verdictOf line

theorem PageEntry.saysAs_line {entry : PageEntry} {comparison : Comparison}
    (label : entry.significance = comparison.label) (name : entry.name = comparison.name)
    (level : Binary64) : entry.SaysAs (comparison.line level) where
  name := by
    have parts : ": median " = ": " ++ "median " := by decide
    rw [Comparison.line, name, parts]
    simp only [String.toList_append, List.append_assoc]
    exact (List.prefix_append_right_inj _).mpr (List.prefix_append _ _)
  untested := by
    rw [label, verdictOf_line, Comparison.label_eq_untested_iff,
      Comparison.untested_prefix_verdict_iff]
  marked := by
    rw [label, verdictOf_line, Comparison.mark_infix_label_iff,
      Comparison.significant_infix_verdict_iff]

/-- The page and the report of the same modes agree. The page has a row of nine cells for each row
of the summary, and both tell the same name and the same numbers. The first row is labelled as the
baseline. Every other has a label that is not available where the verdict in the report is, and
that has the mark where the verdict is that the difference is significant. -/
theorem renderPage_agreesWith_renderReport {modes : List ModeStatistics}
    {title timestamp : String} {level : Binary64} {report page : String}
    (single : ∀ mode ∈ modes, '\n' ∉ mode.mode.name.toList)
    (small : ∀ mode ∈ modes, ∀ value ∈ (PhaseDeltas.ofStatistics mode).values,
      value.natAbs ≤ 2 ^ 53)
    (reported : renderReport modes level test = .ok report)
    (rendered : renderPage modes title timestamp level test = .ok page) :
    ∃ entries told,
      (dataRows page).map PageEntry.read? = entries.map some ∧
      (summaryTable report).map SummaryEntry.read? = told.map some ∧
      List.Forall₂ PageEntry.AgreesWith entries told ∧
      (∀ first ∈ entries.head?, first.significance = "baseline") ∧
      List.Forall₂ PageEntry.SaysAs entries.tail
        (significanceTable report (modes.length - 1)) := by
  cases modes with
  | nil =>
    have rows : summaryTable report = [] := by
      rw [renderReport_eq] at reported
      obtain rfl := Except.ok.inj reported
      exact summaryTable_reportText (List.forall_mem_nil _) _ _
    refine ⟨[], [], ?_, ?_, .nil, ?_, ?_⟩
    · rw [dataRows_of_renderPage_nil rendered, List.map_nil, List.map_nil]
    · rw [rows, List.map_nil, List.map_nil]
    · simp
    · rw [significanceTable, List.length_nil, Nat.zero_sub, List.rtake_zero]
      exact .nil
  | cons first others =>
    obtain ⟨entry, entries, data, showsFirst, isBaseline, shows⟩ :=
      exists_entries_of_renderPage small rendered
    obtain ⟨-, rows⟩ := summaryTable_of_renderReport single reported
    obtain ⟨told, toldShows, toldRead⟩ := exists_between (rows.imp fun mode row tells => by
      obtain ⟨entry, readBack, shows⟩ := tells
      exact ⟨entry, shows, readBack⟩)
    have lines := significanceTable_of_renderReport
      (fun mode member => single mode (List.mem_cons_of_mem _ member)) reported
    have entriesShow : List.Forall₂ (fun mode entry => entry.ShowsMode mode first)
        (first :: others) (entry :: entries) :=
      .cons showsFirst (shows.imp fun _ _ both => both.1)
    refine ⟨entry :: entries, told, data, map_eq_map_some toldRead, ?_, ?_, ?_⟩
    · refine (forall₂_of_beside entriesShow toldShows).imp ?_
      rintro entry row ⟨mode, shows, rowShows⟩
      exact shows.agreesWith rowShows
    · simpa using isBaseline
    · rw [List.length_cons, Nat.add_sub_cancel, List.tail_cons]
      refine (forall₂_of_beside shows lines).imp ?_
      rintro entry line ⟨mode, ⟨shows, label⟩, comparison, compared, rfl⟩
      rw [compared] at label
      exact PageEntry.saysAs_line (Except.ok.inj label).symm
        (shows.name.trans (name_of_compareTotals compared).symm) level


/-- Three modes: the first, one that is compared with it, and one with a single measured start. -/
def comparedRecords : List Record := [
  { mode := { name := "baseline" }
    samples := [⟨"RUNTIME", 30, 20, 4⟩, ⟨"APP", 110, 85, 7⟩, ⟨"APP", 120, 80, 9⟩] },
  { mode := { name := "r2r <fast> & | small", readyToRun := true }
    samples := [⟨"RUNTIME", 4, 3, 1⟩, ⟨"APP", 70, 60, 3⟩, ⟨"APP", 75, 62, 5⟩] },
  { mode := { name := "tiered" }
    samples := [⟨"APP", 9, 5, 1⟩]
    dropped := 2 }]

theorem renderPage_agreesWith_renderReport_comparedRecords :
    ∃ report page,
      renderReport (comparedRecords.map .ofRecord) (.ofRatio false 1 20) = .ok report ∧
      renderPage (comparedRecords.map .ofRecord) defaultTitle "2026-01-02 03:04:05"
        (.ofRatio false 1 20) = .ok page ∧
      ∃ entries told,
        (dataRows page).map PageEntry.read? = entries.map some ∧
        (summaryTable report).map SummaryEntry.read? = told.map some ∧
        List.Forall₂ PageEntry.AgreesWith entries told ∧
        (∀ first ∈ entries.head?, first.significance = "baseline") ∧
        List.Forall₂ PageEntry.SaysAs entries.tail (significanceTable report 2) := by
  have summary : HasSummary (comparedRecords.map .ofRecord) := by decide +kernel
  have inRange : ∀ record ∈ comparedRecords, record.InRange := by decide +kernel
  have shown : ∀ first ∈ (comparedRecords.map ModeStatistics.ofRecord).head?,
      ∀ mode ∈ comparedRecords.map ModeStatistics.ofRecord, mode.IsShown first := by
    decide +kernel
  obtain ⟨report, reported⟩ := exists_renderReport (.ofRatio false 1 20) inRange summary
  obtain ⟨page, rendered⟩ := exists_renderPage defaultTitle "2026-01-02 03:04:05"
    (.ofRatio false 1 20) inRange shown
  exact ⟨report, page, reported, rendered,
    renderPage_agreesWith_renderReport (by decide +kernel) (by decide +kernel) reported rendered⟩

end ColdStart
