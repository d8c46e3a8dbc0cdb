/-
This file says which tags a page has, and which cells the rows of its table. Every line
of a page adds the same wherever it stands, so the page is scanned line by line. Its rows
depend on the texts that are computed for them, which are numbers or are escaped, and on
the names and descriptions of modes, which are escaped as well; the first cell of each
row gives these back.
-/

import ColdStart.Proofs.Report.Page
import ColdStart.Proofs.Report.Tags

namespace ColdStart

variable {test : RankTest}

/-! ### What is computed for the rows -/

/-- The texts of the rows of all modes. -/
def pageTexts (modes : List ModeStatistics) (level : Binary64) (test : RankTest) :
    Except NumberFault (List RowTexts) :=
  match modes with
  | [] => .ok []
  | baseline :: others => do
    let context : PageContext := { baseline, longest := longestTotal baseline others, level, test }
    let first ← context.texts baseline true
    let rest ← others.mapM fun mode => context.texts mode false
    return first :: rest

theorem pageRows_cons (first : ModeStatistics) (others : List ModeStatistics) (level : Binary64) :
    pageRows (first :: others) level test =
      (fun texts => joinLines <|
        List.zipWith (fun mode texts => joinLines (texts.lines mode)) (first :: others) texts) <$>
        pageTexts (first :: others) level test := by
  let context : PageContext :=
    { baseline := first, longest := longestTotal first others, level, test }
  have rows := mapM_map_eq (fun mode => context.texts mode false)
    (fun mode texts => joinLines (texts.lines mode)) others
  simp only [pageRows, pageTexts, PageContext.row_eq]
  rw [rows]
  cases context.texts first true with
  | error fault => rfl
  | ok texts => cases others.mapM fun mode => context.texts mode false <;> rfl

/-- The texts of rows are those of the modes against the first. -/
theorem forall₂_of_pageTexts {first : ModeStatistics} {others : List ModeStatistics}
    {level : Binary64} {texts : List RowTexts}
    (given : pageTexts (first :: others) level test = .ok texts) :
    ∃ context : PageContext, context.baseline = first ∧
      List.Forall₂ (fun mode texts => ∃ isBaseline, context.texts mode isBaseline = .ok texts)
        (first :: others) texts := by
  obtain ⟨firstTexts, firstGiven, rest⟩ := (bind_eq_ok_iff _ _ _).mp given
  obtain ⟨otherTexts, othersGiven, rest⟩ := (bind_eq_ok_iff _ _ _).mp rest
  obtain rfl := Except.ok.inj rest
  have later := (mapM_eq_ok_iff _ _ _).mp othersGiven
  exact ⟨_, rfl, .cons ⟨true, firstGiven⟩ (later.imp fun _ _ given => ⟨false, given⟩)⟩

/-- The texts of rows show the mean times of modes. -/
abbrev ShowAll (modes : List ModeStatistics) (texts : List RowTexts) : Prop :=
  List.Forall₂ (fun mode texts => texts.Shows (.ofStatistics mode)) modes texts

theorem showAll_of_pageTexts {modes : List ModeStatistics} {level : Binary64}
    {texts : List RowTexts} (given : pageTexts modes level test = .ok texts) :
    ShowAll modes texts := by
  cases modes with
  | nil =>
    obtain rfl := Except.ok.inj given
    exact .nil
  | cons first others =>
    obtain ⟨context, -, each⟩ := forall₂_of_pageTexts given
    exact each.imp fun _ _ ⟨_, given⟩ => (PageContext.shows_of_texts given).1

/-! ### Markup of the rows -/

/-- A cell with a number. -/
def Cell.ofNumber (text : String) : Cell := ⟨[("class", "numeric-cell")], text⟩

/-- The cell of a bar has no text. -/
def barCell : Cell := ⟨[("colspan", "9")], ""⟩

namespace RowTexts

/-- The cells of the row of a mode, as they are written. -/
def pageCells (texts : RowTexts) (mode : ModeStatistics) : List Cell := [
  ⟨[("title", escapePage mode.mode.describe)], escapePage mode.mode.name⟩,
  .ofNumber texts.total,
  ⟨[("class", "numeric-cell " ++ shareClass texts.percent)], integerText texts.percent ++ "%"⟩,
  .ofNumber texts.runtime,
  .ofNumber texts.host,
  .ofNumber texts.web,
  .ofNumber texts.app,
  .ofNumber (integerText mode.dropped),
  ⟨[("class", "significance-cell")], escapePage texts.significance⟩]

/-- The tags of the row of a bar. -/
def barTags (texts : RowTexts) : List Tag := [
  ⟨"tr", [("class", "bar-row")]⟩, ⟨"td", barCell.attributes⟩,
  ⟨"div", [("class", "bar"), ("style", "width: " ++ texts.width.fixedText 1 ++ "%")]⟩,
  ⟨"/div", []⟩, ⟨"/td", []⟩, ⟨"/tr", []⟩]

/-- What the lines of the row of a mode add, and those of the row of its bar. -/
def passages (texts : RowTexts) (mode : ModeStatistics) : List Passage :=
  [.ofTags [], ⟨[⟨"tr", []⟩], ([] :: ·)⟩] ++ (texts.pageCells mode).map .cell ++
    [.ofTags [⟨"/tr", []⟩], ⟨texts.barTags, ([barCell] :: ·)⟩]

theorem marks_numberCell {content : String} (plain : '<' ∉ content.toList) :
    Marks (numberCell content) (.cell (.ofNumber content)) := by
  refine .cell (fun tags rows => ?_) plain
  rw [PageScan.scan, String.toList_ofList]
  rfl

theorem marks_nameCell (describe name : String) :
    Marks ("        <td title=\"" ++ escapePage describe ++ "\">" ++ escapePage name ++ "</td>")
      (.cell ⟨[("title", escapePage describe)], escapePage name⟩) := by
  refine .cell (fun tags rows => ?_) (notMem_escapePage (by decide) name)
  have opens : PageScan.scan ⟨tags, rows, none, .text⟩ "        <td title=\"" =
      ⟨tags, rows, none, .quoted '"' ⟨"td", []⟩ "title".toList "".toList⟩ := by
    rw [PageScan.scan, String.toList_ofList, String.toList_ofList]
    rfl
  rw [PageScan.scan_value _ _ opens (notMem_escapePage (by decide) describe),
    String.empty_append]
  rfl

theorem marks_percentCell (share : Int) :
    Marks ("        <td class=\"numeric-cell " ++ shareClass share ++ "\">" ++
      integerText share ++ "%</td>")
      (.cell ⟨[("class", "numeric-cell " ++ shareClass share)], integerText share ++ "%"⟩) := by
  have unended : '"' ∉ (shareClass share).toList := by
    rw [shareClass]
    split_ifs <;> decide
  rw [append_percent]
  refine .cell (fun tags rows => ?_) (notMem_percent share)
  have opens : PageScan.scan ⟨tags, rows, none, .text⟩ "        <td class=\"numeric-cell " =
      ⟨tags, rows, none, .quoted '"' ⟨"td", []⟩ "class".toList "numeric-cell ".toList⟩ := by
    rw [PageScan.scan, String.toList_ofList, String.toList_ofList, String.toList_ofList]
    rfl
  rw [PageScan.scan_value _ _ opens unended]
  rfl

theorem marks_significanceCell (significance : String) :
    Marks ("        <td class=\"significance-cell\">" ++ escapePage significance ++ "</td>")
      (.cell ⟨[("class", "significance-cell")], escapePage significance⟩) := by
  refine .cell (fun tags rows => ?_) (notMem_escapePage (by decide) significance)
  rw [PageScan.scan, String.toList_ofList]
  rfl

/-- The tag of a bar is begun in a cell of its own row. -/
theorem scan_bar (tags : List Tag) (rows : List (List Cell)) :
    PageScan.scan ⟨tags, rows, none, .text⟩
      "      <tr class=\"bar-row\"><td colspan=\"9\"><div class=\"bar\" style=\"width: " =
      ⟨⟨"td", barCell.attributes⟩ :: ⟨"tr", [("class", "bar-row")]⟩ :: tags, [] :: rows,
        some (barCell.attributes, []),
        .quoted '"' ⟨"div", [("class", "bar")]⟩ "style".toList "width: ".toList⟩ := by
  -- The scan is computed tag by tag, because all of it at once is too deep a recursion.
  have parts :
      "      <tr class=\"bar-row\"><td colspan=\"9\"><div class=\"bar\" style=\"width: " =
        "      <tr class=\"bar-row\">" ++ "<td colspan=\"9\">" ++
          "<div class=\"bar\" style=\"width: " := by
    decide
  have row : PageScan.scan ⟨tags, rows, none, .text⟩ "      <tr class=\"bar-row\">" =
      ⟨⟨"tr", [("class", "bar-row")]⟩ :: tags, [] :: rows, none, .text⟩ := by
    rw [PageScan.scan, String.toList_ofList]
    rfl
  have cell (tags : List Tag) (rows : List (List Cell)) :
      PageScan.scan ⟨tags, rows, none, .text⟩ "<td colspan=\"9\">" =
        ⟨⟨"td", barCell.attributes⟩ :: tags, rows, some (barCell.attributes, []), .text⟩ := by
    rw [PageScan.scan, String.toList_ofList]
    rfl
  have bar (tags : List Tag) (rows : List (List Cell)) (cell? : Option (Attributes × List Char)) :
      PageScan.scan ⟨tags, rows, cell?, .text⟩ "<div class=\"bar\" style=\"width: " =
        ⟨tags, rows, cell?, .quoted '"' ⟨"div", [("class", "bar")]⟩ "style".toList
          "width: ".toList⟩ := by
    rw [PageScan.scan, String.toList_ofList, String.toList_ofList, String.toList_ofList]
    rfl
  rw [parts, PageScan.scan_append, PageScan.scan_append, row, cell, bar]

theorem marks_bar (texts : RowTexts) :
    Marks ("      <tr class=\"bar-row\"><td colspan=\"9\"><div class=\"bar\" style=\"width: " ++
      texts.width.fixedText 1 ++ "%\"></div></td></tr>") ⟨texts.barTags, ([barCell] :: ·)⟩ := by
  intro tags rows
  have unended : '"' ∉ (texts.width.fixedText 1 ++ "%").toList := by
    rw [String.toList_append]
    exact fun member => (List.mem_append.mp member).elim
      ((Binary64.isNumeralText_fixedText _ _).notMem (by decide)) (by decide)
  have parts (opening width : String) : opening ++ width ++ "%\"></div></td></tr>" =
      opening ++ (width ++ "%") ++ "\">" ++ "</div></td></tr>" := by
    have closing : "%\"></div></td></tr>" = "%" ++ "\">" ++ "</div></td></tr>" := by decide
    rw [closing]
    simp only [String.append_assoc]
  rw [parts, PageScan.scan_append, PageScan.scan_value _ _ (scan_bar tags rows) unended]
  rfl

/-- The rows of a mode and of its bar are scanned line by line. -/
theorem Shows.marks {texts : RowTexts} {deltas : PhaseDeltas} (shows : texts.Shows deltas)
    (mode : ModeStatistics) :
    Marks (joinLines (texts.lines mode)) (.all (texts.passages mode)) := by
  have dropped : '<' ∉ (integerText mode.dropped).toList :=
    (isNumeralText_integerText mode.dropped).notMem (by decide)
  have opens : Marks "      <tr>" ⟨[⟨"tr", []⟩], ([] :: ·)⟩ := fun tags rows => by
    rw [PageScan.scan, String.toList_ofList]
    rfl
  have closes : Marks "      </tr>" (.ofTags [⟨"/tr", []⟩]) := fun tags rows => by
    rw [PageScan.scan, String.toList_ofList]
    rfl
  refine Marks.joinLines ?_
  exact .cons (.text (by decide)) <| .cons opens <| .cons (marks_nameCell _ _) <|
    .cons (marks_numberCell (notMem_millisecondsText shows.total)) <|
    .cons (marks_percentCell _) <|
    .cons (marks_numberCell (notMem_millisecondsText shows.runtime)) <|
    .cons (marks_numberCell (notMem_millisecondsText shows.host)) <|
    .cons (marks_numberCell (notMem_millisecondsText shows.web)) <|
    .cons (marks_numberCell (notMem_millisecondsText shows.app)) <|
    .cons (marks_numberCell dropped) <| .cons (marks_significanceCell _) <|
    .cons closes <| .cons (marks_bar _) .nil

end RowTexts

/-! ### The rows of all modes -/

/-- The row that says that there are no modes. -/
def emptyCell : Cell :=
  ⟨[("colspan", "9"), ("class", "empty")], "No configurations in results document"⟩

/-- What the rows of modes and of their bars add. -/
def modePassages (modes : List ModeStatistics) (texts : List RowTexts) : List Passage :=
  List.zipWith (fun mode texts => .all (texts.passages mode)) modes texts

/-- What the rows of modes add, or the row that says that there are none. -/
def rowsPassage (modes : List ModeStatistics) (texts : List RowTexts) : Passage :=
  match modes with
  | [] => .all [⟨[⟨"tr", []⟩], ([] :: ·)⟩, .cell emptyCell, .ofTags [⟨"/tr", []⟩]]
  | _ => .all (modePassages modes texts)

theorem marks_noRows :
    Marks "<tr><td colspan=\"9\" class=\"empty\">No configurations in results document</td></tr>"
      (rowsPassage [] []) := by
  have parts : "<tr><td colspan=\"9\" class=\"empty\">No configurations in results document" ++
      "</td></tr>" = String.join ["<tr>", "<td colspan=\"9\" class=\"empty\">" ++
        emptyCell.text ++ "</td>", "</tr>"] := by
    decide +kernel
  have row : Marks "<tr>" ⟨[⟨"tr", []⟩], ([] :: ·)⟩ := fun _ _ => rfl
  have cell : Marks ("<td colspan=\"9\" class=\"empty\">" ++ emptyCell.text ++ "</td>")
      (.cell emptyCell) :=
    .cell (fun tags rows => by rw [PageScan.scan, String.toList_ofList]; rfl) (by decide)
  have closes : Marks "</tr>" (.ofTags [⟨"/tr", []⟩]) := fun _ _ => rfl
  have marks := Marks.join (.cons row (.cons cell (.cons closes .nil)))
  rwa [← parts] at marks

section

variable {modes : List ModeStatistics} {texts : List RowTexts}

theorem forall₂_marks (shows : ShowAll modes texts) :
    List.Forall₂ Marks
      (List.zipWith (fun mode texts => joinLines (texts.lines mode)) modes texts)
      (modePassages modes texts) := by
  induction shows with
  | nil => exact .nil
  | cons here _ inductionHypothesis => exact .cons (here.marks _) inductionHypothesis

/-- The rows that are put into a page are scanned row by row. -/
theorem marks_of_pageRows {level : Binary64} {rows : String}
    (given : pageRows modes level test = .ok rows) :
    ∃ texts, pageTexts modes level test = .ok texts ∧ Marks rows (rowsPassage modes texts) := by
  cases modes with
  | nil =>
    obtain rfl := Except.ok.inj given
    exact ⟨[], rfl, marks_noRows⟩
  | cons first others =>
    rw [pageRows_cons] at given
    obtain ⟨texts, isTexts, rfl⟩ := (map_eq_ok_iff _ _ _).mp given
    exact ⟨texts, isTexts, Marks.joinLines (forall₂_marks (showAll_of_pageTexts isTexts))⟩

/-- The cells of the rows of all modes. -/
def shownCells (modes : List ModeStatistics) (texts : List RowTexts) : List (List Cell) :=
  List.zipWith (fun mode texts => texts.pageCells mode) modes texts

/-- The cells of each row are those of texts that are about its mode. -/
theorem forall₂_shownCells {IsAbout : ModeStatistics → RowTexts → Prop}
    (about : List.Forall₂ IsAbout modes texts) :
    List.Forall₂ (fun mode cells => ∃ texts, IsAbout mode texts ∧ texts.pageCells mode = cells)
      modes (shownCells modes texts) := by
  induction about with
  | nil => exact .nil
  | cons here _ inductionHypothesis => exact .cons ⟨_, here, rfl⟩ inductionHypothesis

theorem change_modePassages (shows : ShowAll modes texts) (reached : List (List Cell)) :
    (Passage.all (modePassages modes texts)).change reached =
      ((shownCells modes texts).flatMap fun cells => [cells, [barCell]]).reverse ++ reached := by
  induction shows generalizing reached with
  | nil => rfl
  | @cons mode first others rest _ _ inductionHypothesis =>
    have steps : (Passage.all (modePassages (mode :: others) (first :: rest))).change reached =
        (Passage.all (modePassages others rest)).change
          ([barCell] :: first.pageCells mode :: reached) := rfl
    rw [steps, inductionHypothesis]
    simp [shownCells]

end

/-! ### The page -/

/-- What the lines of a page add. -/
def pagePassages (rows : Passage) : List Passage := [
  .ofTags [⟨"!DOCTYPE", [("html", "")]⟩],
  .ofTags [⟨"html", [("lang", "en")]⟩],
  .ofTags [⟨"head", []⟩],
  .ofTags [⟨"meta", [("charset", "UTF-8")]⟩],
  .ofTags [⟨"title", []⟩, ⟨"/title", []⟩],
  .ofTags [⟨"style", []⟩, ⟨"/style", []⟩],
  .ofTags [⟨"/head", []⟩],
  .ofTags [⟨"body", []⟩],
  .ofTags [⟨"h1", []⟩, ⟨"/h1", []⟩],
  .ofTags [⟨"div", [("class", "meta")]⟩, ⟨"/div", []⟩],
  .ofTags [⟨"table", []⟩],
  ⟨[⟨"thead", []⟩, ⟨"tr", []⟩] ++ (List.replicate 9 [⟨"th", []⟩, ⟨"/th", []⟩]).flatten ++
    [⟨"/tr", []⟩, ⟨"/thead", []⟩], ([] :: ·)⟩,
  .ofTags [⟨"tbody", []⟩],
  rows,
  .ofTags [⟨"/tbody", []⟩],
  .ofTags [⟨"/table", []⟩],
  .ofTags [⟨"/body", []⟩],
  .ofTags [⟨"/html", []⟩],
  .ofTags []]

/-- The headings are in a row without cells. -/
theorem marks_headings :
    Marks ("    <thead><tr>" ++ pageHeadings ++ "</tr></thead>")
      ⟨[⟨"thead", []⟩, ⟨"tr", []⟩] ++ (List.replicate 9 [⟨"th", []⟩, ⟨"/th", []⟩]).flatten ++
        [⟨"/tr", []⟩, ⟨"/thead", []⟩], ([] :: ·)⟩ := by
  have plain : ∀ heading ∈ ["Mode", "Total", "%", "Runtime", "Apphost", "Webhost", "App",
      "Dropped", "Significance"], '<' ∉ heading.toList := by decide
  have opens : Marks "<th>" (.ofTags [⟨"th", []⟩]) := fun _ _ => rfl
  have closes : Marks "</th>" (.ofTags [⟨"/th", []⟩]) := fun _ _ => rfl
  have headings := Marks.join (List.forall₂_map_left_iff.mpr (List.forall₂_map_right_iff.mpr
    (List.forall₂_same.mpr fun heading isHeading =>
      opens.element (plain heading isHeading) closes)))
  have before : Marks "    <thead><tr>" ⟨[⟨"thead", []⟩, ⟨"tr", []⟩], ([] :: ·)⟩ :=
    fun _ _ => rfl
  have behind : Marks "</tr></thead>" (.ofTags [⟨"/tr", []⟩, ⟨"/thead", []⟩]) := fun _ _ => rfl
  exact (before.append headings).append behind

/-- What stands above the table is an element with text. -/
theorem marks_meta (modes : List ModeStatistics) (timestamp : String) (level : Binary64) :
    Marks ("  <div class=\"meta\">Baseline: " ++
      (modes.head?.map fun mode => escapePage mode.mode.name).getD "none" ++ " &middot; alpha=" ++
      level.shortestText significanceLayout ++ " &middot; Generated " ++ escapePage timestamp ++
      "</div>") (.ofTags [⟨"div", [("class", "meta")]⟩, ⟨"/div", []⟩]) := by
  have opens : Marks "  <div class=\"meta\">Baseline: "
      (.ofTags [⟨"div", [("class", "meta")]⟩]) := fun tags rows => by
    rw [PageScan.scan, String.toList_ofList]
    rfl
  have closes : Marks "</div>" (.ofTags [⟨"/div", []⟩]) := fun _ _ => rfl
  have name : '<' ∉
      ((modes.head?.map fun mode => escapePage mode.mode.name).getD "none").toList := by
    cases modes with
    | nil => decide
    | cons first others => exact notMem_escapePage (by decide) _
  have alpha : '<' ∉ (level.shortestText significanceLayout).toList :=
    (level.isNumeralText_shortestText significanceLayout).notMem (by decide)
  have generated : '<' ∉ (escapePage timestamp).toList := notMem_escapePage (by decide) timestamp
  exact (((((opens.append_text name).append_text (by decide)).append_text alpha).append_text
    (by decide)).append_text generated).append closes

/-- A page is scanned line by line, whatever its names are. -/
theorem marks_of_renderPage {modes : List ModeStatistics} {title timestamp : String}
    {level : Binary64} {page : String}
    (rendered : renderPage modes title timestamp level test = .ok page) :
    ∃ texts, pageTexts modes level test = .ok texts ∧
      Marks page (.all (pagePassages (rowsPassage modes texts))) := by
  obtain ⟨rows, rowsGiven, rest⟩ := (bind_eq_ok_iff _ _ _).mp rendered
  obtain rfl := Except.ok.inj rest
  obtain ⟨texts, isTexts, marksRows⟩ := marks_of_pageRows rowsGiven
  refine ⟨texts, isTexts, Marks.joinLines ?_⟩
  have plainTitle : '<' ∉ (escapePage title).toList := notMem_escapePage (by decide) title
  have opensTitle : Marks "  <title>" (.ofTags [⟨"title", []⟩]) := fun _ _ => rfl
  have closesTitle : Marks "</title>" (.ofTags [⟨"/title", []⟩]) := fun _ _ => rfl
  have opensStyle : Marks "  <style>" (.ofTags [⟨"style", []⟩]) := fun _ _ => rfl
  have closesStyle : Marks "  </style>" (.ofTags [⟨"/style", []⟩]) := fun _ _ => rfl
  have opensHeading : Marks "  <h1>" (.ofTags [⟨"h1", []⟩]) := fun _ _ => rfl
  have closesHeading : Marks "</h1>" (.ofTags [⟨"/h1", []⟩]) := fun _ _ => rfl
  exact .cons (fun _ _ => rfl) <| .cons (fun _ _ => rfl) <| .cons (fun _ _ => rfl) <|
    .cons (fun _ _ => rfl) <| .cons (opensTitle.element plainTitle closesTitle) <|
    .cons (opensStyle.element notMem_pageStyle closesStyle) <| .cons (fun _ _ => rfl) <|
    .cons (fun _ _ => rfl) <| .cons (opensHeading.element plainTitle closesHeading) <|
    .cons (marks_meta modes timestamp level) <| .cons (fun _ _ => rfl) <|
    .cons marks_headings <| .cons (fun _ _ => rfl) <| .cons marksRows <|
    .cons (fun _ _ => rfl) <| .cons (fun _ _ => rfl) <| .cons (fun _ _ => rfl) <|
    .cons (fun _ _ => rfl) <| .cons (fun _ _ => rfl) .nil

/-! ### Names -/

/-- The rows of a page that have a cell for every heading. -/
def modeRows (page : String) : List (List Cell) := (pageCells page).filter (·.length = 9)

/-- What the first cell of a row says in its title, and what it shows. -/
def rowNames? (row : List Cell) : Option (String × String) := do
  let cell ← row.head?
  let title ← cell.attributes.lookup "title"
  return (unescapePage title, unescapePage cell.text)

/-- A row has the description of a mode for its title, and shows the name of the mode. -/
def NamesMode (mode : ModeStatistics) (row : List Cell) : Prop :=
  rowNames? row = some (mode.mode.describe, mode.mode.name)

theorem namesMode_pageCells (texts : RowTexts) (mode : ModeStatistics) :
    NamesMode mode (texts.pageCells mode) := by
  have names : rowNames? (texts.pageCells mode) = some
      (unescapePage (escapePage mode.mode.describe), unescapePage (escapePage mode.mode.name)) :=
    rfl
  rw [NamesMode, names, unescapePage_escapePage, unescapePage_escapePage]

/-- The rows of a page with a cell for every heading are those of its modes. -/
theorem modeRows_of_renderPage {modes : List ModeStatistics} {title timestamp : String}
    {level : Binary64} {page : String}
    (rendered : renderPage modes title timestamp level test = .ok page) :
    ∃ texts, pageTexts modes level test = .ok texts ∧ modeRows page = shownCells modes texts := by
  obtain ⟨texts, isTexts, marks⟩ := marks_of_renderPage rendered
  have full : ∀ cells ∈ shownCells modes texts, cells.length = 9 := by
    intro cells member
    obtain ⟨mode, -, texts, -, rfl⟩ :=
      exists_of_forall₂_of_mem (forall₂_shownCells (showAll_of_pageTexts isTexts)) member
    rfl
  refine ⟨texts, isTexts, ?_⟩
  rw [modeRows, pageCells_of_marks marks]
  cases modes with
  | nil => rfl
  | cons first others =>
    have change : (Passage.all (pagePassages (rowsPassage (first :: others) texts))).change [] =
        (Passage.all (modePassages (first :: others) texts)).change [[]] := rfl
    rw [change, change_modePassages (showAll_of_pageTexts isTexts), List.reverse_append,
      List.reverse_reverse, List.reverse_singleton, List.singleton_append,
      List.filter_cons_of_neg (by simp), filter_rows _ full]

/-- A page has a row for each mode, and each gives the name and the description of its mode. -/
theorem forall₂_modeRows_of_renderPage {modes : List ModeStatistics} {title timestamp : String}
    {level : Binary64} {page : String}
    (rendered : renderPage modes title timestamp level test = .ok page) :
    List.Forall₂ NamesMode modes (modeRows page) := by
  obtain ⟨texts, isTexts, rows⟩ := modeRows_of_renderPage rendered
  rw [rows]
  refine (forall₂_shownCells (showAll_of_pageTexts isTexts)).imp ?_
  rintro mode cells ⟨texts, -, rfl⟩
  exact namesMode_pageCells texts mode

end ColdStart
