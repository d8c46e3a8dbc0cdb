/-
This file shows that names do not alter the markup of a page. What is computed for the
rows depends on what was measured and not on names. So a page has the same tags with the
same values of attributes whatever the modes and the page are called, but for the titles
of cells, and these and the first cells show the names as they are.
-/

import ColdStart.Proofs.Report.PageTags
import ColdStart.Proofs.Report.Range

namespace ColdStart

/-! ### Renaming -/

/-- The same statistics of modes with the same toggles, whatever the names of the modes are. -/
structure ModeStatistics.IsRenamed (other statistics : ModeStatistics) : Prop where
  toggles : other.mode.has = statistics.mode.has
  phases : other.phases = statistics.phases
  dropped : other.dropped = statistics.dropped

variable {test : RankTest}

section Renaming

variable {baseline otherBaseline mode other : ModeStatistics}

theorem phase_of_isRenamed (renamed : other.IsRenamed mode) : other.phase = mode.phase := by
  funext name
  rw [ModeStatistics.phase, ModeStatistics.phase, renamed.phases]

theorem ofStatistics_of_isRenamed (renamed : other.IsRenamed mode) :
    PhaseDeltas.ofStatistics other = PhaseDeltas.ofStatistics mode := by
  simp only [PhaseDeltas.ofStatistics, phase_of_isRenamed renamed]

/-- A comparison comes to the same for other names, apart from the name it is about. -/
theorem compareTotals_of_isRenamed (renamedBaseline : otherBaseline.IsRenamed baseline)
    (renamed : other.IsRenamed mode) (level : Binary64) :
    compareTotals otherBaseline other level test =
      (fun comparison => { comparison with name := other.mode.name }) <$>
        compareTotals baseline mode level test := by
  have baselineTimes : otherBaseline.appTotals = baseline.appTotals := by
    rw [ModeStatistics.appTotals, ModeStatistics.appTotals, phase_of_isRenamed renamedBaseline]
  have times : other.appTotals = mode.appTotals := by
    rw [ModeStatistics.appTotals, ModeStatistics.appTotals, phase_of_isRenamed renamed]
  simp only [compareTotals, baselineTimes, times, map_bind]
  refine bind_congr fun baselineDoubles => bind_congr fun doubles => ?_
  refine bind_congr fun baselineMedian => bind_congr fun median => ?_
  rfl

theorem map_label_compareTotals (renamedBaseline : otherBaseline.IsRenamed baseline)
    (renamed : other.IsRenamed mode) (level : Binary64) :
    (compareTotals otherBaseline other level test).map (·.label) =
      (compareTotals baseline mode level test).map (·.label) := by
  rw [compareTotals_of_isRenamed renamedBaseline renamed]
  cases compareTotals baseline mode level test <;> rfl

end Renaming

/-! ### What is computed for the rows -/

namespace PageContext

/-- What is computed for a row is the same for other names. -/
theorem texts_of_isRenamed (context otherContext : PageContext) {mode other : ModeStatistics}
    (renamedBaseline : otherContext.baseline.IsRenamed context.baseline)
    (longest : otherContext.longest = context.longest)
    (level : otherContext.level = context.level) (test : otherContext.test = context.test)
    (renamed : other.IsRenamed mode) (isBaseline : Bool) :
    otherContext.texts other isBaseline = context.texts mode isBaseline := by
  have significance :
      otherContext.significance other isBaseline = context.significance mode isBaseline := by
    rw [PageContext.significance, PageContext.significance, level, test,
      map_label_compareTotals renamedBaseline renamed]
  simp only [texts, ofStatistics_of_isRenamed renamed, ofStatistics_of_isRenamed renamedBaseline,
    longest, significance]

end PageContext

theorem longestTotal_of_isRenamed {first otherFirst : ModeStatistics}
    {others otherOthers : List ModeStatistics} (renamedFirst : otherFirst.IsRenamed first)
    (renamed : List.Forall₂ ModeStatistics.IsRenamed otherOthers others) :
    longestTotal otherFirst otherOthers = longestTotal first others := by
  have longest (reached : Int) :
      otherOthers.foldl (fun longest mode => max longest (PhaseDeltas.ofStatistics mode).total)
        reached =
      others.foldl (fun longest mode => max longest (PhaseDeltas.ofStatistics mode).total)
        reached := by
    induction renamed generalizing reached with
    | nil => rfl
    | cons here _ inductionHypothesis =>
      rw [List.foldl_cons, List.foldl_cons, ofStatistics_of_isRenamed here, inductionHypothesis]
  simp only [longestTotal, ofStatistics_of_isRenamed renamedFirst, longest]

/-- What is computed for the rows is the same for other names. -/
theorem pageTexts_of_isRenamed {modes others : List ModeStatistics}
    (renamed : List.Forall₂ ModeStatistics.IsRenamed others modes) (level : Binary64) :
    pageTexts others level test = pageTexts modes level test := by
  cases renamed with
  | nil => rfl
  | @cons otherFirst first otherRest rest here later =>
    let context : PageContext :=
      { baseline := first, longest := longestTotal first rest, level, test }
    let otherContext : PageContext := { context with baseline := otherFirst }
    have firstTexts : otherContext.texts otherFirst true = context.texts first true :=
      context.texts_of_isRenamed otherContext here rfl rfl rfl here true
    have restTexts : (otherRest.mapM fun mode => otherContext.texts mode false) =
        rest.mapM fun mode => context.texts mode false :=
      mapM_eq_mapM (later.imp fun _ _ renamed =>
        context.texts_of_isRenamed otherContext here rfl rfl rfl renamed false)
    rw [pageTexts, longestTotal_of_isRenamed here later]
    exact congrArg₂ (fun first rest => do return (← first) :: (← rest)) firstTexts restTexts

/-! ### Titles -/

/-- A tag without what a cell says in its title. -/
def Tag.withoutTitle (tag : Tag) : Tag :=
  if tag.name = "td" then
    { tag with
      attributes := tag.attributes.map fun (key, value) =>
        (key, if key = "title" then "" else value) }
  else tag

/-- But for titles, rows of modes have the same tags whatever the modes are called. -/
theorem withoutTitle_passages (texts : RowTexts) (mode other : ModeStatistics) :
    (Passage.all (texts.passages other)).tags.map Tag.withoutTitle =
      (Passage.all (texts.passages mode)).tags.map Tag.withoutTitle := by
  rfl

theorem withoutTitle_modePassages {modes others : List ModeStatistics}
    (renamed : List.Forall₂ ModeStatistics.IsRenamed others modes) (texts : List RowTexts) :
    (Passage.all (modePassages others texts)).tags.map Tag.withoutTitle =
      (Passage.all (modePassages modes texts)).tags.map Tag.withoutTitle := by
  induction renamed generalizing texts with
  | nil => rfl
  | @cons other mode otherRest rest _ _ inductionHypothesis =>
    cases texts with
    | nil => rfl
    | cons first texts =>
      have both := congrArg₂ (· ++ ·) (withoutTitle_passages first mode other)
        (inductionHypothesis texts)
      simp only [← List.map_append] at both
      exact both

theorem withoutTitle_rowsPassage {modes others : List ModeStatistics}
    (renamed : List.Forall₂ ModeStatistics.IsRenamed others modes) (texts : List RowTexts) :
    (rowsPassage others texts).tags.map Tag.withoutTitle =
      (rowsPassage modes texts).tags.map Tag.withoutTitle := by
  cases renamed with
  | nil => rfl
  | cons here later => exact withoutTitle_modePassages (.cons here later) texts

/-! ### The page -/

/-- A page can be given for other names as well. -/
theorem exists_renderPage_of_isRenamed {modes others : List ModeStatistics}
    {title timestamp : String} {level : Binary64} {page : String}
    (renamed : List.Forall₂ ModeStatistics.IsRenamed others modes)
    (rendered : renderPage modes title timestamp level test = .ok page)
    (otherTitle otherTimestamp : String) :
    ∃ otherPage, renderPage others otherTitle otherTimestamp level test = .ok otherPage := by
  obtain ⟨texts, isTexts, -⟩ := marks_of_renderPage rendered
  obtain ⟨rows, given⟩ : ∃ rows, pageRows others level test = .ok rows := by
    cases renamed with
    | nil => exact ⟨_, rfl⟩
    | cons here later =>
      rw [pageRows_cons, pageTexts_of_isRenamed (.cons here later), isTexts]
      exact ⟨_, rfl⟩
  exact ⟨_, (bind_eq_ok_iff _ _ _).mpr ⟨rows, given, rfl⟩⟩

/-- Names do not alter the markup of a page. Where a page is given for modes, one is given for
modes that differ from them in their names only, with any title and time of writing. It has the
same tags with the same values of attributes, but for the titles of cells. On either page, a
row for each mode says the description of the mode in the title of its first cell, which shows
the name. -/
theorem renderPage_of_isRenamed {modes others : List ModeStatistics}
    {title timestamp : String} {level : Binary64} {page : String}
    (renamed : List.Forall₂ ModeStatistics.IsRenamed others modes)
    (rendered : renderPage modes title timestamp level test = .ok page)
    (otherTitle otherTimestamp : String) :
    ∃ otherPage, renderPage others otherTitle otherTimestamp level test = .ok otherPage ∧
      (pageTags otherPage).map Tag.withoutTitle = (pageTags page).map Tag.withoutTitle ∧
      List.Forall₂ NamesMode modes (modeRows page) ∧
      List.Forall₂ NamesMode others (modeRows otherPage) := by
  obtain ⟨otherPage, otherRendered⟩ :=
    exists_renderPage_of_isRenamed renamed rendered otherTitle otherTimestamp
  refine ⟨otherPage, otherRendered, ?_, forall₂_modeRows_of_renderPage rendered,
    forall₂_modeRows_of_renderPage otherRendered⟩
  obtain ⟨texts, isTexts, marks⟩ := marks_of_renderPage rendered
  obtain ⟨otherTexts, isOtherTexts, otherMarks⟩ := marks_of_renderPage otherRendered
  rw [pageTexts_of_isRenamed renamed, isTexts] at isOtherTexts
  obtain rfl := Except.ok.inj isOtherTexts
  rw [pageTags_of_marks marks, pageTags_of_marks otherMarks]
  simp only [pagePassages, Passage.tags_all, List.flatMap_cons, List.map_append,
    withoutTitle_rowsPassage renamed]

/-- The record with another name of its mode. -/
def Record.named (record : Record) (name : String) : Record :=
  { record with mode := { record.mode with name } }

theorem isRenamed_named (record : Record) (name : String) :
    (ModeStatistics.ofRecord (record.named name)).IsRenamed (.ofRecord record) where
  toggles := by
    funext toggle
    cases toggle <;> rfl
  phases := rfl
  dropped := rfl

/-- The compared records with names that would end cells and titles, or were escaped before. -/
def renamedRecords : List Record :=
  List.zipWith Record.named comparedRecords
    ["\"><script>'x'</script>", "</td></tr></table>", "&lt;b&gt; &amp;quot; \n"]

theorem renderPage_of_isRenamed_renamedRecords :
    ∃ page otherPage,
      renderPage (comparedRecords.map .ofRecord) defaultTitle "2026-01-02 03:04:05"
        (.ofRatio false 1 20) = .ok page ∧
      renderPage (renamedRecords.map .ofRecord) "</title><body onload='x'>" "<b>"
        (.ofRatio false 1 20) = .ok otherPage ∧
      (pageTags otherPage).map Tag.withoutTitle = (pageTags page).map Tag.withoutTitle ∧
      List.Forall₂ NamesMode (comparedRecords.map .ofRecord) (modeRows page) ∧
      List.Forall₂ NamesMode (renamedRecords.map .ofRecord) (modeRows otherPage) := by
  have inRange : ∀ record ∈ comparedRecords, record.InRange := by decide +kernel
  have shown : ∀ first ∈ (comparedRecords.map ModeStatistics.ofRecord).head?,
      ∀ mode ∈ comparedRecords.map ModeStatistics.ofRecord, mode.IsShown first := by
    decide +kernel
  obtain ⟨page, rendered⟩ := exists_renderPage defaultTitle "2026-01-02 03:04:05"
    (.ofRatio false 1 20) inRange shown
  have renamed : List.Forall₂ ModeStatistics.IsRenamed (renamedRecords.map .ofRecord)
      (comparedRecords.map .ofRecord) :=
    .cons (isRenamed_named _ _) <| .cons (isRenamed_named _ _) <|
      .cons (isRenamed_named _ _) .nil
  obtain ⟨otherPage, otherRendered, sameTags, names, otherNames⟩ :=
    renderPage_of_isRenamed renamed rendered "</title><body onload='x'>" "<b>"
  exact ⟨page, otherPage, rendered, otherRendered, sameTags, names, otherNames⟩

end ColdStart
