/-
This file reads the rows of a page. Each mode has a row of nine cells, with its name,
its times and their units, and under it the row of a bar. What stands in the cells was
escaped or is a number, so a reader finds them whole, and a time up to `2 ^ 53` reads back
with the place that it has below ten as well as without one.
-/

import ColdStart.Proofs.Report.Markup
import ColdStart.Proofs.Report.Summary

namespace ColdStart

/-! ### Cells -/

/-- What stands before the unit that a cell ends with. -/
def beforeUnit? (unit cell : String) : Option (List Char) :=
  match splitFirst? unit.toList cell.toList with
  | some (number, []) => some number
  | _ => none

/-- The whole number of milliseconds in a cell. -/
def wholeTime? (cell : String) : Option Int := do
  let value ← (← readBinary64? (← beforeUnit? "ms" cell)).toRat?
  if value.den = 1 then some value.num else none

/-- The whole number of percent in a cell. -/
def wholePercent? (cell : String) : Option Int := do
  (String.ofList (← beforeUnit? "%" cell)).toInt?

theorem beforeUnit?_append {mark : Char} {number : String} (absent : mark ∉ number.toList)
    (back : List Char) :
    beforeUnit? (String.ofList (mark :: back)) (number ++ String.ofList (mark :: back)) =
      some number.toList := by
  have found : splitFirst? ([] ++ mark :: back) (number.toList ++ ([] ++ mark :: back) ++ []) =
      some (number.toList, []) := splitFirst?_of_mark List.not_mem_nil absent
  rw [List.nil_append, List.append_nil] at found
  rw [beforeUnit?, String.toList_append, String.toList_ofList, found]

theorem wholePercent?_append (value : Int) :
    wholePercent? (integerText value ++ "%") = some value := by
  have number : beforeUnit? "%" (integerText value ++ "%") = some (integerText value).toList :=
    beforeUnit?_append ((isNumeralText_integerText value).notMem (by decide)) []
  rw [wholePercent?, number, Option.bind_eq_bind, Option.bind_some, String.ofList_toList]
  exact Int.toInt?_repr value

/-- A time is shown by the numeral of its double. -/
theorem eq_of_millisecondsText {value : Int} {cell : String}
    (given : millisecondsText value = .ok cell) :
    cell = (Binary64.ofInt value).fixedText (if value.natAbs < 10 then 1 else 0) ++ "ms" := by
  obtain ⟨nearest, isNearest, rest⟩ := (bind_eq_ok_iff _ _ _).mp given
  rw [wholeToBinary64_eq] at isNearest
  split at isNearest
  · obtain rfl : .ofInt value = nearest := Except.ok.inj isNearest
    exact (Except.ok.inj rest).symm
  · cases isNearest

theorem notMem_millisecondsText {value : Int} {cell : String}
    (given : millisecondsText value = .ok cell) : '<' ∉ cell.toList := by
  have numeral := (Binary64.ofInt value).isNumeralText_fixedText
    (if value.natAbs < 10 then 1 else 0)
  rw [eq_of_millisecondsText given, String.toList_append]
  exact fun member => (List.mem_append.mp member).elim (numeral.notMem (by decide)) (by decide)

/-- A time up to `2 ^ 53` reads back, with a place or without one. -/
theorem wholeTime?_of_millisecondsText {value : Int} {cell : String}
    (small : value.natAbs ≤ 2 ^ 53) (given : millisecondsText value = .ok cell) :
    wholeTime? cell = some value := by
  obtain ⟨numeral, isNumeral, shown, reads⟩ : ∃ numeral, IsNumeralText numeral ∧
      cell = numeral ++ "ms" ∧ readBinary64? numeral.toList = some (.ofInt value) := by
    refine ⟨_, Binary64.isNumeralText_fixedText _ _, eq_of_millisecondsText given, ?_⟩
    split
    · next below => exact readBinary64?_fixedText_one value below
    · rw [fixedText_zero_ofInt value small]
      exact readBinary64?_whole value small
  have number : beforeUnit? "ms" (numeral ++ "ms") = some numeral.toList :=
    beforeUnit?_append (isNumeral.notMem (by decide)) ['s']
  rw [shown, wholeTime?, number]
  simp [reads, toRat?_ofInt value small]

/-! ### Entries -/

/-- What the cells of a row tell about a mode. -/
structure PageEntry where
  name : String
  total : Int
  percent : Int
  runtime : Int
  host : Int
  web : Int
  app : Int
  dropped : Int
  significance : String
  deriving DecidableEq, Repr

namespace PageEntry

/-- What nine cells tell. -/
def read? : List String → Option PageEntry
  | [name, total, percent, runtime, host, web, app, dropped, significance] => do
    return {
      name := unescapePage name
      total := ← wholeTime? total
      percent := ← wholePercent? percent
      runtime := ← wholeTime? runtime
      host := ← wholeTime? host
      web := ← wholeTime? web
      app := ← wholeTime? app
      dropped := ← dropped.toInt?
      significance := unescapePage significance }
  | _ => none

theorem length_of_read? {cells : List String} {entry : PageEntry}
    (told : read? cells = some entry) : cells.length = 9 := by
  unfold read? at told
  split at told
  · rfl
  · cases told

/-- The entry tells mean times, and the percentage of the total. -/
structure Shows (entry : PageEntry) (deltas baseline : PhaseDeltas) (dropped : Int)
    (name : String) : Prop where
  name : entry.name = name
  total : entry.total = deltas.total
  percent : percentage deltas.total baseline.total = .ok entry.percent
  runtime : entry.runtime = deltas.runtime
  host : entry.host = deltas.host
  web : entry.web = deltas.web
  app : entry.app = deltas.app
  dropped : entry.dropped = dropped

/-- The entry tells the same as a row of the summary. -/
structure AgreesWith (entry : PageEntry) (told : SummaryEntry) : Prop where
  name : entry.name = told.name
  total : entry.total = told.total.value
  percent : entry.percent = told.total.percent
  runtime : entry.runtime = told.runtime.value
  host : entry.host = told.host.value
  web : entry.web = told.web.value
  app : entry.app = told.app.value
  dropped : entry.dropped = told.dropped

/-- A page and a summary that show the same mean times agree. -/
theorem Shows.agreesWith {entry : PageEntry} {told : SummaryEntry} {deltas baseline : PhaseDeltas}
    {dropped : Int} {name : String} (shows : entry.Shows deltas baseline dropped name)
    (row : told.Shows deltas baseline dropped name) : entry.AgreesWith told where
  name := shows.name.trans row.name.symm
  total := shows.total.trans row.total.value.symm
  percent := Except.ok.inj (shows.percent.symm.trans row.total.percent)
  runtime := shows.runtime.trans row.runtime.value.symm
  host := shows.host.trans row.host.value.symm
  web := shows.web.trans row.web.value.symm
  app := shows.app.trans row.app.value.symm
  dropped := shows.dropped.trans row.dropped.symm

/-- The entry shows a mode against the first one. -/
def ShowsMode (entry : PageEntry) (mode first : ModeStatistics) : Prop :=
  entry.Shows (.ofStatistics mode) (.ofStatistics first) mode.dropped mode.mode.name

end PageEntry

/-! ### Rows -/

theorem opens_numberCell (rows : List (List String)) :
    PageReading.read ⟨rows, .text⟩ "        <td class=\"numeric-cell\">" = ⟨rows, .cell []⟩ := by
  rw [PageReading.read, String.toList_ofList]
  rfl

theorem reads_numberCell {content : String} (plain : '<' ∉ content.toList) :
    Reads (numberCell content) (addCell content) :=
  .cell opens_numberCell plain

theorem reads_nameCell (describe name : String) :
    Reads ("        <td title=\"" ++ escapePage describe ++ "\">" ++ escapePage name ++ "</td>")
      (addCell (escapePage name)) := by
  refine .cell (fun rows => ?_) (notMem_escapePage (by decide) name)
  have opens : PageReading.read ⟨rows, .text⟩ "        <td title=\"" =
      ⟨rows, .tag "td title=\"".toList⟩ := by
    rw [PageReading.read, String.toList_ofList, String.toList_ofList]
    rfl
  rw [PageReading.read_attribute opens (notMem_escapePage (by decide) describe),
    String.toList_ofList]
  rfl

theorem append_percent (opening number : String) :
    opening ++ number ++ "%</td>" = opening ++ (number ++ "%") ++ "</td>" := by
  have unit : "%</td>" = "%" ++ "</td>" := by decide
  rw [unit]
  simp only [String.append_assoc]

theorem notMem_percent (share : Int) : '<' ∉ (integerText share ++ "%").toList := by
  rw [String.toList_append]
  exact fun member => (List.mem_append.mp member).elim
    ((isNumeralText_integerText share).notMem (by decide)) (by decide)

theorem reads_percentCell (share : Int) :
    Reads ("        <td class=\"numeric-cell " ++ shareClass share ++ "\">" ++ integerText share ++
      "%</td>") (addCell (integerText share ++ "%")) := by
  have unended : '>' ∉ (shareClass share).toList := by
    rw [shareClass]
    split_ifs <;> decide
  rw [append_percent]
  refine .cell (fun rows => ?_) (notMem_percent share)
  have opens : PageReading.read ⟨rows, .text⟩ "        <td class=\"numeric-cell " =
      ⟨rows, .tag "td class=\"numeric-cell ".toList⟩ := by
    rw [PageReading.read, String.toList_ofList, String.toList_ofList]
    rfl
  rw [PageReading.read_attribute opens unended, String.toList_ofList]
  rfl

theorem reads_significanceCell (significance : String) :
    Reads ("        <td class=\"significance-cell\">" ++ escapePage significance ++ "</td>")
      (addCell (escapePage significance)) := by
  refine .cell (fun rows => ?_) (notMem_escapePage (by decide) significance)
  rw [PageReading.read, String.toList_ofList]
  rfl

theorem reads_bar (width : Binary64) :
    Reads ("      <tr class=\"bar-row\"><td colspan=\"9\"><div class=\"bar\" style=\"width: " ++
      width.fixedText 1 ++ "%\"></div></td></tr>") ([""] :: ·) := by
  intro rows
  have unended : '>' ∉ (width.fixedText 1).toList :=
    (Binary64.isNumeralText_fixedText _ _).notMem (by decide)
  have opens : PageReading.read ⟨rows, .text⟩
      "      <tr class=\"bar-row\"><td colspan=\"9\"><div class=\"bar\" style=\"width: " =
      ⟨[""] :: rows, .tag "div class=\"bar\" style=\"width: ".toList⟩ := by
    rw [PageReading.read, String.toList_ofList, String.toList_ofList]
    rfl
  rw [PageReading.read_append, PageReading.read_append, opens, PageReading.read_tag unended,
    PageReading.read, String.toList_ofList, String.toList_ofList]
  rfl

theorem forall_mem_values_iff {deltas : PhaseDeltas} {good : Int → Prop} :
    (∀ value ∈ deltas.values, good value) ↔ good deltas.total ∧ good deltas.runtime ∧
      good deltas.host ∧ good deltas.web ∧ good deltas.app := by
  simp [PhaseDeltas.values]

/-- The texts that a row is made of, besides what is known of its mode. -/
structure RowTexts where
  total : String
  percent : Int
  runtime : String
  host : String
  web : String
  app : String
  significance : String
  width : Binary64

namespace RowTexts

/-- The lines of the row of a mode and of the row of its bar. -/
def lines (texts : RowTexts) (mode : ModeStatistics) : List String := [
  "",
  "      <tr>",
  "        <td title=\"" ++ escapePage mode.mode.describe ++ "\">" ++
    escapePage mode.mode.name ++ "</td>",
  numberCell texts.total,
  "        <td class=\"numeric-cell " ++ shareClass texts.percent ++ "\">" ++
    integerText texts.percent ++ "%</td>",
  numberCell texts.runtime,
  numberCell texts.host,
  numberCell texts.web,
  numberCell texts.app,
  numberCell (integerText mode.dropped),
  "        <td class=\"significance-cell\">" ++ escapePage texts.significance ++ "</td>",
  "      </tr>",
  "      <tr class=\"bar-row\"><td colspan=\"9\"><div class=\"bar\" style=\"width: " ++
    texts.width.fixedText 1 ++ "%\"></div></td></tr>"]

/-- The cells of the row of a mode. -/
def cells (texts : RowTexts) (mode : ModeStatistics) : List String :=
  [escapePage mode.mode.name, texts.total, integerText texts.percent ++ "%", texts.runtime,
    texts.host, texts.web, texts.app, integerText mode.dropped, escapePage texts.significance]

/-- The texts show mean times. -/
structure Shows (texts : RowTexts) (deltas : PhaseDeltas) : Prop where
  total : millisecondsText deltas.total = .ok texts.total
  runtime : millisecondsText deltas.runtime = .ok texts.runtime
  host : millisecondsText deltas.host = .ok texts.host
  web : millisecondsText deltas.web = .ok texts.web
  app : millisecondsText deltas.app = .ok texts.app

/-- The row of a mode is read as its cells, and that of its bar as an empty one. -/
theorem Shows.reads {texts : RowTexts} {deltas : PhaseDeltas} (shows : texts.Shows deltas)
    (mode : ModeStatistics) :
    Reads (joinLines (texts.lines mode)) fun rows => [""] :: texts.cells mode :: rows := by
  have dropped : '<' ∉ (integerText mode.dropped).toList :=
    (isNumeralText_integerText mode.dropped).notMem (by decide)
  have opens : Reads "      <tr>" ([] :: ·) := fun rows => by
    rw [PageReading.read, String.toList_ofList]
    rfl
  have closes : Reads "      </tr>" id := fun rows => by
    rw [PageReading.read, String.toList_ofList]
    rfl
  have lines : List.Forall₂ Reads (texts.lines mode) [id, ([] :: ·),
      addCell (escapePage mode.mode.name), addCell texts.total,
      addCell (integerText texts.percent ++ "%"), addCell texts.runtime, addCell texts.host,
      addCell texts.web, addCell texts.app, addCell (integerText mode.dropped),
      addCell (escapePage texts.significance), id, ([""] :: ·)] :=
    .cons (.text (by decide)) <| .cons opens <| .cons (reads_nameCell _ _) <|
      .cons (reads_numberCell (notMem_millisecondsText shows.total)) <|
      .cons (reads_percentCell _) <|
      .cons (reads_numberCell (notMem_millisecondsText shows.runtime)) <|
      .cons (reads_numberCell (notMem_millisecondsText shows.host)) <|
      .cons (reads_numberCell (notMem_millisecondsText shows.web)) <|
      .cons (reads_numberCell (notMem_millisecondsText shows.app)) <|
      .cons (reads_numberCell dropped) <| .cons (reads_significanceCell _) <|
      .cons closes <| .cons (reads_bar _) .nil
  exact Reads.joinLines lines

/-- The cells of a mode read back. -/
theorem Shows.read?_cells {texts : RowTexts} {deltas : PhaseDeltas} (shows : texts.Shows deltas)
    (small : ∀ value ∈ deltas.values, value.natAbs ≤ 2 ^ 53) (mode : ModeStatistics) :
    PageEntry.read? (texts.cells mode) = some {
      name := mode.mode.name
      total := deltas.total
      percent := texts.percent
      runtime := deltas.runtime
      host := deltas.host
      web := deltas.web
      app := deltas.app
      dropped := mode.dropped
      significance := texts.significance } := by
  obtain ⟨total, runtime, host, web, app⟩ := forall_mem_values_iff.mp small
  have dropped : (integerText mode.dropped).toInt? = some mode.dropped := Int.toInt?_repr _
  rw [cells, PageEntry.read?]
  simp [wholeTime?_of_millisecondsText total shows.total,
    wholeTime?_of_millisecondsText runtime shows.runtime,
    wholeTime?_of_millisecondsText host shows.host, wholeTime?_of_millisecondsText web shows.web,
    wholeTime?_of_millisecondsText app shows.app, wholePercent?_append, dropped,
    unescapePage_escapePage]

end RowTexts

namespace PageContext

/-- What a row says of the difference from the baseline. -/
def significance (context : PageContext) (mode : ModeStatistics) (isBaseline : Bool) :
    Except NumberFault String :=
  if isBaseline then pure "baseline"
  else (compareTotals context.baseline mode context.level context.test).map (·.label)

/-- The texts of the row of a mode. -/
def texts (context : PageContext) (mode : ModeStatistics) (isBaseline : Bool) :
    Except NumberFault RowTexts := do
  let deltas := PhaseDeltas.ofStatistics mode
  let percent ← percentage deltas.total (PhaseDeltas.ofStatistics context.baseline).total
  let width ← barWidth deltas.total context.longest
  let significance ← context.significance mode isBaseline
  let total ← millisecondsText deltas.total
  let runtime ← millisecondsText deltas.runtime
  let host ← millisecondsText deltas.host
  let web ← millisecondsText deltas.web
  let app ← millisecondsText deltas.app
  return { total, percent, runtime, host, web, app, significance, width }

theorem row_eq (context : PageContext) (mode : ModeStatistics) (isBaseline : Bool) :
    context.row mode isBaseline =
      (fun texts => joinLines (texts.lines mode)) <$> context.texts mode isBaseline := by
  rw [texts]
  simp only [map_bind, map_pure]
  cases isBaseline <;> rfl

/-- What the texts of a row are about. -/
theorem shows_of_texts {context : PageContext} {mode : ModeStatistics} {isBaseline : Bool}
    {texts : RowTexts} (given : context.texts mode isBaseline = .ok texts) :
    texts.Shows (.ofStatistics mode) ∧
      percentage (PhaseDeltas.ofStatistics mode).total
        (PhaseDeltas.ofStatistics context.baseline).total = .ok texts.percent ∧
      context.significance mode isBaseline = .ok texts.significance := by
  obtain ⟨percent, isPercent, rest⟩ := (bind_eq_ok_iff _ _ _).mp given
  obtain ⟨width, -, rest⟩ := (bind_eq_ok_iff _ _ _).mp rest
  obtain ⟨significance, isSignificance, rest⟩ := (bind_eq_ok_iff _ _ _).mp rest
  obtain ⟨total, isTotal, rest⟩ := (bind_eq_ok_iff _ _ _).mp rest
  obtain ⟨runtime, isRuntime, rest⟩ := (bind_eq_ok_iff _ _ _).mp rest
  obtain ⟨host, isHost, rest⟩ := (bind_eq_ok_iff _ _ _).mp rest
  obtain ⟨web, isWeb, rest⟩ := (bind_eq_ok_iff _ _ _).mp rest
  obtain ⟨app, isApp, rest⟩ := (bind_eq_ok_iff _ _ _).mp rest
  obtain rfl := Except.ok.inj rest
  exact ⟨⟨isTotal, isRuntime, isHost, isWeb, isApp⟩, isPercent, isSignificance⟩

/-- The row of a page is read as one that tells an entry about a mode, and the row of a bar. -/
structure Tells (context : PageContext) (isBaseline : Bool) (mode : ModeStatistics) (row : String)
    (entry : PageEntry) : Prop where
  reads : ∃ cells, PageEntry.read? cells = some entry ∧
    Reads row fun rows => [""] :: cells :: rows
  shows : entry.ShowsMode mode context.baseline
  significance : context.significance mode isBaseline = .ok entry.significance

theorem exists_entry_of_row {context : PageContext} {isBaseline : Bool} {mode : ModeStatistics}
    {row : String}
    (small : ∀ value ∈ (PhaseDeltas.ofStatistics mode).values, value.natAbs ≤ 2 ^ 53)
    (given : context.row mode isBaseline = .ok row) :
    ∃ entry, context.Tells isBaseline mode row entry := by
  rw [row_eq] at given
  obtain ⟨texts, isTexts, rfl⟩ := (map_eq_ok_iff _ _ _).mp given
  obtain ⟨shows, percent, significance⟩ := shows_of_texts isTexts
  exact ⟨_, {
    reads := ⟨_, shows.read?_cells small mode, shows.reads mode⟩
    shows := ⟨rfl, rfl, percent, rfl, rfl, rfl, rfl, rfl⟩
    significance }⟩

end PageContext

end ColdStart
