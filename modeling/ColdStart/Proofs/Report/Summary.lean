/-
This file reads the summary of a report back. Every row tells twelve things, and they
are found again by cutting it at its separators, even when the name at its end has
separators of its own. What they tell of a record is stated over its samples: means
with the fraction dropped, and their percentages of those of the first record.
-/

import ColdStart.Proofs.Number.Places
import ColdStart.Proofs.Report.Range
import ColdStart.Proofs.Report.Sections
import Std.Data.String.ToInt

namespace ColdStart

/-! ### Columns -/

/-- The integer that a column shows, blanks around it dropped. -/
def integerOfColumn? (column : List Char) : Option Int :=
  (String.ofList (trimWhere (· = ' ') column)).toInt?

/-- A mark that no number is written with occurs in no column. -/
theorem notMem_padLeft_integerText {mark : Char} (foreign : ¬ IsNumeralMark mark)
    (notBlank : mark ≠ ' ') (width : Nat) (value : Int) :
    mark ∉ (padLeft width (integerText value)).toList := by
  rw [padLeft, String.toList_append, String.toList_ofList, List.mem_append]
  rintro (padding | number)
  · exact notBlank (List.eq_of_mem_replicate padding)
  · exact (isNumeralText_integerText value).notMem foreign number

/-- An integer reads back from its column. -/
theorem integerOfColumn?_padLeft (width : Nat) (value : Int) :
    integerOfColumn? (padLeft width (integerText value)).toList = some value := by
  have keeps : ∀ character ∈ (integerText value).toList, decide (character = ' ') = false := by
    intro character member
    have noBlank := (isNumeralText_integerText value).notMem (show ¬ IsNumeralMark ' ' by decide)
    exact decide_eq_false fun blank => noBlank (blank ▸ member)
  have trimmed : trimWhere (· = ' ') (padLeft width (integerText value)).toList =
      (integerText value).toList := by
    have bare : trimWhere (· = ' ') (List.replicate (width - (integerText value).length) ' ' ++
        (integerText value).toList ++ []) = (integerText value).toList :=
      trimWhere_append
        (fun character member => decide_eq_true (List.eq_of_mem_replicate member)) (by simp)
        (fun first isFirst => keeps first (List.mem_of_mem_head? isFirst))
        (fun final isLast => keeps final (List.mem_of_mem_getLast? isLast))
    rw [padLeft, String.toList_append, String.toList_ofList]
    rwa [List.append_nil] at bare
  rw [integerOfColumn?, trimmed, String.ofList_toList]
  exact Int.toInt?_repr value

/-! ### Rows -/

/-- A number in two columns: itself, and in percent of the same number of the baseline. -/
structure Share where
  value : Int
  percent : Int
  deriving DecidableEq, Repr

/-- What a row of the summary tells. -/
structure SummaryEntry where
  total : Share
  runtime : Share
  host : Share
  web : Share
  app : Share
  dropped : Int
  name : String
  deriving DecidableEq, Repr

/-- The columns of a number and its percentage. -/
def Share.columns (share : Share) (width : Nat) : List String :=
  [padLeft width (integerText share.value), padLeft 3 (integerText share.percent)]

/-- The number of two columns. -/
def Share.read? (value percent : List Char) : Option Share := do
  return { value := ← integerOfColumn? value, percent := ← integerOfColumn? percent }

/-- What stands between two columns. -/
def columnSeparator : String := " | "

/-- A row is cut into its columns and what follows them, which may hold anything. -/
theorem splitUpTo_columns {columns : List String} (clean : ∀ column ∈ columns, '|' ∉ column.toList)
    (last : String) :
    splitUpTo columnSeparator.toList columns.length
      (columnSeparator.intercalate (columns ++ [last])).toList =
        (columns ++ [last]).map String.toList := by
  have cleanCharacters : ∀ column ∈ columns.map String.toList, '|' ∉ column :=
    List.forall_mem_map.mpr clean
  have front : '|' ∉ [' '] := by decide
  have cut := splitUpTo_intercalate front [' '] cleanCharacters last.toList
  rw [List.length_map] at cut
  rw [String.toList_intercalate, List.map_append]
  exact cut

namespace SummaryEntry

/-- All columns of a row but the name. -/
def columns (entry : SummaryEntry) : List String :=
  entry.total.columns 5 ++ entry.runtime.columns 7 ++ entry.host.columns 7 ++
    entry.web.columns 7 ++ entry.app.columns 7 ++ [padLeft 7 (integerText entry.dropped)]

/-- The row that tells the entry. -/
def row (entry : SummaryEntry) : String :=
  columnSeparator.intercalate (entry.columns ++ [entry.name])

/-- What a row tells: it is cut at its first eleven separators, and what follows is the name. -/
def read? (row : String) : Option SummaryEntry :=
  match splitUpTo columnSeparator.toList 11 row.toList with
  | [total, totalPercent, runtime, runtimePercent, host, hostPercent, web, webPercent, app,
      appPercent, dropped, name] => do
    return {
      total := ← Share.read? total totalPercent
      runtime := ← Share.read? runtime runtimePercent
      host := ← Share.read? host hostPercent
      web := ← Share.read? web webPercent
      app := ← Share.read? app appPercent
      dropped := ← integerOfColumn? dropped
      name := String.ofList name }
  | _ => none

theorem notMem_columns {mark : Char} (foreign : ¬ IsNumeralMark mark) (notBlank : mark ≠ ' ')
    (entry : SummaryEntry) : ∀ column ∈ entry.columns, mark ∉ column.toList := by
  intro column member
  simp only [columns, Share.columns, List.cons_append, List.nil_append, List.mem_cons,
    List.not_mem_nil, or_false] at member
  rcases member with rfl | rfl | rfl | rfl | rfl | rfl | rfl | rfl | rfl | rfl | rfl <;>
    exact notMem_padLeft_integerText foreign notBlank _ _

/-- Every entry reads back from its row, whatever its name. -/
theorem read?_row (entry : SummaryEntry) : read? entry.row = some entry := by
  have cut : splitUpTo columnSeparator.toList 11 entry.row.toList =
      (entry.columns ++ [entry.name]).map String.toList :=
    splitUpTo_columns (notMem_columns (by decide) (by decide) entry) entry.name
  rw [read?, cut]
  simp [columns, Share.columns, Share.read?, integerOfColumn?_padLeft, String.ofList_toList]

theorem isRow_row {entry : SummaryEntry} (single : '\n' ∉ entry.name.toList) :
    IsRow entry.row := by
  constructor
  · intro empty
    have nothing := read?_row entry
    rw [empty] at nothing
    cases nothing
  · intro member
    rcases mem_intercalate member with between | ⟨text, isText, inside⟩
    · exact absurd between (by decide)
    · rcases List.mem_append.mp isText with isColumn | isName
      · exact notMem_columns (by decide) (by decide) entry text isColumn inside
      · rw [List.mem_singleton.mp isName] at inside
        exact single inside

end SummaryEntry

/-! ### What rows tell -/

/-- The share shows a number and its percentage of a baseline. -/
structure Share.IsOf (share : Share) (number baseline : Int) : Prop where
  value : share.value = number
  percent : percentage number baseline = .ok share.percent

/-- The entry shows the mean times of a mode against those of a baseline. -/
structure SummaryEntry.Shows (entry : SummaryEntry) (deltas baseline : PhaseDeltas)
    (dropped : Int) (name : String) : Prop where
  total : entry.total.IsOf deltas.total baseline.total
  runtime : entry.runtime.IsOf deltas.runtime baseline.runtime
  host : entry.host.IsOf deltas.host baseline.host
  web : entry.web.IsOf deltas.web baseline.web
  app : entry.app.IsOf deltas.app baseline.app
  dropped : entry.dropped = dropped
  name : entry.name = name

theorem exists_share_of_shareColumns {width : Nat} {number baseline : Int} {columns : List String}
    (given : shareColumns width number baseline = .ok columns) :
    ∃ share : Share, share.IsOf number baseline ∧ columns = share.columns width := by
  obtain ⟨percent, isPercent, rest⟩ := (bind_eq_ok_iff _ _ _).mp given
  cases rest
  exact ⟨{ value := number, percent }, ⟨rfl, isPercent⟩, rfl⟩

/-- A row of the summary tells an entry. -/
theorem exists_entry_of_summaryRow {deltas baseline : PhaseDeltas} {dropped : Int}
    {name row : String} (given : summaryRow deltas baseline dropped name = .ok row) :
    ∃ entry : SummaryEntry, entry.Shows deltas baseline dropped name ∧ row = entry.row := by
  obtain ⟨_, totalGiven, rest⟩ := (bind_eq_ok_iff _ _ _).mp given
  obtain ⟨_, runtimeGiven, rest⟩ := (bind_eq_ok_iff _ _ _).mp rest
  obtain ⟨_, hostGiven, rest⟩ := (bind_eq_ok_iff _ _ _).mp rest
  obtain ⟨_, webGiven, rest⟩ := (bind_eq_ok_iff _ _ _).mp rest
  obtain ⟨_, appGiven, rest⟩ := (bind_eq_ok_iff _ _ _).mp rest
  obtain ⟨total, isTotal, rfl⟩ := exists_share_of_shareColumns totalGiven
  obtain ⟨runtime, isRuntime, rfl⟩ := exists_share_of_shareColumns runtimeGiven
  obtain ⟨host, isHost, rfl⟩ := exists_share_of_shareColumns hostGiven
  obtain ⟨web, isWeb, rfl⟩ := exists_share_of_shareColumns webGiven
  obtain ⟨app, isApp, rfl⟩ := exists_share_of_shareColumns appGiven
  refine ⟨{ total, runtime, host, web, app, dropped, name },
    ⟨isTotal, isRuntime, isHost, isWeb, isApp, rfl, rfl⟩, ?_⟩
  rw [SummaryEntry.row, SummaryEntry.columns, List.append_assoc, List.singleton_append]
  exact (Except.ok.inj rest).symm

/-- The entry shows a mode against the first one. -/
def SummaryEntry.ShowsMode (entry : SummaryEntry) (mode first : ModeStatistics) : Prop :=
  entry.Shows (.ofStatistics mode) (.ofStatistics first) mode.dropped mode.mode.name

/-- The rows of a summary tell its modes in order. -/
theorem forall₂_of_summaryRows {first : ModeStatistics} {others : List ModeStatistics}
    {rows : List String} (given : summaryRows (first :: others) = .ok rows) :
    List.Forall₂ (fun mode row => ∃ entry : SummaryEntry, entry.ShowsMode mode first ∧
      row = entry.row) (first :: others) rows :=
  ((mapM_eq_ok_iff _ _ _).mp given).imp fun _ _ => exists_entry_of_summaryRow

/-- The table of a report has one row a mode, and each tells its mode against the first. -/
theorem summaryTable_of_renderReport {first : ModeStatistics} {others : List ModeStatistics}
    {level : Binary64} {test : RankTest} {report : String}
    (single : ∀ mode ∈ first :: others, '\n' ∉ mode.mode.name.toList)
    (rendered : renderReport (first :: others) level test = .ok report) :
    (∃ rest, textLines report = summaryLines (summaryTable report) ++ "" :: rest) ∧
      List.Forall₂ (fun mode row => ∃ entry, SummaryEntry.read? row = some entry ∧
        entry.ShowsMode mode first) (first :: others) (summaryTable report) := by
  rw [renderReport_eq] at rendered
  obtain ⟨rows, rowsGiven, rest⟩ := (bind_eq_ok_iff _ _ _).mp rendered
  obtain ⟨later, -, rest⟩ := (bind_eq_ok_iff _ _ _).mp rest
  cases rest
  have told := forall₂_of_summaryRows rowsGiven
  have areRows : ∀ row ∈ rows, IsRow row := by
    intro row isRow
    obtain ⟨mode, isMode, entry, shows, rfl⟩ := exists_of_forall₂_of_mem told isRow
    exact SummaryEntry.isRow_row (shows.name ▸ single mode isMode)
  rw [summaryTable_reportText areRows]
  refine ⟨textLines_reportText areRows _ _, told.imp ?_⟩
  rintro mode row ⟨entry, shows, rfl⟩
  exact ⟨entry, SummaryEntry.read?_row entry, shows⟩

/-! ### Records -/

namespace Record

/-- The mean total time of a phase, its fraction dropped; zero if the phase has no samples. -/
def mean (record : Record) (phase : String) : Int :=
  let times := (record.samplesOf phase).map (·.total)
  if times = [] then 0 else times.sum.tdiv times.length

/-- The mean times of a record: the whole time, the time to the runtime's start, and what each
later phase adds to the phase before. -/
def deltas (record : Record) : PhaseDeltas :=
  { total := record.mean appPhase
    runtime := record.mean runtimePhase
    host := record.mean hostPhase - record.mean runtimePhase
    web := record.mean webPhase - record.mean hostPhase
    app := record.mean appPhase - record.mean webPhase }

theorem average_ofRecord (record : Record) (phase : String) :
    ((ModeStatistics.ofRecord record).phase phase).total.average = record.mean phase := by
  rw [total_phase_ofRecord, Series.average, Series.divisor, Series.sum_ofList,
    Series.count_ofList, mean]
  cases (record.samplesOf phase).map (·.total) with
  | nil => rfl
  | cons time times => rw [if_neg (List.cons_ne_nil _ _), Nat.max_eq_left (by simp)]

theorem ofStatistics_ofRecord (record : Record) :
    PhaseDeltas.ofStatistics (.ofRecord record) = record.deltas := by
  rw [PhaseDeltas.ofStatistics, deltas]
  simp only [average_ofRecord]

end Record

/-- The phases of a row add up to its total. -/
theorem SummaryEntry.Shows.sum_eq_total {entry : SummaryEntry} {record : Record}
    {baseline : PhaseDeltas} {dropped : Int} {name : String}
    (shows : entry.Shows record.deltas baseline dropped name) :
    entry.runtime.value + entry.host.value + entry.web.value + entry.app.value =
      entry.total.value := by
  rw [shows.runtime.value, shows.host.value, shows.web.value, shows.app.value,
    shows.total.value]
  simp only [Record.deltas]
  omega

/-- The summary of a report tells every record by one row, in order: the means of its total
times, what each phase adds to the one before it, and their percentages of the first record. The
phases add up to the total, whichever of them have samples. -/
theorem summaryTable_of_records {first : Record} {others : List Record} {level : Binary64}
    {test : RankTest} {report : String}
    (single : ∀ record ∈ first :: others, '\n' ∉ record.mode.name.toList)
    (rendered : renderReport ((first :: others).map .ofRecord) level test = .ok report) :
    (∃ rest, textLines report = summaryLines (summaryTable report) ++ "" :: rest) ∧
      List.Forall₂ (fun record row => ∃ entry, SummaryEntry.read? row = some entry ∧
        entry.Shows record.deltas first.deltas record.dropped record.mode.name ∧
        entry.runtime.value + entry.host.value + entry.web.value + entry.app.value =
          entry.total.value) (first :: others) (summaryTable report) := by
  have singleModes : ∀ mode ∈ (first :: others).map ModeStatistics.ofRecord,
      '\n' ∉ mode.mode.name.toList := by
    intro mode isMode
    obtain ⟨record, isRecord, rfl⟩ := List.mem_map.mp isMode
    exact single record isRecord
  obtain ⟨heading, told⟩ := summaryTable_of_renderReport singleModes rendered
  rw [← List.map_cons, List.forall₂_map_left_iff] at told
  refine ⟨heading, told.imp ?_⟩
  rintro record row ⟨entry, readBack, shows⟩
  rw [SummaryEntry.ShowsMode, Record.ofStatistics_ofRecord, Record.ofStatistics_ofRecord] at shows
  exact ⟨entry, readBack, shows, shows.sum_eq_total⟩

/-- A record with samples of all phases. -/
def completeRecord : Record where
  mode := { name := "baseline", readyToRun := true }
  samples := [⟨"RUNTIME", 30, 20, 4⟩, ⟨"APPHOST-INIT", 41, 25, 5⟩,
    ⟨"WEBHOST-START-ASYNC", 90, 60, 8⟩, ⟨"APP", 115, 80, 9⟩, ⟨"APP", 120, 84, 9⟩]

/-- A record that lacks the phases in the middle, of a mode whose name has a separator in it. -/
def incompleteRecord : Record where
  mode := { name := "tiered | quick" }
  samples := [⟨"APP", 230, 190, 12⟩, ⟨"RUNTIME", 33, 22, 4⟩]
  dropped := 1

theorem summaryTable_of_records_incompleteRecord :
    ∃ report, renderReport ([completeRecord, incompleteRecord].map .ofRecord)
        (.ofRatio false 1 20) = .ok report ∧
      List.Forall₂ (fun record row => ∃ entry, SummaryEntry.read? row = some entry ∧
        entry.Shows record.deltas completeRecord.deltas record.dropped record.mode.name ∧
        entry.runtime.value + entry.host.value + entry.web.value + entry.app.value =
          entry.total.value) [completeRecord, incompleteRecord] (summaryTable report) := by
  have summary : HasSummary ([completeRecord, incompleteRecord].map .ofRecord) := by
    decide +kernel
  obtain ⟨report, rendered⟩ :=
    exists_renderReport (.ofRatio false 1 20) (by decide +kernel) summary
  exact ⟨report, rendered, (summaryTable_of_records (by decide) rendered).2⟩

end ColdStart
