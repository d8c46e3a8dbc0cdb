/-
This file says when a report and a page can be made. Every time that was read is
below the limit of the doubles, and so is every mean of such times, so samples and
medians never fail. What can fail are the differences between means, which may be
twice as large, and percentages, in which they are multiplied by a hundred. A
report needs the share of every mean time to be below the limit, and a page needs
every mean time itself to be.
-/

import ColdStart.Proofs.Document.Acceptance
import ColdStart.Proofs.Number.Range
import ColdStart.Proofs.Report.Statistics
import ColdStart.Report.Page

namespace ColdStart

/-! ### Times and means -/

/-- The total times of a record are below the limit. -/
def Record.InRange (record : Record) : Prop :=
  ∀ sample ∈ record.samples, sample.total.natAbs < Binary64.limit

instance (record : Record) : Decidable record.InRange :=
  inferInstanceAs (Decidable (∀ sample ∈ record.samples, sample.total.natAbs < Binary64.limit))

/-- The samples of a phase and their mean are below the limit, whatever the phase. -/
structure ModeStatistics.InRange (statistics : ModeStatistics) : Prop where
  samples : ∀ phase, ∀ value ∈ (statistics.phase phase).total.samples,
    value.natAbs < Binary64.limit
  average : ∀ phase, (statistics.phase phase).total.average.natAbs < Binary64.limit

/-- The times of a document are below the limit. -/
theorem inRange_of_readDocument {parse : XmlParser} {text : String} {records : List Record}
    (read : readDocumentWith parse text = .ok records) : ∀ record ∈ records, record.InRange := by
  obtain ⟨root, -, related⟩ := (readDocumentWith_eq_ok_iff _ _ _).mp read
  intro record isRecord sample isSample
  obtain ⟨node, -, described⟩ := exists_of_forall₂_of_mem related isRecord
  obtain ⟨results, -, holds⟩ := described.results
  obtain ⟨timing, -, isTiming⟩ := exists_of_forall₂_of_mem holds.samples isSample
  obtain ⟨child, -, said⟩ := isTiming.total
  exact natAbs_lt_limit_of_saysTime said

theorem Record.InRange.ofRecord {record : Record} (inRange : record.InRange) :
    (ModeStatistics.ofRecord record).InRange := by
  have times (phase : String) : ∀ value ∈ (record.samplesOf phase).map (·.total),
      value.natAbs < Binary64.limit := by
    intro value member
    obtain ⟨sample, isSample, rfl⟩ := List.mem_map.mp member
    exact inRange sample (List.mem_of_mem_filter isSample)
  constructor
  · intro phase
    rw [total_phase_ofRecord, Series.samples_ofList]
    exact times phase
  · intro phase
    rw [total_phase_ofRecord]
    have most := Series.natAbs_average_le _ fun value member =>
      Nat.le_pred_of_lt (times phase value member)
    exact Nat.lt_of_le_pred (lt_of_lt_of_le (by positivity) Binary64.two_pow_le_limit) most

/-! ### Comparisons -/

theorem givenIf_exactDoubles {series : Series}
    (bounded : ∀ value ∈ series.samples, value.natAbs < Binary64.limit) :
    GivenIf True series.exactDoubles :=
  (GivenIf.mapM series.samples fun value _ => (givenIf_wholeToBinary64 value).map _).congr
    (iff_true_intro bounded)

theorem givenIf_median {series : Series}
    (bounded : ∀ value ∈ series.samples, value.natAbs < Binary64.limit) :
    GivenIf True series.median := by
  refine ((GivenIf.mapM series.sorted fun value _ => givenIf_wholeToBinary64 value).map _).congr ?_
  refine iff_true_intro fun value member => bounded value ?_
  exact (List.mergeSort_perm _ _).mem_iff.mp member

variable {test : RankTest}

/-- Times below the limit can always be compared. -/
theorem givenIf_compareTotals {baseline candidate : ModeStatistics} (level : Binary64)
    (baselineInRange : baseline.InRange) (inRange : candidate.InRange) :
    GivenIf True (compareTotals baseline candidate level test) := by
  have first := baselineInRange.samples appPhase
  have second := inRange.samples appPhase
  refine (givenIf_exactDoubles first).follow fun _ => (givenIf_exactDoubles second).follow fun _ =>
    (givenIf_median first).follow fun _ => (givenIf_median second).follow fun _ => ?_
  exact .pure _

/-! ### The report -/

/-- The mean times, in the order in which they are shown. -/
def PhaseDeltas.values (deltas : PhaseDeltas) : List Int :=
  [deltas.total, deltas.runtime, deltas.host, deltas.web, deltas.app]

/-- Every mean time has a share of that of a baseline. -/
def PhaseDeltas.HasShares (deltas baseline : PhaseDeltas) : Prop :=
  List.Forall₂ HasShare deltas.values baseline.values

instance : DecidableRel PhaseDeltas.HasShares := fun deltas baseline =>
  inferInstanceAs (Decidable (List.Forall₂ HasShare deltas.values baseline.values))

theorem givenIf_shareColumns (width : Nat) (number baseline : Int) :
    GivenIf (HasShare number baseline) (shareColumns width number baseline) :=
  (givenIf_percentage number baseline).before fun _ => .pure _

theorem givenIf_summaryRow (deltas baseline : PhaseDeltas) (dropped : Int) (name : String) :
    GivenIf (deltas.HasShares baseline) (summaryRow deltas baseline dropped name) := by
  have row := (givenIf_shareColumns 5 deltas.total baseline.total).bind fun total =>
    (givenIf_shareColumns 7 deltas.runtime baseline.runtime).bind fun runtime =>
    (givenIf_shareColumns 7 deltas.host baseline.host).bind fun host =>
    (givenIf_shareColumns 7 deltas.web baseline.web).bind fun web =>
    (givenIf_shareColumns 7 deltas.app baseline.app).before fun app => .pure (" | ".intercalate
      (total ++ runtime ++ host ++ web ++ app ++ [padLeft 7 (integerText dropped), name]))
  refine row.congr ?_
  simp [PhaseDeltas.HasShares, PhaseDeltas.values]

/-- The mean times of every mode have shares of those of the first. -/
def HasSummary (modes : List ModeStatistics) : Prop :=
  ∀ first ∈ modes.head?, ∀ mode ∈ modes,
    (PhaseDeltas.ofStatistics mode).HasShares (.ofStatistics first)

instance (modes : List ModeStatistics) : Decidable (HasSummary modes) :=
  inferInstanceAs (Decidable (∀ first ∈ modes.head?, ∀ mode ∈ modes,
    (PhaseDeltas.ofStatistics mode).HasShares (.ofStatistics first)))

theorem givenIf_summaryRows (modes : List ModeStatistics) :
    GivenIf (HasSummary modes) (summaryRows modes) := by
  cases modes with
  | nil => exact .given (fun _ impossible => by cases impossible) []
  | cons first others =>
    refine (GivenIf.mapM (first :: others) fun mode _ =>
      givenIf_summaryRow (.ofStatistics mode) (.ofStatistics first) _ _).congr ?_
    simp [HasSummary]

/-- A report can be made when all its percentages can. -/
theorem givenIf_renderReport {modes : List ModeStatistics} (level : Binary64)
    (inRange : ∀ mode ∈ modes, mode.InRange) :
    GivenIf (HasSummary modes) (renderReport modes level test) := by
  refine ((givenIf_summaryRows modes).before fun rows => ?_).map joinLines
  match modes, inRange with
  | [], _ => exact .pure _
  | [_], _ => exact .pure _
  | first :: second :: others, inRange =>
    obtain ⟨firstInRange, later⟩ := List.forall_mem_cons.mp inRange
    refine ((GivenIf.mapM (second :: others) fun mode member =>
      givenIf_compareTotals level firstInRange (later mode member)).congr ?_).before
        fun _ => .pure _
    simp

/-- A report can be made of records of times below the limit when all its percentages can. -/
theorem exists_renderReport {records : List Record} (level : Binary64)
    (inRange : ∀ record ∈ records, record.InRange)
    (summary : HasSummary (records.map .ofRecord)) :
    ∃ report, renderReport (records.map .ofRecord) level test = .ok report :=
  (givenIf_renderReport level (List.forall_mem_map.mpr fun record member =>
    (inRange record member).ofRecord)).exists_ok summary

/-! ### The page -/

theorem givenIf_millisecondsText (value : Int) :
    GivenIf (value.natAbs < Binary64.limit) (millisecondsText value) :=
  (givenIf_wholeToBinary64 value).before fun _ => .pure _

theorem givenIf_barWidth {total longest : Int} (short : total.natAbs < Binary64.limit)
    (bounded : longest.natAbs < Binary64.limit) : GivenIf True (barWidth total longest) := by
  refine ((givenIf_wholeToBinary64 total).congr (iff_true_intro short)).follow fun _ => ?_
  exact ((givenIf_wholeToBinary64 longest).congr (iff_true_intro bounded)).follow fun _ => .pure _

theorem natAbs_foldl_max_lt {bound : Nat} (total : ModeStatistics → Int)
    (modes : List ModeStatistics) {start : Int} (fits : start.natAbs < bound)
    (each : ∀ mode ∈ modes, (total mode).natAbs < bound) :
    (modes.foldl (fun longest mode => max longest (total mode)) start).natAbs < bound := by
  induction modes generalizing start with
  | nil => exact fits
  | cons mode rest inductionHypothesis =>
    obtain ⟨here, later⟩ := List.forall_mem_cons.mp each
    refine inductionHypothesis ?_ later
    change (max start (total mode)).natAbs < bound
    rcases max_choice start (total mode) with same | other
    · rwa [same]
    · rwa [other]

/-- The longest mean time is one of the mean times, or one. -/
theorem natAbs_longestTotal_lt (first : ModeStatistics) (others : List ModeStatistics)
    (inRange : ∀ mode ∈ first :: others, mode.InRange) :
    (longestTotal first others).natAbs < Binary64.limit := by
  have totals : ∀ mode ∈ first :: others,
      (PhaseDeltas.ofStatistics mode).total.natAbs < Binary64.limit :=
    fun mode member => (inRange mode member).average appPhase
  obtain ⟨here, later⟩ := List.forall_mem_cons.mp totals
  rw [longestTotal]
  simp only
  split
  · exact lt_of_lt_of_le (by norm_num) Binary64.two_pow_le_limit
  · exact natAbs_foldl_max_lt (fun mode => (PhaseDeltas.ofStatistics mode).total) others here later

/-- The mean times of a mode can be shown on a page. -/
def ModeStatistics.IsShown (mode first : ModeStatistics) : Prop :=
  HasShare (PhaseDeltas.ofStatistics mode).total (PhaseDeltas.ofStatistics first).total ∧
    ∀ value ∈ (PhaseDeltas.ofStatistics mode).values, value.natAbs < Binary64.limit

instance : DecidableRel ModeStatistics.IsShown := fun _ _ =>
  inferInstanceAs (Decidable (_ ∧ _))

/-- The cells of a row are given if all its mean times are below the limit. -/
theorem givenIf_cells (deltas : PhaseDeltas)
    (row : String → String → String → String → String → String) :
    GivenIf (∀ value ∈ deltas.values, value.natAbs < Binary64.limit) (do
      let total ← millisecondsText deltas.total
      let runtime ← millisecondsText deltas.runtime
      let host ← millisecondsText deltas.host
      let web ← millisecondsText deltas.web
      let app ← millisecondsText deltas.app
      return row total runtime host web app) := by
  refine ((givenIf_millisecondsText deltas.total).bind fun _ =>
    (givenIf_millisecondsText deltas.runtime).bind fun _ =>
    (givenIf_millisecondsText deltas.host).bind fun _ =>
    (givenIf_millisecondsText deltas.web).bind fun _ =>
    (givenIf_millisecondsText deltas.app).before fun _ => .pure _).congr ?_
  simp [PhaseDeltas.values]

theorem givenIf_row (context : PageContext) {mode : ModeStatistics} (isBaseline : Bool)
    (baselineInRange : context.baseline.InRange) (inRange : mode.InRange)
    (longest : context.longest.natAbs < Binary64.limit) :
    GivenIf (mode.IsShown context.baseline) (context.row mode isBaseline) := by
  refine (givenIf_percentage _ _).bind fun share => ?_
  refine (givenIf_barWidth (inRange.average appPhase) longest).follow fun width => ?_
  cases isBaseline with
  | true => exact (GivenIf.pure _).follow fun significance => givenIf_cells _ _
  | false =>
    exact ((givenIf_compareTotals context.level baselineInRange inRange).map _).follow
      fun significance => givenIf_cells _ _

/-- A page can be made when all its mean times can be shown. -/
theorem givenIf_renderPage {modes : List ModeStatistics} (title timestamp : String)
    (level : Binary64) (inRange : ∀ mode ∈ modes, mode.InRange) :
    GivenIf (∀ first ∈ modes.head?, ∀ mode ∈ modes, mode.IsShown first)
      (renderPage modes title timestamp level test) := by
  refine GivenIf.before ?_ fun _ => .pure _
  match modes, inRange with
  | [], _ => exact .given (fun _ impossible => by cases impossible) _
  | first :: others, inRange =>
    obtain ⟨firstInRange, later⟩ := List.forall_mem_cons.mp inRange
    have longest := natAbs_longestTotal_lt first others inRange
    refine ((givenIf_row ⟨first, longestTotal first others, level, test⟩ true firstInRange
      firstInRange longest).bind fun _ =>
        (GivenIf.mapM others fun mode member =>
          givenIf_row _ false firstInRange (later mode member) longest).before fun _ =>
            .pure _).congr ?_
    simp

/-- A page can be made of records of times below the limit when all its mean times can be shown. -/
theorem exists_renderPage {records : List Record} (title timestamp : String) (level : Binary64)
    (inRange : ∀ record ∈ records, record.InRange)
    (shown : ∀ first ∈ (records.map ModeStatistics.ofRecord).head?,
      ∀ mode ∈ records.map ModeStatistics.ofRecord, mode.IsShown first) :
    ∃ page, renderPage (records.map .ofRecord) title timestamp level test = .ok page :=
  (givenIf_renderPage title timestamp level (List.forall_mem_map.mpr fun record member =>
    (inRange record member).ofRecord)).exists_ok shown

end ColdStart
