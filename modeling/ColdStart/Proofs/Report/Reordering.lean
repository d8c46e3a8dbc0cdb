/-
This file shows that a report does not depend on the order in which samples were
taken. Sums, counts and extremes are the same in any order, and so are medians and
the ranks of times among each other, hence the probability of the rank sum test. All
that the order settles is which phase appears first, and with it the order in which
the phases of a mode are shown. Only a test that heeds the order could change the
comparisons.
-/

import ColdStart.Proofs.Report.Range
import ColdStart.Proofs.Report.RankSum
import ColdStart.Proofs.Report.Sections

namespace ColdStart

/-! ### The rank sum test -/

namespace SamplePair

/-- Two pairs of the same samples, each in whatever order. -/
structure Reordered (pair other : SamplePair) : Prop where
  candidate : pair.candidate.Perm other.candidate
  baseline : pair.baseline.Perm other.baseline

namespace Reordered

variable {pair other : SamplePair} (same : pair.Reordered other)
include same

theorem all : pair.all.Perm other.all := same.candidate.append same.baseline

theorem multiplicity (time : Rat) : pair.multiplicity time = other.multiplicity time :=
  same.all.count_eq time

theorem twiceRank (time : Rat) : pair.twiceRank time = other.twiceRank time := by
  rw [SamplePair.twiceRank, SamplePair.twiceRank, same.multiplicity,
    (same.all.filter _).length_eq]

theorem twiceStatistic : pair.twiceStatistic = other.twiceStatistic := by
  have ranks : pair.twiceRank = other.twiceRank := funext same.twiceRank
  rw [SamplePair.twiceStatistic, SamplePair.twiceStatistic, ranks, sumOf_eq_sum, sumOf_eq_sum,
    (same.candidate.map other.twiceRank).sum_eq, same.candidate.length_eq,
    same.baseline.length_eq]

theorem hasTies : pair.hasTies = other.hasTies := by
  have counts : pair.multiplicity = other.multiplicity := funext same.multiplicity
  rw [SamplePair.hasTies, SamplePair.hasTies, counts, same.all.any_eq]

theorem tieTerm : pair.tieTerm = other.tieTerm := by
  have counts : pair.multiplicity = other.multiplicity := funext same.multiplicity
  rw [SamplePair.tieTerm, SamplePair.tieTerm, counts, sumOf_eq_sum, sumOf_eq_sum,
    (same.all.map _).sum_eq]

theorem distance : pair.distance = other.distance := by
  rw [SamplePair.distance, SamplePair.distance, same.candidate.length_eq,
    same.baseline.length_eq, same.tieTerm, same.twiceStatistic]

theorem probability : pair.probability = other.probability := by
  rw [SamplePair.probability, SamplePair.probability, isExact, isExact,
    same.candidate.length_eq, same.baseline.length_eq, same.hasTies, same.twiceStatistic,
    same.distance]

end Reordered

end SamplePair

/-- The order in which times were taken does not matter to a test. -/
def RankTest.IgnoresOrder (test : RankTest) : Prop :=
  ∀ pair other : SamplePair, pair.Reordered other → test pair = test other

theorem RankTest.ignoresOrder_plain : RankTest.plain.IgnoresOrder :=
  fun _ _ same => same.probability

theorem RankTest.IgnoresOrder.probability? {test : RankTest} (ignores : test.IgnoresOrder)
    {pair other : SamplePair} (same : pair.Reordered other) :
    test.probability? pair = test.probability? other := by
  rw [RankTest.probability?, RankTest.probability?, same.candidate.length_eq,
    same.baseline.length_eq, ignores pair other same]

/-! ### Times as doubles -/

/-- The exact value of the double nearest to a time. -/
def exactDouble (value : Int) : Rat := (Binary64.ofInt value).toRat?.getD 0

theorem exactDoubles_eq (series : Series) :
    series.exactDoubles =
      if ∀ value ∈ series.samples, value.natAbs < Binary64.limit then
        .ok (series.samples.map exactDouble)
      else .error .wholeTooLarge := by
  rw [← mapM_ite, Series.exactDoubles]
  refine congrArg (List.mapM · _) (funext fun value => ?_)
  rw [wholeToBinary64_eq, apply_ite (Except.map _)]
  rfl

/-- The times of both series become doubles, the same up to their order, or those of neither do. -/
theorem exactDoubles_of_reordered {series other : Series} (same : series.Reordered other) :
    Alike List.Perm series.exactDoubles other.exactDoubles := by
  have sameCondition : (∀ value ∈ series.samples, value.natAbs < Binary64.limit) ↔
      ∀ value ∈ other.samples, value.natAbs < Binary64.limit :=
    forall_congr' fun _ => imp_congr_left same.samples.mem_iff
  rw [exactDoubles_eq, exactDoubles_eq]
  by_cases fits : ∀ value ∈ series.samples, value.natAbs < Binary64.limit
  · rw [if_pos fits, if_pos (sameCondition.mp fits)]
    exact .given (same.samples.map _)
  · rw [if_neg fits, if_neg (mt sameCondition.mpr fits)]
    exact .failed _

/-! ### Statistics of reordered records -/

/-- The three series of a phase, their samples taken in whatever order. -/
structure PhaseSeries.Reordered (series other : PhaseSeries) : Prop where
  total : series.total.Reordered other.total
  user : series.user.Reordered other.user
  system : series.system.Reordered other.system

theorem PhaseSeries.Reordered.take {samples others : List Sample} (perm : samples.Perm others) :
    (PhaseSeries.take {} samples).Reordered (.take {} others) := by
  rw [take_eq, take_eq]
  exact ⟨.ofList (perm.map _), .ofList (perm.map _), .ofList (perm.map _)⟩

theorem PhaseSeries.Reordered.lines {series other : PhaseSeries} (same : series.Reordered other)
    (name : String) : series.lines name = other.lines name := by
  rw [PhaseSeries.lines, PhaseSeries.lines, same.total.line, same.user.line, same.system.line]

/-- The phases of a mode, each with the lines that show it. -/
def ModeStatistics.phaseLines (statistics : ModeStatistics) : List (String × List String) :=
  statistics.phases.map fun (name, series) => (name, series.lines name)

/-- Two records tell of one mode, with as many dropped runs and the same samples in whatever
order. -/
structure Record.Reordered (record other : Record) : Prop where
  mode : record.mode = other.mode
  dropped : record.dropped = other.dropped
  samples : record.samples.Perm other.samples

instance : DecidableRel Record.Reordered := fun record other =>
  decidable_of_iff (record.mode = other.mode ∧ record.dropped = other.dropped ∧
    record.samples.Perm other.samples)
    ⟨fun ⟨mode, dropped, samples⟩ => ⟨mode, dropped, samples⟩,
      fun same => ⟨same.mode, same.dropped, same.samples⟩⟩

namespace Record.Reordered

variable {record other : Record} (same : record.Reordered other)
include same

theorem phase (name : String) :
    ((ModeStatistics.ofRecord record).phase name).Reordered
      ((ModeStatistics.ofRecord other).phase name) := by
  rw [phase_ofRecord, phase_ofRecord]
  exact .take (same.samples.filter _)

/-- The same phases appear, though not in the same order. -/
theorem names : (PhaseTable.names (ModeStatistics.ofRecord record).phases).Perm
    (PhaseTable.names (ModeStatistics.ofRecord other).phases) := by
  refine (List.perm_ext_iff_of_nodup (nodup_names_ofRecord record)
    (nodup_names_ofRecord other)).mpr fun phase => ?_
  rw [mem_names_ofRecord, mem_names_ofRecord]
  simp only [same.samples.mem_iff]

end Record.Reordered

theorem phaseLines_ofRecord (record : Record) :
    (ModeStatistics.ofRecord record).phaseLines =
      (PhaseTable.names (ModeStatistics.ofRecord record).phases).map fun name =>
        (name, ((ModeStatistics.ofRecord record).phase name).lines name) := by
  have table := PhaseTable.eq_map_names (ModeStatistics.ofRecord record).phases
    (nodup_names_ofRecord record)
  rw [ModeStatistics.phaseLines]
  conv_lhs => rw [table]
  rw [List.map_map]
  rfl

namespace Record.Reordered

variable {record other : Record} (same : record.Reordered other)
include same

/-- The same lines are shown for the same phases. -/
theorem phaseLines : (ModeStatistics.ofRecord record).phaseLines.Perm
    (ModeStatistics.ofRecord other).phaseLines := by
  have lines : (fun name => (name, ((ModeStatistics.ofRecord record).phase name).lines name)) =
      fun name => (name, ((ModeStatistics.ofRecord other).phase name).lines name) :=
    funext fun name => congrArg (name, ·) ((same.phase name).lines name)
  rw [phaseLines_ofRecord, phaseLines_ofRecord, lines]
  exact same.names.map _

theorem deltas : PhaseDeltas.ofStatistics (.ofRecord record) =
    PhaseDeltas.ofStatistics (.ofRecord other) := by
  have mean (name : String) := (same.phase name).total.average
  rw [PhaseDeltas.ofStatistics, PhaseDeltas.ofStatistics]
  simp only [mean]

theorem exactDoubles : Alike List.Perm (ModeStatistics.ofRecord record).appTotals.exactDoubles
    (ModeStatistics.ofRecord other).appTotals.exactDoubles :=
  exactDoubles_of_reordered (same.phase appPhase).total

end Record.Reordered

variable (level : Binary64) (test : RankTest)

/-- Comparing two modes fails for the same reason, or comes to the same if the test ignores the
order of the times. -/
theorem compareTotals_of_reordered {baseline otherBaseline candidate otherCandidate : Record}
    (sameBaseline : baseline.Reordered otherBaseline)
    (sameCandidate : candidate.Reordered otherCandidate) :
    Alike (fun comparison other => test.IgnoresOrder → comparison = other)
      (compareTotals (.ofRecord baseline) (.ofRecord candidate) level test)
      (compareTotals (.ofRecord otherBaseline) (.ofRecord otherCandidate) level test) := by
  have name : (ModeStatistics.ofRecord candidate).mode.name =
      (ModeStatistics.ofRecord otherCandidate).mode.name := congrArg Mode.name sameCandidate.mode
  have baselineMedian : (ModeStatistics.ofRecord baseline).appTotals.median =
      (ModeStatistics.ofRecord otherBaseline).appTotals.median :=
    (sameBaseline.phase appPhase).total.median
  have median : (ModeStatistics.ofRecord candidate).appTotals.median =
      (ModeStatistics.ofRecord otherCandidate).appTotals.median :=
    (sameCandidate.phase appPhase).total.median
  rw [compareTotals, compareTotals, name, baselineMedian, median]
  refine sameBaseline.exactDoubles.bind fun times others perm =>
    sameCandidate.exactDoubles.bind fun candidateTimes candidateOthers candidatePerm =>
    Alike.rfl.bind fun first _ sameFirst => Alike.rfl.bind fun second _ sameSecond => ?_
  refine .given fun ignores => ?_
  have pair : SamplePair.Reordered ⟨candidateTimes, times⟩ ⟨candidateOthers, others⟩ :=
    ⟨candidatePerm, perm⟩
  rw [sameFirst, sameSecond, ignores.probability? pair]

/-! ### The report -/

theorem summaryRows_of_reordered {records others : List Record}
    (reordered : List.Forall₂ Record.Reordered records others) :
    summaryRows (records.map .ofRecord) = summaryRows (others.map .ofRecord) := by
  cases reordered with
  | nil => rfl
  | @cons first otherFirst rest otherRest sameFirst sameRest =>
    have row : ∀ record other : Record, record.Reordered other →
        summaryRow (.ofStatistics (.ofRecord record)) (.ofStatistics (.ofRecord first))
          record.dropped record.mode.name =
        summaryRow (.ofStatistics (.ofRecord other)) (.ofStatistics (.ofRecord otherFirst))
          other.dropped other.mode.name := fun record other same => by
      rw [same.deltas, sameFirst.deltas, same.dropped, same.mode]
    refine mapM_eq_mapM ?_
    rw [List.forall₂_map_left_iff, List.forall₂_map_right_iff]
    exact (List.Forall₂.cons sameFirst sameRest).imp row

theorem significanceSection_of_reordered {records others : List Record}
    (reordered : List.Forall₂ Record.Reordered records others) :
    Alike (fun later otherLater => test.IgnoresOrder → later = otherLater)
      (significanceSection (records.map .ofRecord) level test)
      (significanceSection (others.map .ofRecord) level test) := by
  cases reordered with
  | nil => exact .given fun _ => rfl
  | @cons first otherFirst _ _ sameFirst sameRest =>
    cases sameRest with
    | nil => exact .given fun _ => rfl
    | @cons second otherSecond rest otherRest sameSecond sameRest =>
      have each : List.Forall₂ (fun mode other =>
          Alike (fun comparison other => test.IgnoresOrder → comparison = other)
            (compareTotals (.ofRecord first) mode level test)
            (compareTotals (.ofRecord otherFirst) other level test))
          ((second :: rest).map .ofRecord) ((otherSecond :: otherRest).map .ofRecord) := by
        rw [List.forall₂_map_left_iff, List.forall₂_map_right_iff]
        exact (List.Forall₂.cons sameSecond sameRest).imp fun _ _ same =>
          compareTotals_of_reordered level test sameFirst same
      refine (Alike.mapM each).bind fun comparisons otherComparisons same => ?_
      refine .given fun ignores => ?_
      have equal : List.Forall₂ (· = ·) comparisons otherComparisons :=
        same.imp fun _ _ equal => equal ignores
      rw [List.forall₂_eq_eq_eq] at equal
      rw [equal]

/-- The details of a mode are the lines of its phases between a heading and an ending. -/
theorem detailLines_eq (statistics : ModeStatistics) :
    detailLines statistics =
      underlined statistics.mode.describe ++ statistics.phaseLines.flatMap Prod.snd ++
        ((if statistics.dropped != 0 then
          ["DROPPED MEASURED RUNS: " ++ integerText statistics.dropped] else []) ++ [""]) := by
  rw [detailLines, ModeStatistics.phaseLines, List.flatMap_map, List.append_assoc]

/-- A report does not depend on the order of the samples. When two lists of records differ in
nothing else, either no report can be made of both, for the same reason, or both reports have the
same rows, and the same comparisons if the test ignores the order of the times, as the rank sum
test does. The details of each mode show the same phases by the same lines, and only the order of
the phases may differ. -/
theorem renderReport_of_reordered {records others : List Record}
    (reordered : List.Forall₂ Record.Reordered records others) :
    let modes := records.map ModeStatistics.ofRecord
    let otherModes := others.map ModeStatistics.ofRecord
    ((∃ fault, renderReport modes level test = .error fault ∧
        renderReport otherModes level test = .error fault) ∨
      ∃ rows later otherLater, (test.IgnoresOrder → later = otherLater) ∧
        renderReport modes level test =
          .ok (reportText rows (modes.flatMap detailLines) later) ∧
        renderReport otherModes level test =
          .ok (reportText rows (otherModes.flatMap detailLines) otherLater)) ∧
    List.Forall₂ (fun mode other => ∃ heading ending,
        mode.phaseLines.Perm other.phaseLines ∧
        detailLines mode = heading ++ mode.phaseLines.flatMap Prod.snd ++ ending ∧
        detailLines other = heading ++ other.phaseLines.flatMap Prod.snd ++ ending)
      modes otherModes := by
  intro modes otherModes
  constructor
  · have compared := significanceSection_of_reordered level test reordered
    rw [renderReport_eq, renderReport_eq, ← summaryRows_of_reordered reordered]
    cases summaryRows modes with
    | error fault => exact .inl ⟨fault, rfl, rfl⟩
    | ok rows =>
      generalize significanceSection modes level test = lines,
        significanceSection otherModes level test = otherLines at compared
      cases compared with
      | failed fault => exact .inl ⟨fault, rfl, rfl⟩
      | given same => exact .inr ⟨rows, _, _, same, rfl, rfl⟩
  · rw [List.forall₂_map_left_iff, List.forall₂_map_right_iff]
    refine reordered.imp fun record other same =>
      ⟨_, _, same.phaseLines, detailLines_eq _, ?_⟩
    have mode : (ModeStatistics.ofRecord record).mode = (ModeStatistics.ofRecord other).mode :=
      same.mode
    have dropped : (ModeStatistics.ofRecord record).dropped =
        (ModeStatistics.ofRecord other).dropped := same.dropped
    rw [detailLines_eq, mode, dropped]

/-- A mode whose first sample is of its last phase, and one with a dropped run. -/
def shuffledRecords : List Record := [
  { mode := { name := "baseline", readyToRun := true }
    samples := [⟨"APP", 120, 80, 9⟩, ⟨"RUNTIME", 30, 20, 4⟩, ⟨"APP", 110, 85, 7⟩] },
  { mode := { name := "r2r", appPrecompiled := true, readyToRun := true }
    samples := [⟨"APP", 70, 60, 3⟩, ⟨"RUNTIME", 28, 21, 2⟩, ⟨"APP", 75, 62, 5⟩]
    dropped := 1 }]

/-- The same with the samples in order of their phases. -/
def sortedRecords : List Record := [
  { mode := { name := "baseline", readyToRun := true }
    samples := [⟨"RUNTIME", 30, 20, 4⟩, ⟨"APP", 110, 85, 7⟩, ⟨"APP", 120, 80, 9⟩] },
  { mode := { name := "r2r", appPrecompiled := true, readyToRun := true }
    samples := [⟨"RUNTIME", 28, 21, 2⟩, ⟨"APP", 75, 62, 5⟩, ⟨"APP", 70, 60, 3⟩]
    dropped := 1 }]

theorem renderReport_of_reordered_shuffledRecords :
    List.Forall₂ Record.Reordered shuffledRecords sortedRecords ∧
    ∃ rows later,
      renderReport (shuffledRecords.map .ofRecord) (.ofRatio false 1 20) =
        .ok (reportText rows ((shuffledRecords.map .ofRecord).flatMap detailLines) later) ∧
      renderReport (sortedRecords.map .ofRecord) (.ofRatio false 1 20) =
        .ok (reportText rows ((sortedRecords.map .ofRecord).flatMap detailLines) later) := by
  have reordered : List.Forall₂ Record.Reordered shuffledRecords sortedRecords := by decide
  refine ⟨reordered, ?_⟩
  obtain ⟨⟨fault, failed, -⟩ | ⟨rows, later, otherLater, same, given, otherGiven⟩, -⟩ :=
    renderReport_of_reordered (.ofRatio false 1 20) .plain reordered
  · have summary : HasSummary (shuffledRecords.map .ofRecord) := by decide +kernel
    obtain ⟨report, rendered⟩ :=
      exists_renderReport (.ofRatio false 1 20) (by decide +kernel) summary
    rw [failed] at rendered
    cases rendered
  · cases same RankTest.ignoresOrder_plain
    exact ⟨rows, later, given, otherGiven⟩

end ColdStart
