/-
This file says what becomes of a comparison of two modes. There is no probability if one side
has too few times, and that is all: times that are all the same have the probability one, as
the test puts their statistic infinitely far below its mean. Apart from that only rounding
could take the probability away, where there are very many times. Without a probability the
difference is not significant, and with one it is if the level exceeds it. Of the test no more
is used than what is written down of it here, and the rank sum test is as described.
-/

import ColdStart.Proofs.Report.RankSum
import ColdStart.Proofs.Report.Reordering

namespace ColdStart

open Binary64

/-! ### Times -/

/-- There are too few times on one of the sides. -/
def AreFew (baseline candidate : List Int) : Prop :=
  baseline.length < fewestCompared ∨ candidate.length < fewestCompared

instance : DecidableRel AreFew := fun _ _ => inferInstanceAs (Decidable (_ ∨ _))

/-- All times are the same, as doubles. -/
def AreTied (times : List Int) : Prop :=
  ∀ time ∈ times, ∀ other ∈ times, exactDouble time = exactDouble other

instance : DecidablePred AreTied := fun times =>
  inferInstanceAs (Decidable (∀ time ∈ times, ∀ other ∈ times, _ = _))

/-- The times of two modes as they are compared. -/
def pairOf (baseline candidate : List Int) : SamplePair :=
  ⟨candidate.map exactDouble, baseline.map exactDouble⟩

section

variable {baseline candidate : List Int}

theorem size_pairOf : (pairOf baseline candidate).size = candidate.length + baseline.length := by
  rw [SamplePair.size, pairOf, List.length_map, List.length_map]

theorem isEnough_pairOf (enough : ¬ AreFew baseline candidate) :
    (pairOf baseline candidate).IsEnough := by
  rw [AreFew, not_or, not_lt, not_lt] at enough
  rw [SamplePair.IsEnough, pairOf, List.length_map, List.length_map]
  exact enough.symm

theorem isTied_pairOf_iff :
    (pairOf baseline candidate).IsTied ↔ AreTied (baseline ++ candidate) := by
  simp only [SamplePair.IsTied, SamplePair.all, pairOf, ← List.map_append, AreTied,
    List.forall_mem_map, List.mem_append, or_comm]

end

/-! ### Tests -/

/-- What a comparison relies on in a test of enough times. -/
structure RankTest.IsDocumented (test : RankTest) : Prop where
  /-- A probability is from zero to one, unless it is undefined. -/
  ratio : ∀ pair, test pair ≠ undefined →
    ∃ ratio, (test pair).toRat? = some ratio ∧ 0 ≤ ratio ∧ ratio ≤ 1
  /-- It is defined if not all times are the same. -/
  apart : ∀ pair : SamplePair, pair.IsEnough → pair.size ≤ 2 ^ 52 → ¬ pair.IsTied →
    test pair ≠ undefined
  /-- It is one if they are. -/
  tied : ∀ pair : SamplePair, pair.IsEnough → pair.size ^ 3 - pair.size ≤ 2 ^ 53 → pair.IsTied →
    (test pair).toRat? = some 1

theorem RankTest.isDocumented_plain : RankTest.plain.IsDocumented where
  ratio _ := SamplePair.exists_toRat?_probability
  apart _ := SamplePair.probability_ne_undefined
  tied _ enough small tied := SamplePair.probability_of_isTied enough tied small

/-! ### Comparisons -/

/-- What a comparison says of the times of the baseline and of another mode. -/
structure Comparison.Compares (comparison : Comparison) (baseline candidate : List Int)
    (level : Binary64) : Prop where
  /-- Too few times have no probability. -/
  untested : AreFew baseline candidate → comparison.probability = none
  /-- Enough times have one. This is left open where rounding may hide that there is no spread. -/
  few : comparison.probability = none →
    AreFew baseline candidate ∨ 2 ^ 52 < candidate.length + baseline.length ∨
      AreTied (baseline ++ candidate) ∧
        2 ^ 53 < (candidate.length + baseline.length) ^ 3 - (candidate.length + baseline.length)
  /-- Times that are all the same have the probability one. -/
  certain : ¬ AreFew baseline candidate → AreTied (baseline ++ candidate) →
    (candidate.length + baseline.length) ^ 3 - (candidate.length + baseline.length) ≤ 2 ^ 53 →
      ∃ probability, comparison.probability = some probability ∧ probability.toRat? = some 1
  insignificant : comparison.probability = none → comparison.significant = false
  /-- A probability is from zero to one, and decides what is significant. -/
  significant : ∀ probability ∈ comparison.probability, ∃ ratio,
    probability.toRat? = some ratio ∧ 0 ≤ ratio ∧ ratio ≤ 1 ∧
      (comparison.significant = true ↔ level.Exceeds ratio)

theorem eq_map_of_exactDoubles {series : Series} {times : List ℚ}
    (taken : series.exactDoubles = .ok times) : times = series.samples.map exactDouble := by
  rw [exactDoubles_eq] at taken
  split at taken
  · exact (Except.ok.inj taken).symm
  · cases taken

theorem probability?_pairOf (test : RankTest) (baseline candidate : List Int) :
    test.probability? (pairOf baseline candidate) =
      if AreFew baseline candidate ∨ test (pairOf baseline candidate) = undefined then none
      else some (test (pairOf baseline candidate)) := by
  have few : ((pairOf baseline candidate).baseline.length < fewestCompared ||
      (pairOf baseline candidate).candidate.length < fewestCompared) = true ↔
        AreFew baseline candidate := by
    rw [pairOf, List.length_map, List.length_map, Bool.or_eq_true, decide_eq_true_eq,
      decide_eq_true_eq, AreFew]
  rw [RankTest.probability?, if_congr few rfl rfl]
  exact (ite_or ..).symm

/-- The probability is that of the times, and settles what is significant. -/
theorem probability_of_compareTotals {baseline candidate : ModeStatistics} {level : Binary64}
    {test : RankTest} {comparison : Comparison}
    (given : compareTotals baseline candidate level test = .ok comparison) :
    comparison.probability =
        test.probability? (pairOf baseline.appTotals.samples candidate.appTotals.samples) ∧
      comparison.significant = comparison.probability.any (·.lt level) := by
  obtain ⟨baselineTimes, baselineTaken, rest⟩ := (bind_eq_ok_iff _ _ _).mp given
  obtain ⟨times, taken, rest⟩ := (bind_eq_ok_iff _ _ _).mp rest
  obtain ⟨baselineMedian, -, rest⟩ := (bind_eq_ok_iff _ _ _).mp rest
  obtain ⟨median, -, rest⟩ := (bind_eq_ok_iff _ _ _).mp rest
  cases eq_map_of_exactDoubles baselineTaken
  cases eq_map_of_exactDoubles taken
  cases rest
  exact ⟨rfl, rfl⟩

namespace RankTest.IsDocumented

variable {test : RankTest} (documented : test.IsDocumented)
include documented

/-- Enough times have a probability, unless they are all the same and rounding hides that. -/
theorem tied_of_eq_undefined {baseline candidate : List Int}
    (enough : ¬ AreFew baseline candidate) (fits : candidate.length + baseline.length ≤ 2 ^ 52)
    (nothing : test (pairOf baseline candidate) = undefined) :
    AreTied (baseline ++ candidate) ∧
      2 ^ 53 < (candidate.length + baseline.length) ^ 3 - (candidate.length + baseline.length) := by
  have isEnough := isEnough_pairOf enough
  rw [← size_pairOf] at fits ⊢
  have tied : (pairOf baseline candidate).IsTied := by
    by_contra apart
    exact documented.apart _ isEnough fits apart nothing
  refine ⟨isTied_pairOf_iff.mp tied, not_le.mp fun small => ?_⟩
  have certain := documented.tied _ isEnough small tied
  rw [nothing] at certain
  cases certain

/-- A comparison by a test that is as described. -/
theorem compares {baseline candidate : ModeStatistics} {level : Binary64} {comparison : Comparison}
    (given : compareTotals baseline candidate level test = .ok comparison) :
    comparison.Compares baseline.appTotals.samples candidate.appTotals.samples level := by
  obtain ⟨probability, significant⟩ := probability_of_compareTotals given
  rw [probability?_pairOf] at probability
  generalize baseline.appTotals.samples = baseline, candidate.appTotals.samples = candidate at *
  constructor
  case untested => exact fun few => probability.trans (if_pos (.inl few))
  case few =>
    intro none
    by_cases few : AreFew baseline candidate
    · exact .inl few
    · have nothing : test (pairOf baseline candidate) = undefined := by
        by_contra defined
        rw [none, if_neg (not_or.mpr ⟨few, defined⟩)] at probability
        cases probability
      refine .inr (or_iff_not_imp_left.mpr fun fits => ?_)
      exact documented.tied_of_eq_undefined few (not_lt.mp fits) nothing
  case certain =>
    intro enough tied small
    rw [← size_pairOf] at small
    have certain := documented.tied _ (isEnough_pairOf enough) small (isTied_pairOf_iff.mpr tied)
    have defined : test (pairOf baseline candidate) ≠ undefined := fun nothing => by
      rw [nothing] at certain
      cases certain
    exact ⟨_, probability.trans (if_neg (not_or.mpr ⟨enough, defined⟩)), certain⟩
  case insignificant =>
    intro none
    rw [significant, none]
    rfl
  case significant =>
    intro value isValue
    rw [Option.mem_def] at isValue
    rw [significant, isValue, Option.any_some]
    split at probability
    · rw [isValue] at probability
      cases probability
    · next defined =>
      rw [isValue, Option.some.injEq] at probability
      rw [probability]
      obtain ⟨ratio, exactly, low, high⟩ := documented.ratio _ (not_or.mp defined).2
      exact ⟨ratio, exactly, low, high, lt_iff_exceeds exactly⟩

end RankTest.IsDocumented

/-- A comparison has a probability unless there are too few times. Only of more than 200,000 times
that are all the same, or of more than `2 ^ 52` others, it is not known whether it has one. It is
one if the times are all the same, and the difference is significant if the level exceeds it. -/
theorem compareTotals_compares {baseline candidate : ModeStatistics} {level : Binary64}
    {comparison : Comparison} (given : compareTotals baseline candidate level = .ok comparison) :
    comparison.Compares baseline.appTotals.samples candidate.appTotals.samples level :=
  RankTest.isDocumented_plain.compares given

/-! ### Modes with given times -/

/-- A mode whose last phase took these times. -/
def statisticsOf (times : List Int) : ModeStatistics :=
  .ofRecord {
    mode := { name := "baseline" }
    samples := times.map fun time => ⟨appPhase, time, 0, 0⟩ }

theorem samples_statisticsOf (times : List Int) :
    (statisticsOf times).appTotals.samples = times := by
  have all : ∀ sample ∈ times.map (fun time => (⟨appPhase, time, 0, 0⟩ : Sample)),
      decide (sample.phase = appPhase) = true := by
    simp
  rw [ModeStatistics.appTotals, statisticsOf, total_phase_ofRecord, Series.samples_ofList,
    Record.samplesOf, List.filter_eq_self.mpr all, List.map_map]
  exact List.map_id times

/-- Times below the limit are compared. -/
theorem exists_compareTotals {times others : List Int}
    (inRange : ∀ time ∈ times ++ others, time.natAbs < limit) (level : Binary64) :
    ∃ comparison, compareTotals (statisticsOf times) (statisticsOf others) level =
      .ok comparison := by
  have each (some : List Int) (among : some ⊆ times ++ others) : (statisticsOf some).InRange := by
    refine Record.InRange.ofRecord fun sample member => ?_
    obtain ⟨time, isTime, rfl⟩ := List.mem_map.mp member
    exact inRange time (among isTime)
  exact (givenIf_compareTotals level (each times (List.subset_append_left _ _))
    (each others (List.subset_append_right _ _))).exists_ok trivial

theorem compareTotals_compares_steadyTimes :
    ∃ comparison,
      compareTotals (statisticsOf [100, 110]) (statisticsOf [90, 95, 95]) (.ofRatio false 5 100) =
          .ok comparison ∧
        comparison.Compares [100, 110] [90, 95, 95] (.ofRatio false 5 100) := by
  obtain ⟨comparison, given⟩ := exists_compareTotals
    (List.forall_iff_forall_mem.mp (by decide +kernel) :
      ∀ time ∈ [100, 110] ++ [90, 95, 95], Int.natAbs time < limit) (.ofRatio false 5 100)
  have compares := compareTotals_compares given
  rw [samples_statisticsOf, samples_statisticsOf] at compares
  exact ⟨comparison, given, compares⟩

/-- Two times on each side are enough, and although all of them are the same they have a
probability. -/
theorem compareTotals_tiedTimes :
    ∃ comparison,
      compareTotals (statisticsOf [100, 100]) (statisticsOf [100, 100]) (.ofRatio false 5 100) =
          .ok comparison ∧
        ¬ AreFew [100, 100] [100, 100] ∧ AreTied ([100, 100] ++ [100, 100]) ∧
        comparison.probability = some (.ofInt 1) := by
  obtain ⟨comparison, given⟩ := exists_compareTotals
    (List.forall_iff_forall_mem.mp (by decide +kernel) :
      ∀ time ∈ [100, 100] ++ [100, 100], Int.natAbs time < limit) (.ofRatio false 5 100)
  have enough : ¬ AreFew [100, 100] [100, 100] := by decide
  have certain : RankTest.plain (pairOf [100, 100] [100, 100]) = .ofInt 1 := by decide +kernel
  have defined : Binary64.ofInt 1 ≠ .undefined := by decide +kernel
  have probability := (probability_of_compareTotals given).1
  rw [samples_statisticsOf, probability?_pairOf,
    if_neg (not_or.mpr ⟨enough, certain ▸ defined⟩), certain] at probability
  exact ⟨comparison, given, enough, by decide +kernel, probability⟩

end ColdStart
