/-
This file shows that a record's samples are told apart by phase and by nothing
else. The series of a phase are what they would be if only the samples of that
phase had been taken, whatever was taken in between. The table has each phase of
the samples once.
-/

import ColdStart.Proofs.Series
import ColdStart.Report.Statistics
import Mathlib.Algebra.Ring.Nat
import Mathlib.Data.List.Induction

namespace ColdStart

/-- The series with the times of samples. -/
def PhaseSeries.take (series : PhaseSeries) (samples : List Sample) : PhaseSeries :=
  samples.foldl (fun series sample => series.push sample.total sample.user sample.system) series

/-- Each of the three series takes its own times. -/
theorem take_eq (samples : List Sample) (series : PhaseSeries) :
    series.take samples =
      { total := (samples.map (·.total)).foldl Series.push series.total
        user := (samples.map (·.user)).foldl Series.push series.user
        system := (samples.map (·.system)).foldl Series.push series.system } := by
  induction samples generalizing series with
  | nil => rfl
  | cons sample rest inductionHypothesis => exact inductionHypothesis _

/-- The samples of a phase, in order. -/
def Record.samplesOf (record : Record) (phase : String) : List Sample :=
  record.samples.filter fun sample => sample.phase = phase

namespace PhaseTable

/-- A sample changes the series of its own phase. -/
theorem lookup_add (sample : Sample) (table : PhaseTable) (phase : String) :
    ((table.add sample).lookup phase).getD {} =
      if sample.phase = phase then
        ((table.lookup phase).getD {}).push sample.total sample.user sample.system
      else (table.lookup phase).getD {} := by
  induction table with
  | nil =>
    by_cases same : sample.phase = phase
    · simp [add, same]
    · simp [add, same, List.lookup_cons, beq_false_of_ne (Ne.symm same)]
  | cons entry rest inductionHypothesis =>
    obtain ⟨known, series⟩ := entry
    rw [add]
    by_cases isKnown : known = sample.phase
    · subst isKnown
      by_cases same : sample.phase = phase
      · simp [same]
      · simp [same, List.lookup_cons, beq_false_of_ne (Ne.symm same)]
    · rw [if_neg isKnown, List.lookup_cons, List.lookup_cons]
      by_cases found : phase = known
      · subst found
        simp [Ne.symm isKnown]
      · rw [beq_false_of_ne found]
        exact inductionHypothesis

theorem lookup_foldl_add (samples : List Sample) (table : PhaseTable) (phase : String) :
    ((samples.foldl (fun table sample => PhaseTable.add sample table) table).lookup phase).getD {} =
      ((table.lookup phase).getD {}).take
        (samples.filter fun sample => sample.phase = phase) := by
  induction samples generalizing table with
  | nil => rfl
  | cons sample rest inductionHypothesis =>
    rw [List.foldl_cons, inductionHypothesis, lookup_add, List.filter_cons]
    by_cases same : sample.phase = phase
    · rw [if_pos same, if_pos (by simpa using same)]
      rfl
    · rw [if_neg same, if_neg (by simpa using same)]

/-! ### Measurements -/

/-- The number of measurements of all phases. -/
def measurements (table : PhaseTable) : Nat := (table.map fun entry => entry.2.count).sum

/-- A sample is counted in one phase. -/
theorem measurements_add (sample : Sample) (table : PhaseTable) :
    measurements (table.add sample) = measurements table + 1 := by
  induction table with
  | nil => rfl
  | cons entry rest inductionHypothesis =>
    obtain ⟨known, series⟩ := entry
    rw [add]
    split
    · simp [measurements, PhaseSeries.count, PhaseSeries.push, Nat.add_right_comm]
    · rw [measurements, List.map_cons, List.sum_cons, ← measurements, inductionHypothesis]
      rfl

theorem measurements_foldl_add (samples : List Sample) (table : PhaseTable) :
    measurements (samples.foldl (fun table sample => PhaseTable.add sample table) table) =
      measurements table + samples.length := by
  induction samples generalizing table with
  | nil => rfl
  | cons sample rest inductionHypothesis =>
    rw [List.foldl_cons, inductionHypothesis, measurements_add, List.length_cons]
    omega

/-! ### Names -/

/-- The phases of a table, in order. -/
def names (table : PhaseTable) : List String := table.map Prod.fst

theorem names_cons (known : String) (series : PhaseSeries) (rest : PhaseTable) :
    names ((known, series) :: rest) = known :: names rest := rfl

/-- A phase that appears for the first time is put behind all others. -/
theorem names_add (sample : Sample) (table : PhaseTable) :
    names (table.add sample) =
      if sample.phase ∈ names table then names table else names table ++ [sample.phase] := by
  induction table with
  | nil => rfl
  | cons entry rest inductionHypothesis =>
    obtain ⟨known, series⟩ := entry
    rw [add]
    by_cases isKnown : known = sample.phase
    · simp [names, isKnown]
    · rw [if_neg isKnown, names_cons, names_cons, inductionHypothesis]
      by_cases appeared : sample.phase ∈ names rest
      · rw [if_pos appeared, if_pos (List.mem_cons_of_mem _ appeared)]
      · have fresh : sample.phase ∉ known :: names rest := fun member =>
          (List.mem_cons.mp member).elim (fun same => isKnown same.symm) appeared
        rw [if_neg appeared, if_neg fresh, List.cons_append]

theorem nodup_names_foldl_add (samples : List Sample) (table : PhaseTable)
    (distinct : (names table).Nodup) :
    (names (samples.foldl (fun table sample => PhaseTable.add sample table) table)).Nodup := by
  induction samples generalizing table with
  | nil => exact distinct
  | cons sample rest inductionHypothesis =>
    refine inductionHypothesis _ ?_
    rw [names_add]
    split
    · exact distinct
    · next fresh =>
      exact (List.perm_append_comm.nodup_iff).mp (List.nodup_cons.mpr ⟨fresh, distinct⟩)

/-- A last item is kept if it is not among those before. -/
theorem eraseDups_concat (items : List String) (last : String) :
    (items ++ [last]).eraseDups =
      if last ∈ items then items.eraseDups else items.eraseDups ++ [last] := by
  rw [List.eraseDups_append]
  by_cases appeared : last ∈ items
  · have nothing : [last].removeAll items = [] := by simp [List.removeAll, appeared]
    rw [nothing, if_pos appeared, List.eraseDups_nil, List.append_nil]
  · have kept : [last].removeAll items = [last] := by simp [List.removeAll, appeared]
    rw [kept, if_neg appeared]
    rfl

/-- The phases stand in the order in which they first appear. -/
theorem names_foldl_add (samples : List Sample) :
    names (samples.foldl (fun table sample => PhaseTable.add sample table) []) =
      (samples.map Sample.phase).eraseDups := by
  induction samples using List.reverseRecOn with
  | nil => rfl
  | append_singleton samples sample inductionHypothesis =>
    rw [List.foldl_append, List.foldl_cons, List.foldl_nil, names_add, inductionHypothesis,
      List.map_append, List.map_cons, List.map_nil, eraseDups_concat]
    simp only [List.mem_eraseDups]

/-- A table of distinct phases is settled by its phases and their series. -/
theorem eq_map_names (table : PhaseTable) (distinct : (names table).Nodup) :
    table = (names table).map fun name => (name, (table.lookup name).getD {}) := by
  induction table with
  | nil => rfl
  | cons entry rest inductionHypothesis =>
    obtain ⟨known, series⟩ := entry
    obtain ⟨fresh, distinctRest⟩ := List.nodup_cons.mp distinct
    have later : (names rest).map (fun name =>
          (name, (List.lookup name ((known, series) :: rest)).getD {})) =
        (names rest).map fun name => (name, (rest.lookup name).getD {}) := by
      refine List.map_congr_left fun name member => ?_
      have other : name ≠ known := fun same => fresh (same ▸ member)
      rw [List.lookup_cons, beq_false_of_ne other]
    rw [names_cons, List.map_cons, later, ← inductionHypothesis distinctRest]
    simp

end PhaseTable

/-- The series of a phase are those of its samples. -/
theorem phase_ofRecord (record : Record) (phase : String) :
    (ModeStatistics.ofRecord record).phase phase =
      PhaseSeries.take {} (record.samplesOf phase) :=
  PhaseTable.lookup_foldl_add record.samples [] phase

/-- Each of its three series is that of the samples' own times. -/
theorem phase_ofRecord_eq (record : Record) (phase : String) :
    (ModeStatistics.ofRecord record).phase phase =
      { total := .ofList ((record.samplesOf phase).map (·.total))
        user := .ofList ((record.samplesOf phase).map (·.user))
        system := .ofList ((record.samplesOf phase).map (·.system)) } :=
  (phase_ofRecord record phase).trans (take_eq _ _)

theorem total_phase_ofRecord (record : Record) (phase : String) :
    ((ModeStatistics.ofRecord record).phase phase).total =
      .ofList ((record.samplesOf phase).map (·.total)) := by
  rw [phase_ofRecord_eq]

theorem names_ofRecord (record : Record) :
    PhaseTable.names (ModeStatistics.ofRecord record).phases =
      (record.samples.map Sample.phase).eraseDups :=
  PhaseTable.names_foldl_add record.samples

/-- The phases of a record are those that some sample names. -/
theorem mem_names_ofRecord (record : Record) (phase : String) :
    phase ∈ PhaseTable.names (ModeStatistics.ofRecord record).phases ↔
      ∃ sample ∈ record.samples, sample.phase = phase := by
  rw [names_ofRecord, List.mem_eraseDups, List.mem_map]

theorem nodup_names_ofRecord (record : Record) :
    (PhaseTable.names (ModeStatistics.ofRecord record).phases).Nodup :=
  PhaseTable.nodup_names_foldl_add record.samples [] .nil

end ColdStart
