/-
This file says what the statistics of records are. Those of each record tell of it and
of no other: the phases that its samples name, in order of first appearance, and for
each of them three series, of that phase's own times alone. No sample is lost on the
way and no phase is empty.
-/

import ColdStart.Proofs.Report.Statistics

namespace ColdStart

/-- The statistics tell of a record, and of each phase by the samples of that phase. -/
structure ModeStatistics.Aggregates (statistics : ModeStatistics) (record : Record) : Prop where
  mode : statistics.mode = record.mode
  dropped : statistics.dropped = record.dropped
  /-- The phases are those of the samples, each once and in order of first appearance. -/
  names : PhaseTable.names statistics.phases = (record.samples.map Sample.phase).eraseDups
  distinct : (PhaseTable.names statistics.phases).Nodup
  /-- A phase that is listed is found under its name. -/
  found : ∀ entry ∈ statistics.phases, statistics.phase entry.1 = entry.2
  /-- Whatever the phase, its series are what fresh ones become by its samples, in order. -/
  total : ∀ phase, (statistics.phase phase).total.IsOf ((record.samplesOf phase).map Sample.total)
  user : ∀ phase, (statistics.phase phase).user.IsOf ((record.samplesOf phase).map Sample.user)
  system : ∀ phase,
    (statistics.phase phase).system.IsOf ((record.samplesOf phase).map Sample.system)
  /-- Every sample is counted in one phase. -/
  measurements : PhaseTable.measurements statistics.phases = record.samples.length
  /-- No listed phase is empty. -/
  filled : ∀ entry ∈ statistics.phases, 0 < entry.2.count

/-- A listed phase is found under its name. -/
theorem phase_of_mem {record : Record} {entry : String × PhaseSeries}
    (listed : entry ∈ (ModeStatistics.ofRecord record).phases) :
    (ModeStatistics.ofRecord record).phase entry.1 = entry.2 := by
  rw [PhaseTable.eq_map_names _ (nodup_names_ofRecord record)] at listed
  obtain ⟨name, -, rfl⟩ := List.mem_map.mp listed
  rfl

theorem count_pos_of_mem {record : Record} {entry : String × PhaseSeries}
    (listed : entry ∈ (ModeStatistics.ofRecord record).phases) : 0 < entry.2.count := by
  obtain ⟨sample, isSample, same⟩ := (mem_names_ofRecord record entry.1).mp
    (List.mem_map_of_mem listed)
  rw [← phase_of_mem listed, phase_ofRecord_eq, PhaseSeries.count, Series.count_ofList,
    List.length_map]
  exact List.length_pos_of_mem (List.mem_filter.mpr ⟨isSample, decide_eq_true same⟩)

theorem aggregates_ofRecord (record : Record) :
    (ModeStatistics.ofRecord record).Aggregates record where
  mode := rfl
  dropped := rfl
  names := names_ofRecord record
  distinct := nodup_names_ofRecord record
  found _ listed := phase_of_mem listed
  total phase := by rw [phase_ofRecord_eq]; exact Series.isOf_ofList _
  user phase := by rw [phase_ofRecord_eq]; exact Series.isOf_ofList _
  system phase := by rw [phase_ofRecord_eq]; exact Series.isOf_ofList _
  measurements := (PhaseTable.measurements_foldl_add record.samples []).trans (Nat.zero_add _)
  filled _ listed := count_pos_of_mem listed

/-- There are statistics for each record, in order, and they tell of that record. Their phases
depend on its samples and on nothing else: they are the same in any other list of records where one
with the same samples stands in that place, whatever it and the others are called. -/
theorem aggregates_ofRecords (records : List Record) :
    List.Forall₂ ModeStatistics.Aggregates (records.map .ofRecord) records ∧
    ∀ (others : List Record) (index : Nat),
      others[index]?.map Record.samples = records[index]?.map Record.samples →
      (others.map ModeStatistics.ofRecord)[index]?.map ModeStatistics.phases =
        (records.map ModeStatistics.ofRecord)[index]?.map ModeStatistics.phases := by
  constructor
  · rw [List.forall₂_map_left_iff]
    exact List.forall₂_same.mpr fun record _ => aggregates_ofRecord record
  · intro others index same
    have phases : ModeStatistics.phases ∘ ModeStatistics.ofRecord =
        (fun samples : List Sample =>
          samples.foldl (fun table sample => PhaseTable.add sample table) []) ∘
            Record.samples := rfl
    rw [List.getElem?_map, List.getElem?_map, Option.map_map, Option.map_map, phases,
      ← Option.map_map, ← Option.map_map, same]

end ColdStart
