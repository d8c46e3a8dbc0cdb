/-
This file groups the samples of each mode by phase. A phase has three series;
the phases stand in the order in which they first appear.
-/

import ColdStart.Document.Record
import ColdStart.Series

namespace ColdStart

/-- Phases and their series, in order of first appearance. -/
abbrev PhaseTable := List (String × PhaseSeries)

/-- The table with one more sample. -/
def PhaseTable.add (sample : Sample) : PhaseTable → PhaseTable
  | [] => [(sample.phase, PhaseSeries.push {} sample.total sample.user sample.system)]
  | (phase, series) :: rest =>
    if phase = sample.phase then
      (phase, series.push sample.total sample.user sample.system) :: rest
    else (phase, series) :: PhaseTable.add sample rest

/-- The statistics of one mode. -/
structure ModeStatistics where
  mode : Mode
  phases : PhaseTable := []
  dropped : Int := 0
  deriving DecidableEq, Repr

namespace ModeStatistics

/-- The statistics of a record. -/
def ofRecord (record : Record) : ModeStatistics :=
  { mode := record.mode
    phases := record.samples.foldl (fun table sample => PhaseTable.add sample table) []
    dropped := record.dropped }

/-- The series of a phase; empty ones if the phase never appeared. -/
def phase (statistics : ModeStatistics) (name : String) : PhaseSeries :=
  (statistics.phases.lookup name).getD {}

/-- The total times of the whole start. -/
def appTotals (statistics : ModeStatistics) : Series := (statistics.phase appPhase).total

end ModeStatistics

/-! ### Mean times by phase -/

/-- The mean start time split by phase: the whole time and the time to the runtime's start, and
what each later phase adds. -/
structure PhaseDeltas where
  total : Int
  runtime : Int
  host : Int
  web : Int
  app : Int
  deriving DecidableEq, Repr

/-- The mean times of a mode. -/
def PhaseDeltas.ofStatistics (statistics : ModeStatistics) : PhaseDeltas :=
  let mean (phase : String) : Int := (statistics.phase phase).total.average
  { total := mean appPhase
    runtime := mean runtimePhase
    host := mean hostPhase - mean runtimePhase
    web := mean webPhase - mean hostPhase
    app := mean appPhase - mean webPhase }

end ColdStart
