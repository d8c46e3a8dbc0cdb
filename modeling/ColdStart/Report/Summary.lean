/-
This file writes the report: a summary with one row a mode, in milliseconds and
in percent of the first mode, then the statistics of each mode, and, with more
than one mode, the significance of each difference from the first.
-/

import ColdStart.Number.Shortest
import ColdStart.Percentage
import ColdStart.Report.Significance

namespace ColdStart

/-- The headings of the summary. -/
def summaryHeader : String :=
  "TOTAL |  %  | RUNTIME |  %  | APPHOST |  %  | WEBHOST |  %  |   APP   |  %  | DROPPED | MODE"

/-- A number and its percentage of the baseline, in columns of the given width and of three. -/
def shareColumns (width : Nat) (number baseline : Int) : Except NumberFault (List String) := do
  let share ← percentage number baseline
  return [padLeft width (integerText number), padLeft 3 (integerText share)]

/-- The row of a mode. -/
def summaryRow (deltas baseline : PhaseDeltas) (dropped : Int) (name : String) :
    Except NumberFault String := do
  let total ← shareColumns 5 deltas.total baseline.total
  let runtime ← shareColumns 7 deltas.runtime baseline.runtime
  let host ← shareColumns 7 deltas.host baseline.host
  let web ← shareColumns 7 deltas.web baseline.web
  let app ← shareColumns 7 deltas.app baseline.app
  return " | ".intercalate
    (total ++ runtime ++ host ++ web ++ app ++ [padLeft 7 (integerText dropped), name])

/-- The row of each mode against the first. -/
def summaryRows (modes : List ModeStatistics) : Except NumberFault (List String) :=
  match modes with
  | [] => .ok []
  | first :: _ =>
    let baseline := PhaseDeltas.ofStatistics first
    modes.mapM fun mode =>
      summaryRow (.ofStatistics mode) baseline mode.dropped mode.mode.name

/-- The summary. -/
def summaryLines (rows : List String) : List String :=
  underlined "Summary" ++ underlined summaryHeader ++ rows

/-- The statistics of one mode. -/
def detailLines (statistics : ModeStatistics) : List String :=
  underlined statistics.mode.describe ++
    (statistics.phases.flatMap fun (name, series) => series.lines name) ++
    (if statistics.dropped != 0 then
      ["DROPPED MEASURED RUNS: " ++ integerText statistics.dropped] else []) ++
    [""]

/-- What a comparison comes to. -/
def Comparison.verdict (comparison : Comparison) (level : Binary64) : String :=
  match comparison.probability with
  | none => "p=n/a (too few samples or all tied)"
  | some probability =>
    "p=" ++ probability.fixedText 4 ++ " (" ++
      (if comparison.significant then "SIGNIFICANT" else "not significant") ++
      " at alpha=" ++ level.shortestText significanceLayout ++ ")"

/-- The line of a comparison. -/
def Comparison.line (level : Binary64) (comparison : Comparison) : String :=
  padRight 40 comparison.name ++ ": median " ++ comparison.median.fixedText 1 ++
    " ms vs baseline " ++ comparison.baselineMedian.fixedText 1 ++ " ms, " ++
    comparison.verdict level

/-- The comparisons of all modes but the first. -/
def significanceLines (comparisons : List Comparison) (level : Binary64) : List String :=
  underlined "Significance (APP total vs baseline, Mann-Whitney U)" ++
    comparisons.map (Comparison.line level) ++ [""]

/-- The sections of the report, each ended by a newline. -/
def reportSections (modes : List ModeStatistics) (level : Binary64) (test : RankTest) :
    Except NumberFault (List String) := do
  let rows ← summaryRows modes
  let summary := joinLines (summaryLines rows) ++ "\n"
  let details := joinLines (underlined "Details" ++ modes.flatMap detailLines) ++ "\n"
  match modes with
  | baseline :: second :: others =>
    let comparisons ← (second :: others).mapM fun mode => compareTotals baseline mode level test
    return [summary, details, joinLines (significanceLines comparisons level) ++ "\n"]
  | _ => return [summary, details]

/-- The report. -/
def renderReport (modes : List ModeStatistics) (level : Binary64)
    (test : RankTest := .plain) : Except NumberFault String :=
  (reportSections modes level test).map joinLines

end ColdStart
