/-
This file writes the summary as a page: one row a mode, and under it a bar that
sets its total against the longest. Every text from outside is escaped before
it is put between the tags.
-/

import ColdStart.Report.Summary
import ColdStart.Text.Escape

namespace ColdStart

/-- The style of the page. -/
def pageStyle : String := "
    body \x7b background: #0f1318; color: #dde2e8; font-family: sans-serif; margin: 24px; \x7d
    h1 \x7b font-size: 1.5rem; color: #8fa8ff; \x7d
    .meta \x7b color: #9aa3ad; font-size: 0.9rem; margin-bottom: 16px; \x7d
    table \x7b width: 100%; border-collapse: collapse; background: #1a1f29; \x7d
    th, td \x7b padding: 6px 10px; border-bottom: 1px solid #2a303b; text-align: left; \x7d
    th \x7b font-size: 0.8rem; text-transform: uppercase; color: #9aa3ad; \x7d
    .numeric-cell \x7b text-align: right; font-variant-numeric: tabular-nums; \x7d
    .faster \x7b color: #4caf50; \x7d
    .slower \x7b color: #f44336; \x7d
    .empty \x7b text-align: center; color: #9aa3ad; \x7d
    .bar-row td \x7b padding: 0 10px 6px; \x7d
    .bar \x7b height: 4px; background: #6f7ff0; \x7d
"

/-- The title of a page unless another is asked for. -/
def defaultTitle : String := "Startup Benchmark Report"

/-! ### Cells -/

/-- Milliseconds, with one place below ten. -/
def millisecondsText (value : Int) : Except NumberFault String := do
  let nearest ← wholeToBinary64 value
  return nearest.fixedText (if value.natAbs < 10 then 1 else 0) ++ "ms"

/-- The class of a percentage: more than the baseline is slower. -/
def shareClass (share : Int) : String :=
  if percentFactor < share then "slower"
  else if share < percentFactor then "faster"
  else "neutral"

/-- What the page says of the difference from the baseline. -/
def Comparison.label (comparison : Comparison) : String :=
  match comparison.probability with
  | none => "n/a"
  | some probability =>
    "p=" ++ probability.fixedText 3 ++ (if comparison.significant then " ⚠️" else "")

/-- The width of a bar in percent: the share of the longest time, between none and all. -/
def barWidth (total longest : Int) : Except NumberFault Binary64 := do
  let hundred := Binary64.ofInt 100
  let scaled := (← wholeToBinary64 total).mul hundred
  let share := scaled.div (← wholeToBinary64 longest)
  return (Binary64.zero false).max (hundred.min share)

/-- The longest mean time, or one if that is zero. -/
def longestTotal (first : ModeStatistics) (others : List ModeStatistics) : Int :=
  let total (mode : ModeStatistics) : Int := (PhaseDeltas.ofStatistics mode).total
  let longest := others.foldl (fun longest mode => max longest (total mode)) (total first)
  if longest = 0 then 1 else longest

/-! ### Rows -/

/-- What all rows share: the first mode, the longest time, the level and the test. -/
structure PageContext where
  baseline : ModeStatistics
  longest : Int
  level : Binary64
  test : RankTest

/-- A cell with a number. -/
def numberCell (text : String) : String :=
  "        <td class=\"numeric-cell\">" ++ text ++ "</td>"

/-- The row of a mode and the row of its bar. -/
def PageContext.row (context : PageContext) (statistics : ModeStatistics) (isBaseline : Bool) :
    Except NumberFault String := do
  let deltas := PhaseDeltas.ofStatistics statistics
  let share ← percentage deltas.total (PhaseDeltas.ofStatistics context.baseline).total
  let width ← barWidth deltas.total context.longest
  let significance ←
    if isBaseline then pure "baseline"
    else (compareTotals context.baseline statistics context.level context.test).map (·.label)
  let total ← millisecondsText deltas.total
  let runtime ← millisecondsText deltas.runtime
  let host ← millisecondsText deltas.host
  let web ← millisecondsText deltas.web
  let app ← millisecondsText deltas.app
  return joinLines [
    "",
    "      <tr>",
    "        <td title=\"" ++ escapePage statistics.mode.describe ++ "\">" ++
      escapePage statistics.mode.name ++ "</td>",
    numberCell total,
    "        <td class=\"numeric-cell " ++ shareClass share ++ "\">" ++ integerText share ++
      "%</td>",
    numberCell runtime,
    numberCell host,
    numberCell web,
    numberCell app,
    numberCell (integerText statistics.dropped),
    "        <td class=\"significance-cell\">" ++ escapePage significance ++ "</td>",
    "      </tr>",
    "      <tr class=\"bar-row\"><td colspan=\"9\"><div class=\"bar\" style=\"width: " ++
      width.fixedText 1 ++ "%\"></div></td></tr>"]

/-- The rows of all modes. -/
def pageRows (modes : List ModeStatistics) (level : Binary64) (test : RankTest) :
    Except NumberFault String :=
  match modes with
  | [] =>
    .ok "<tr><td colspan=\"9\" class=\"empty\">No configurations in results document</td></tr>"
  | baseline :: others => do
    let context : PageContext := { baseline, longest := longestTotal baseline others, level, test }
    let first ← context.row baseline true
    let rest ← others.mapM fun mode => context.row mode false
    return joinLines (first :: rest)

/-! ### The page -/

/-- The headings of the table. -/
def pageHeadings : String :=
  String.join <|
    ["Mode", "Total", "%", "Runtime", "Apphost", "Webhost", "App", "Dropped", "Significance"].map
      fun heading => "<th>" ++ heading ++ "</th>"

/-- The page with the given title and time of writing. -/
def renderPage (modes : List ModeStatistics) (title timestamp : String) (level : Binary64)
    (test : RankTest := .plain) : Except NumberFault String := do
  let rows ← pageRows modes level test
  let baselineName := (modes.head?.map fun mode => escapePage mode.mode.name).getD "none"
  return joinLines [
    "<!DOCTYPE html>",
    "<html lang=\"en\">",
    "<head>",
    "  <meta charset=\"UTF-8\">",
    "  <title>" ++ escapePage title ++ "</title>",
    "  <style>" ++ pageStyle ++ "  </style>",
    "</head>",
    "<body>",
    "  <h1>" ++ escapePage title ++ "</h1>",
    "  <div class=\"meta\">Baseline: " ++ baselineName ++ " &middot; alpha=" ++
      level.shortestText significanceLayout ++ " &middot; Generated " ++ escapePage timestamp ++
      "</div>",
    "  <table>",
    "    <thead><tr>" ++ pageHeadings ++ "</tr></thead>",
    "    <tbody>",
    rows,
    "    </tbody>",
    "  </table>",
    "</body>",
    "</html>",
    ""]

end ColdStart
