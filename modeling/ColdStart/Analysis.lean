/-
This file analyses a document that was left as a file: it shows the report and
leaves it beside the results, and the page if one is asked for. Nothing is
shown or left unless the document can be read.
-/

import ColdStart.Host
import ColdStart.Moment
import ColdStart.Report.Failures
import ColdStart.Report.Page
import ColdStart.Report.Summary
import ColdStart.Workspace

namespace ColdStart

open Workspace

/-- What an analysis reads and leaves. -/
structure Analysis where
  /-- The document that is read. -/
  document : Path
  /-- Where the report is left. -/
  report : Path
  /-- Where the page is left, if one is asked for. -/
  page? : Option Path := none
  /-- Whether the failures are reported and not the timings. -/
  ofFailures : Bool := false
  /-- The level of significance. -/
  level : Binary64
  /-- When the page is made. -/
  moment : Moment
  /-- What parses the document and tests the times. -/
  host : Host := {}

/-- The records of a document that was left as a file, as a given parser reads it. -/
def loadDocument (parse : XmlParser) (path : Path) : Working (List Record) := do
  if ← isThere path then
    orEnd .document (readDocumentWith parse (← readText path))
  else throw (.missingDocument path)

namespace Analysis

/-- Leaves the page of the modes. -/
def leavePage (analysis : Analysis) (modes : List ModeStatistics) (path : Path) :
    Working Unit := do
  makeDirectory path.parent
  let page ← orEnd .number
    (renderPage modes defaultTitle analysis.moment.text analysis.level analysis.host.test)
  writeFile path page
  inSession (Session.print ("Wrote HTML report to: " ++ path.text))

/-- The text of the report; the page is left on the way. -/
def reportText (analysis : Analysis) (records : List Record) : Working String := do
  if analysis.ofFailures then return renderFailures records
  else
    let modes := records.map ModeStatistics.ofRecord
    let text ← orEnd .number (renderReport modes analysis.level analysis.host.test)
    match analysis.page? with
    | some path => analysis.leavePage modes path
    | none => pure ()
    return text

/-- Analyses the document. -/
def run (analysis : Analysis) : Working Unit := do
  let text ← analysis.reportText (← loadDocument analysis.host.parser analysis.document)
  inSession (Session.printText text)
  writeFile analysis.report text

end Analysis

end ColdStart
