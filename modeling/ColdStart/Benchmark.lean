/-
This file runs a campaign and leaves its documents and logs as files. The logs
are there before the first launch, so that a directory that cannot be written
to ends the campaign before anything was built.
-/

import ColdStart.Campaign
import ColdStart.Workspace

namespace ColdStart

open Workspace

/-- The line between the progress of a campaign and its results. -/
def documentRule : String := String.ofList (List.replicate 70 '=')

namespace Campaign

/-- Processes the modes of a matrix that are taken, with the logs in files; the documents. -/
def runLogged (campaign : Campaign) (matrix : Matrix) : Working Documents := do
  let settings := campaign.settings
  makeDirectory settings.outputDirectory
  writeFile settings.buildLogPath ""
  writeFile settings.runLogPath ""
  let (places, total) ← orEnd .limit (campaign.selected matrix)
  let (_, documents) ← inSession (campaign.processAll places total campaign.blankDocuments)
  let session := (← get).session
  writeFile settings.buildLogPath session.buildLog
  writeFile settings.runLogPath session.runLog
  return documents

/-- Runs a campaign and leaves its documents; the path of the one to be analysed. -/
def runBenchmarks (campaign : Campaign) (matrix : Matrix) : Working Path := do
  let settings := campaign.settings
  let documents ← campaign.runLogged matrix
  let document := documents.results.render
  inSession (Session.print documentRule)
  inSession (Session.print document)
  writeFile settings.resultsPath document
  match documents.failures? with
  | some failures =>
    writeFile settings.failuresPath failures.render
    return settings.failuresPath
  | none => return settings.resultsPath

end Campaign

end ColdStart
