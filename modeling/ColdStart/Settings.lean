/-
This file holds the settings of an invocation and the names of the files that
it leaves, which all bear the same time stamp.
-/

import ColdStart.Backend
import ColdStart.Files.Path

namespace ColdStart

/-- The settings of an invocation. -/
structure Settings where
  /-- How many runs of a mode are made before those that count. -/
  warmups : Int := 2
  /-- How many runs of a mode count. -/
  iterations : Int := 10
  /-- How many modes are taken; zero is all of them. -/
  firstModes : Int := 0
  /-- The name of the backend; none is that which the host prefers. -/
  backendName : Option String := none
  /-- Whether resolution failures are asked for. -/
  resolutionFails : Bool := false
  /-- The directory that is built. -/
  workDirectory : String := "."
  /-- The directory of the files that are left. -/
  outputDirectory : Path := {}
  /-- The stamp of the files that are left. -/
  timestamp : String
  deriving DecidableEq, Repr

namespace Settings

/-- The path of a file that is left. -/
def leftFile (settings : Settings) (front extension : String) : Path :=
  settings.outputDirectory.join (.ofText (front ++ settings.timestamp ++ extension))

/-- The path of the results document. -/
def resultsPath (settings : Settings) : Path := settings.leftFile "results-" ".xml"

/-- The path of the failures document. -/
def failuresPath (settings : Settings) : Path := settings.leftFile "r2rfails-" ".xml"

/-- The path of the report: that of the results with another extension. -/
def reportPath (settings : Settings) : Path := settings.resultsPath.withExtension ".txt"

/-- The path of the log of the builds. -/
def buildLogPath (settings : Settings) : Path := settings.leftFile "jellyfin-build-" ".log"

/-- The path of the log of the runs. -/
def runLogPath (settings : Settings) : Path := settings.leftFile "jellyfin-run-" ".log"

end Settings

end ColdStart
