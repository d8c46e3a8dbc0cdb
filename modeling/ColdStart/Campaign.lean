/-
This file runs a campaign. Each mode is built once; a mode whose build fails is
passed over. A mode that was built is started so many times to warm up and then
so many times to be measured. Only a run that ends as the measured server ends
counts; any other is dropped, and the dropped runs among the measured are
counted. What the measured runs gave is added to the documents as soon as a mode
is done.
-/

import ColdStart.Capture
import ColdStart.Document.Writer
import ColdStart.Matrix
import ColdStart.Session
import ColdStart.Settings

namespace ColdStart

/-! ### What comes of a mode -/

/-- What the measured runs of a mode gave. -/
structure Measurement where
  /-- The timing lines of the runs that count. -/
  fragment : List String := []
  /-- The failures of each run that counts, if they are collected. -/
  failureRuns : List (List String) := []
  /-- The number of runs that count. -/
  measured : Nat := 0
  /-- The number of runs that were dropped. -/
  dropped : Nat := 0
  deriving DecidableEq, Repr

/-- What came of a mode. -/
inductive Outcome where
  | buildFailed (mode : Mode)
  | recorded (mode : Mode) (artifact : String) (measurement : Measurement)
  deriving DecidableEq, Repr

/-- The measurement with one more run, which was dropped if nothing was captured. -/
def Measurement.add (collectFailures : Bool) (measurement : Measurement)
    (capture? : Option Capture) : Measurement :=
  match capture? with
  | none => { measurement with dropped := measurement.dropped + 1 }
  | some capture => { measurement with
      measured := measurement.measured + 1
      fragment := measurement.fragment ++ capture.fragment
      failureRuns :=
        if collectFailures then measurement.failureRuns ++ [capture.failures]
        else measurement.failureRuns }

/-- What so many runs gave. -/
def Measurement.ofRuns (collectFailures : Bool) (captures : List (Option Capture)) :
    Measurement :=
  captures.foldl (Measurement.add collectFailures) {}

/-- What is written of a mode that was measured. -/
def Measurement.content (measurement : Measurement) (mode : Mode) (withFailures : Bool) :
    BlockContent where
  mode
  fragment := measurement.fragment
  dropped := measurement.dropped
  failureRuns := if withFailures then measurement.failureRuns else []

/-- The documents of a campaign. -/
structure Documents where
  results : DocumentWriter := {}
  /-- The document of the failures, if they are collected. -/
  failures? : Option DocumentWriter
  deriving DecidableEq, Repr

/-- The documents with one more block each, for a mode that was measured. -/
def Documents.add (documents : Documents) (mode : Mode) (measurement : Measurement) :
    Documents where
  results := documents.results.add (measurement.content mode false)
  failures? := documents.failures?.map (·.add (measurement.content mode true))

/-! ### Running -/

/-- A campaign: its settings and the backend that they name. -/
structure Campaign where
  settings : Settings
  backend : Backend
  deriving DecidableEq, Repr

/-- The exit code of a server that was stopped after it had reported. -/
def reportedExitCode : Int := 143

/-- The code that stands for a launch that was refused. -/
def refusedExitCode : Int := -1

/-- What marks a warning. -/
def warningMark : String := "⚠️  "

namespace Campaign

/-- Whether failures are collected: they are asked for and the backend can report them. -/
def collectsFailures (campaign : Campaign) : Bool :=
  campaign.settings.resolutionFails && campaign.backend.reportsFailures

/-- The place of a mode among all, as it is shown. -/
def progress (index total : Nat) : String :=
  toString (index + 1) ++ " / " ++ toString total

/-- The exit code that is reported for a launch. -/
def shownExitCode (transcript? : Option Transcript) : String :=
  integerText ((transcript?.map (·.exitCode)).getD refusedExitCode)

/-- Builds a mode; the artifact, unless the build failed. -/
def build (campaign : Campaign) (mode : Mode) (index total : Nat) : Running (Option String) := do
  Session.print ("\nBuilding configuration: " ++ mode.name ++ " (" ++ progress index total ++ ")")
  let transcript? ← Session.execute .build
    (campaign.backend.buildCommand mode campaign.settings.workDirectory)
  let elapsed := (transcript?.map (·.elapsed)).getD 0
  Session.print ("\nDone building configuration: " ++ mode.name ++ " (" ++
    progress index total ++ ", " ++ toString elapsed ++ " msecs)")
  match transcript?.bind campaign.backend.artifact? with
  | some artifact => return some artifact
  | none =>
    let failure := "Build of '" ++ mode.name ++ "' failed (exit code " ++
      shownExitCode transcript? ++ ")"
    Session.warn (warningMark ++ failure ++ "; skipping configuration")
    Session.writeLog .build [failure]
    return none

/-- What is captured of a launch, if it counts. -/
def capture? (campaign : Campaign) (transcript? : Option Transcript) : Option Capture :=
  match transcript? with
  | some transcript =>
    if transcript.exitCode = reportedExitCode then
      some (Capture.ofLines transcript.lines campaign.collectsFailures)
    else none
  | none => none

/-- Starts a mode once; what is captured, unless the run is dropped. -/
def runOnce (campaign : Campaign) (mode : Mode) (artifact : String) :
    Running (Option Capture) := do
  let transcript? ← Session.execute .run
    (campaign.backend.runCommand mode artifact campaign.collectsFailures)
  match campaign.capture? transcript? with
  | some capture => return some capture
  | none =>
    let dropped := "Run of '" ++ mode.name ++ "' exited with " ++
      shownExitCode transcript? ++ "; sample dropped"
    Session.warn (warningMark ++ dropped)
    Session.writeLog .run [dropped]
    return none

/-- Starts a mode so many times. -/
def runTimes (campaign : Campaign) (mode : Mode) (artifact : String) :
    Nat → Running (List (Option Capture))
  | 0 => return []
  | count + 1 => do
    let first ← campaign.runOnce mode artifact
    return first :: (← campaign.runTimes mode artifact count)

/-- The documents before any mode was measured. -/
def blankDocuments (campaign : Campaign) : Documents where
  failures? := if campaign.collectsFailures then some {} else none

/-- Builds a mode, warms it up and measures it. What the runs gave goes into the documents. -/
def process (campaign : Campaign) (mode : Mode) (index total : Nat) (documents : Documents) :
    Running (Outcome × Documents) := do
  match ← campaign.build mode index total with
  | none => return (.buildFailed mode, documents)
  | some artifact =>
    let _ ← campaign.runTimes mode artifact campaign.settings.warmups.toNat
    let captures ← campaign.runTimes mode artifact campaign.settings.iterations.toNat
    let measurement := Measurement.ofRuns campaign.collectsFailures captures
    return (.recorded mode artifact measurement, documents.add mode measurement)

/-- The modes that are taken, with their places, and their number. -/
def selected (campaign : Campaign) (matrix : Matrix) :
    Except LimitFault (List (Mode × Nat) × Nat) :=
  let limit := campaign.settings.firstModes
  if limit ≠ 0 ∧ limit < matrix.count then
    (matrix.eachUntil limit).map fun places => (places, limit.toNat)
  else .ok (matrix.each, matrix.count)

/-- Processes modes at their places, one after another, and adds to the documents. -/
def processAll (campaign : Campaign) :
    List (Mode × Nat) → (total : Nat) → Documents → Running (List Outcome × Documents)
  | [], _, documents => return ([], documents)
  | (mode, index) :: rest, total, documents => do
    let (outcome, documents) ← campaign.process mode index total documents
    let (outcomes, documents) ← campaign.processAll rest total documents
    return (outcome :: outcomes, documents)

end Campaign

end ColdStart
