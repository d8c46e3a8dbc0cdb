/-
This file carries out an invocation. A command line names a document to analyse
or asks for modes to be listed, for the commands of one to be shown, or for a
campaign and the analysis of what it leaves; the first of these that is asked
for is done. A fault of the user is reported and ends with a code of its own.
-/

import ColdStart.Analysis
import ColdStart.Benchmark
import ColdStart.Options.Reading

namespace ColdStart

open Workspace

/-- An invocation: its arguments and what it is told of its surroundings. -/
structure Invocation where
  arguments : List String
  /-- The directory of the invocation, which is the one that is built. -/
  workDirectory : String
  moment : Moment
  host : Host := {}

/-- How an invocation ends. -/
inductive Ending where
  | exit (code : Nat)
  /-- It breaks off with a fault that is not reported. -/
  | brokenOff (fault : Fault)

/-- The exit code of an invocation that did what was asked for. -/
def successCode : Nat := 0

/-- The exit code of an invocation that could not. -/
def faultCode : Nat := 2

/-- The name of the program in its messages. -/
def programName : String := "startupbench"

/-- The text that shows what can be asked for. -/
def helpText : String :=
  linesText <| ["usage: " ++ programName ++ " [options] [results_file]", "", "options:"] ++
    OptionName.all.map fun name =>
      "  " ++ padRight 26 (", ".intercalate name.spellings) ++ name.purpose

/-- A text that was given and is not empty. -/
def nonempty? (text? : Option String) : Option String := text?.filter (· != "")

namespace Options

/-- The settings that the options ask for. -/
def settings (options : Options) (workDirectory : String) (moment : Moment) : Settings where
  warmups := options.warmups
  iterations := options.iterations
  firstModes := options.firstModes
  backendName := options.backend.map Backend.name
  resolutionFails := options.resolutionFails
  workDirectory
  outputDirectory := .ofText options.outputDirectory
  timestamp := moment.stamp

/-- The file of the page, if one is asked for. -/
def pagePath? (options : Options) : Option Path := (nonempty? options.page).map Path.ofText

/-- The modes that are asked for, with patterns as an engine reads them. -/
def matrix (options : Options) (engine : PatternEngine) : Except SelectionFault Matrix :=
  let matrix := Matrix.create none options.expandToggles
  match nonempty? options.configs with
  | some selection => matrix.select selection engine
  | none => .ok matrix

end Options

/-- The settings when resolution failures are asked for: where the backend can report them, one
run is enough; where it cannot, they are given up with a warning. -/
def Campaign.forFailures (campaign : Campaign) : Running Campaign := do
  let settings := campaign.settings
  if !settings.resolutionFails then return campaign
  else if campaign.backend.reportsFailures then
    return { campaign with settings := { settings with warmups := 0, iterations := 1 } }
  else
    Session.warn
      ("Warning: --resolution-fails is only supported by the script backend (current: " ++
        campaign.backend.name ++ "). Ignoring...")
    return { campaign with settings := { settings with resolutionFails := false } }

/-- Shows the commands of the first mode with a matching name. -/
def Campaign.showCommands (campaign : Campaign) (matrix : Matrix) (pattern : String)
    (engine : PatternEngine) : Working Unit := do
  let settings := campaign.settings
  let mode ← orEnd .selection (matrix.find pattern engine)
  let build := campaign.backend.buildCommand mode settings.workDirectory
  let run := campaign.backend.runCommand mode imageTag settings.resolutionFails
  inSession (Session.print ("Configuration Selected:\n" ++ mode.name ++ "\n"))
  inSession (Session.print ("Build Command:\n" ++ commandLine build ++ "\n"))
  inSession (Session.print ("Run Command:\n" ++ commandLine run))

/-- The campaign with its limit cut to the number of modes. -/
def Campaign.clamped (campaign : Campaign) (matrix : Matrix) : Campaign :=
  let settings := campaign.settings
  { campaign with
    settings := { settings with firstModes := min settings.firstModes matrix.count } }

namespace Invocation

/-- The analysis of a document that the options ask for. -/
def analysis (invocation : Invocation) (options : Options) (settings : Settings)
    (document : Path) : Analysis where
  document
  report := settings.reportPath
  page? := options.pagePath?
  ofFailures := settings.resolutionFails
  level := options.level
  moment := invocation.moment
  host := invocation.host

/-- Lists modes, shows commands, or runs the campaign and analyses what it leaves. -/
def survey (invocation : Invocation) (options : Options) (settings : Settings) :
    Working Unit := do
  let backend ← orEnd .backend (Backend.ofName settings.backendName invocation.host.preferred)
  let campaign ← inSession (Campaign.forFailures { settings, backend })
  let matrix ← orEnd .selection (options.matrix invocation.host.engine)
  if options.listConfigs then
    inSession (matrix.modes.forM fun mode => Session.print mode.describe)
  else
    match nonempty? options.commandOnly with
    | some pattern => campaign.showCommands matrix pattern invocation.host.engine
    | none =>
      let document ← (campaign.clamped matrix).runBenchmarks matrix
      (invocation.analysis options campaign.settings document).run

/-- Does what the options ask for. -/
def perform (invocation : Invocation) (options : Options) : Working Unit := do
  let settings := options.settings invocation.workDirectory invocation.moment
  match nonempty? options.resultsFile with
  | some document =>
    makeDirectory settings.outputDirectory
    (invocation.analysis options settings (.ofText document)).run
  | none => invocation.survey options settings

/-- Carries out an invocation. -/
def run (invocation : Invocation) : StateM Workspace Ending := do
  match readOptions invocation.arguments with
  | .error .help =>
    onSession (Session.printText helpText)
    return .exit successCode
  | .error (.fault fault) =>
    onSession (Session.warn (programName ++ ": error: " ++ fault.message))
    return .exit faultCode
  | .ok options =>
    match ← (invocation.perform options).run with
    | .ok () => return .exit successCode
    | .error fault =>
      if fault.isReported then
        onSession (Session.warn ("Error: " ++ fault.message))
        return .exit faultCode
      else return .brokenOff fault

end Invocation

end ColdStart
