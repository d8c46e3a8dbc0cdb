/-
This file holds what an invocation has done so far: what it printed, what it
logged and which commands it launched. What becomes of the next launches is
given in advance; when nothing is left there is no program to start. A runner
says what a launch leaves; unless another one is given, it is that of processes.
-/

import ColdStart.Child

namespace ColdStart

/-- The two logs of a campaign. -/
inductive Log where
  | build
  | run
  deriving DecidableEq, Repr

/-- What a command leaves, given what becomes of its launch. -/
abbrev Runner := Child → Command → Launch

/-- What was done so far, and what becomes of the next launches. -/
structure Session where
  /-- What was printed. -/
  output : String := ""
  /-- What was printed to the error stream. -/
  errors : String := ""
  buildLog : String := ""
  runLog : String := ""
  /-- The commands launched, in order. -/
  launched : Array Command := #[]
  /-- What becomes of the launches to come. -/
  coming : List Child := []
  /-- What launches the commands. -/
  runner : Runner := Child.launch

/-- A computation that goes on with a session. -/
abbrev Running := StateM Session

/-- Lines, each with a line end. -/
def linesText (lines : List String) : String := String.join (lines.map (· ++ "\n"))

namespace Session

/-- Prints a text. -/
def printText (text : String) : Running Unit :=
  modify fun session => { session with output := session.output ++ text }

/-- Prints a line. -/
def print (line : String) : Running Unit := printText (line ++ "\n")

/-- Prints a line to the error stream. -/
def warn (line : String) : Running Unit :=
  modify fun session => { session with errors := session.errors ++ line ++ "\n" }

/-- Writes lines to a log. -/
def writeLog (log : Log) (lines : List String) : Running Unit :=
  modify fun session =>
    match log with
    | .build => { session with buildLog := session.buildLog ++ linesText lines }
    | .run => { session with runLog := session.runLog ++ linesText lines }

/-- Shows a line that a child printed on the stream it came from. -/
def showLine (line : KeptLine) : Running Unit :=
  match line.stream with
  | .output => print line.text
  | .error => warn line.text

/-- Launches a command with what becomes of the next launch. -/
def launch (command : Command) : Running Launch :=
  modifyGet fun session =>
    (session.runner (session.coming.headD .absent) command,
      { session with launched := session.launched.push command, coming := session.coming.tail })

/-- Runs a command with a log and shows what it prints; none when it could not be started, which
is reported. -/
def execute (log : Log) (command : Command) : Running (Option Transcript) := do
  let launch ← launch command
  writeLog log launch.log
  launch.shown.forM showLine
  match launch.result with
  | .ok transcript => return some transcript
  | .error fault =>
    let report := "Could not launch '" ++ fault.program ++ "': " ++ fault.message
    warn report
    writeLog log [report]
    return none

end Session

end ColdStart
