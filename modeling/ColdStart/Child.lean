/-
This file runs one child process. Its two streams are read side by side, and
what arrives from them is kept in the order of arrival until both have ended.
A kept line has lost its line end; empty lines are not kept. A launch writes
its command, the kept lines and its end to a log.
-/

import ColdStart.Backend
import ColdStart.Text.Quoted
import ColdStart.Text.Columns

namespace ColdStart

/-! ### What a child does -/

/-- A stream that a child process prints to. -/
inductive OutputStream where
  | output
  | error
  deriving DecidableEq, Repr

/-- What arrives from a stream: a line with its line end, or the end of the stream. -/
inductive Arrival where
  | line (stream : OutputStream) (raw : String)
  | finish (stream : OutputStream)
  deriving DecidableEq, Repr

/-- What a child that was started does. -/
structure ChildRun where
  exitCode : Int
  arrivals : List Arrival
  /-- The milliseconds it takes. -/
  elapsed : Nat := 0
  deriving DecidableEq, Repr

/-- What becomes of a launch. -/
inductive Child where
  | refused (code : Int) (reason : String)
  | started (run : ChildRun)
  deriving DecidableEq, Repr

/-- A program that could not be started. -/
structure LaunchFault where
  code : Int
  reason : String
  program : String
  deriving DecidableEq, Repr

/-- The sentence that reports the fault. -/
def LaunchFault.message (fault : LaunchFault) : String :=
  "[Errno " ++ integerText fault.code ++ "] " ++ fault.reason ++ ": " ++ quoted fault.program

/-- What becomes of a launch when there is no such program. -/
def Child.absent : Child := .refused 2 "No such file or directory"

/-- The child that prints raw lines in this order over both streams and then ends them. -/
def Child.printing (exitCode : Int) (lines : List (OutputStream × String)) : Child :=
  .started {
    exitCode
    arrivals := lines.map (fun (stream, raw) => .line stream raw) ++
      [.finish .output, .finish .error] }

/-! ### What is kept of it -/

/-- A line that was kept. -/
structure KeptLine where
  stream : OutputStream
  text : String
  deriving DecidableEq, Repr

/-- A raw line without the line end characters at its end. -/
def withoutLineEnd (raw : String) : String :=
  String.ofList
    (raw.toList.reverse.dropWhile fun character => character = '\r' || character = '\n').reverse

/-- The lines kept of what arrives until so many streams have ended, and what arrives later. -/
def drain : (openStreams : Nat) → List Arrival → List KeptLine × List Arrival
  | 0, later => ([], later)
  | _ + 1, [] => ([], [])
  | openStreams + 1, .finish _ :: rest => drain openStreams rest
  | openStreams + 1, .line stream raw :: rest =>
    let (kept, later) := drain (openStreams + 1) rest
    let text := withoutLineEnd raw
    (if text = "" then kept else ⟨stream, text⟩ :: kept, later)

/-- The number of streams that are read. -/
def streamCount : Nat := 2

/-- The lines kept of a run. -/
def ChildRun.kept (run : ChildRun) : List KeptLine := (drain streamCount run.arrivals).1

/-- A kept line as it is logged: marked when it is from the error stream. -/
def KeptLine.logged (line : KeptLine) : String :=
  match line.stream with
  | .output => line.text
  | .error => "!!" ++ line.text

/-! ### A launch -/

/-- What a launch leaves: what became of it, the lines to show and the lines of the log. -/
structure Launch where
  result : Except LaunchFault Transcript
  shown : List KeptLine
  log : List String

/-- The first line of the log of a launch. -/
def runningLine (command : Command) : String := "Running " ++ commandLine command

/-- The last line of the log of a launch. -/
def finishedLine (command : Command) (run : ChildRun) : String :=
  "Finished in " ++ toString run.elapsed ++ " msecs with exit code " ++
    integerText run.exitCode ++ ": " ++ commandLine command

/-- The launch of a command. -/
def Child.launch (child : Child) (command : Command) : Launch :=
  match child with
  | .refused code reason =>
    ⟨.error ⟨code, reason, command.headD ""⟩, [], [runningLine command]⟩
  | .started run =>
    let kept := run.kept
    ⟨.ok ⟨run.exitCode, kept.map (·.text), run.elapsed⟩, kept,
      [runningLine command] ++ kept.map KeptLine.logged ++ [finishedLine command run]⟩

/-- The environment of a child: that of its parent with more variables, which replace those of the
same name. -/
def withVariables (environment more : List (String × String)) : List (String × String) :=
  more.foldl
    (fun environment added => environment.filter (fun known => known.1 != added.1) ++ [added])
    environment

end ColdStart
