/-
This file cuts a run's output. The lines between a start mark and the next end
mark are the timing fragment; failures are named in the lines after an end mark
up to the next start mark.
-/

import ColdStart.Text.Search

namespace ColdStart

/-- The line before a timing fragment. -/
def fragmentStart : String := "XMLXMLXML"

/-- The line after a timing fragment. -/
def fragmentEnd : String := "LMXLMXLMX"

/-- What stands before the name of a failure. -/
def failureOpening : String := "<R2RResolutionFailed>"

/-- What stands after the name of a failure. -/
def failureClosing : String := "</R2RResolutionFailed>"

/-- The name of a failure: the text from the first opening to the last closing behind it. -/
def failureIdentifier? (line : String) : Option String := do
  let (_, behind) ← splitFirst? failureOpening.toList line.toList
  let (identifier, _) ← splitLast? failureClosing.toList behind
  return String.ofList identifier

/-- What is kept of the output of a run. -/
structure Capture where
  fragment : List String := []
  failures : List String := []
  deriving DecidableEq, Repr

/-- Where in the output a line stands. -/
inductive Section where
  /-- No start mark yet. -/
  | before
  /-- A start mark and no end mark behind it. -/
  | inside
  /-- An end mark and no start mark behind it. -/
  | after
  deriving DecidableEq, Repr

/-- The capture with one more line in front of the fragment. -/
def Capture.consLine (line : String) (capture : Capture) : Capture :=
  { capture with fragment := line :: capture.fragment }

/-- The capture with one more failure in front. -/
def Capture.consFailure? (failure? : Option String) (capture : Capture) : Capture :=
  match failure? with
  | some failure => { capture with failures := failure :: capture.failures }
  | none => capture

/-- What is kept of the lines from a place on. -/
def captureFrom (collectFailures : Bool) : Section → List String → Capture
  | _, [] => {}
  | place, line :: rest =>
    if line = fragmentStart then captureFrom collectFailures .inside rest
    else
      match place with
      | .before => captureFrom collectFailures .before rest
      | .inside =>
        if line = fragmentEnd then captureFrom collectFailures .after rest
        else (captureFrom collectFailures .inside rest).consLine line
      | .after =>
        (captureFrom collectFailures .after rest).consFailure?
          (if collectFailures then failureIdentifier? line else none)

/-- What is kept of the output of a run. -/
def Capture.ofLines (lines : List String) (collectFailures : Bool) : Capture :=
  captureFrom collectFailures .before lines

end ColdStart
