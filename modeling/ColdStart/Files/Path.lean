/-
This file holds paths as they are written. Empty steps and steps that stay in
place are dropped, steps to the parent are kept: what they lead to depends on
the files there are.
-/

import ColdStart.Text.Fields

namespace ColdStart

/-- Where a path begins. Exactly two slashes are a beginning of their own. -/
inductive PathStart where
  | here
  | root
  | doubleRoot
  deriving DecidableEq, Repr

/-- A path: where it begins and its steps. -/
structure Path where
  start : PathStart := .here
  steps : List String := []
  deriving DecidableEq, Repr

/-- The slashes with which a path begins. -/
def PathStart.text : PathStart → String
  | here => ""
  | root => "/"
  | doubleRoot => "//"

/-- Where a text that is a path begins. -/
def PathStart.ofChars : List Char → PathStart
  | '/' :: '/' :: '/' :: _ => .root
  | '/' :: '/' :: _ => .doubleRoot
  | '/' :: _ => .root
  | _ => .here

namespace Path

/-- The path that a text denotes. -/
def ofText (text : String) : Path where
  start := .ofChars text.toList
  steps := ((fieldsAt '/' text.toList).map String.ofList).filter fun step =>
    step != "" && step != "."

/-- The text of a path; a path without steps is the place itself. -/
def text (path : Path) : String :=
  if path = {} then "." else path.start.text ++ "/".intercalate path.steps

/-- The path that goes on with another; one that begins at a root begins anew. -/
def join (path next : Path) : Path :=
  match next.start with
  | .here => { path with steps := path.steps ++ next.steps }
  | _ => next

/-- The path without its last step. -/
def parent (path : Path) : Path := { path with steps := path.steps.dropLast }

/-- The last step without its extension: what stands from its last point on, unless the point is
its first or its last character. -/
def stem (step : String) : String :=
  let behind := step.toList.reverse.takeWhile (· != '.')
  let before := (step.toList.reverse.drop behind.length).drop 1
  if behind.isEmpty || before.isEmpty then step else String.ofList before.reverse

/-- The path with another extension, given with its point. -/
def withExtension (path : Path) (extension : String) : Path :=
  match path.steps.getLast? with
  | some last => { path with steps := path.steps.dropLast ++ [stem last ++ extension] }
  | none => path

end Path

end ColdStart
