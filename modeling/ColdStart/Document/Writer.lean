/-
This file writes results documents. A document is a list of blocks, one a mode:
the toggles, the captured timing lines as they were printed, and the failures
of each run. The lines of a fragment are not looked into; only a line that
begins a timing gets a blank line before it.
-/

import ColdStart.Backend
import ColdStart.Document.Record
import ColdStart.Text.Columns
import ColdStart.Text.Escape
import ColdStart.Text.Search

namespace ColdStart

/-- What a document is to say of one mode. -/
structure BlockContent where
  mode : Mode
  fragment : List String := []
  dropped : Int := 0
  /-- The failures of each run. -/
  failureRuns : List (List String) := []
  deriving DecidableEq, Repr

/-- What a line begins with that begins a timing. -/
def timingStart : String := "<Timing"

/-- The lines that open a block and give its mode. -/
def modeLines (mode : Mode) : List String :=
  ("<BuildAndRun Name=" ++ quoteAttribute mode.name ++ ">") ::
    Toggle.all.map fun toggle =>
      "  <" ++ toggle.tag ++ ">" ++ boolWord (mode.has toggle) ++ "</" ++ toggle.tag ++ ">"

/-- The lines for one line of a fragment. -/
def fragmentLines (line : String) : List String :=
  if (stripFront? timingStart.toList line.toList).isSome then ["", "    " ++ line]
  else ["    " ++ line]

/-- The line for one failure. -/
def failureLine (identifier : String) : String :=
  "      <R2RResolutionFailed>" ++ escapeContent identifier ++ "</R2RResolutionFailed>"

/-- The lines for the failures of one run. -/
def failureLines (identifiers : List String) : List String :=
  ["", "    <R2RFails>"] ++ identifiers.map failureLine ++ ["    </R2RFails>"]

/-- The lines of a block. -/
def BlockContent.lines (content : BlockContent) : List String :=
  [""] ++ modeLines content.mode ++
    ["", "  <Results Dropped=\"" ++ integerText content.dropped ++ "\">"] ++
    content.fragment.flatMap fragmentLines ++
    content.failureRuns.flatMap failureLines ++
    ["  </Results>", "</BuildAndRun>"]

/-- A document that is being written: its blocks, in order. -/
structure DocumentWriter where
  blocks : List (List String) := []
  deriving DecidableEq, Repr

namespace DocumentWriter

/-- The document with one more block. -/
def add (writer : DocumentWriter) (content : BlockContent) : DocumentWriter :=
  ⟨writer.blocks ++ [content.lines]⟩

/-- The number of blocks. -/
def size (writer : DocumentWriter) : Nat := writer.blocks.length

/-- The text of the document. -/
def render (writer : DocumentWriter) : String :=
  joinLines (["<Xml>"] ++ writer.blocks.flatten ++ ["</Xml>"]) ++ "\n"

end DocumentWriter

end ColdStart
