/-
This file holds what an invocation works with, its files and its session, and
the faults that can end it. What was done before a fault stays done.
-/

import ColdStart.Document.Reader
import ColdStart.Files.Tree
import ColdStart.Matrix
import ColdStart.Number.Fault
import ColdStart.Session
import ColdStart.Text.Utf8

namespace ColdStart

/-! ### Faults -/

/-- Why an invocation ends early. -/
inductive Fault where
  | selection (fault : SelectionFault)
  | limit (fault : LimitFault)
  | backend (fault : BackendFault)
  | file (fault : FileFault)
  /-- A document to be analysed is not there. -/
  | missingDocument (path : Path)
  | encoding (fault : Utf8Fault)
  | document (fault : DocumentFault)
  | number (fault : NumberFault)

namespace Fault

/-- The sentence that reports the fault. -/
def message : Fault → String
  | selection fault => fault.message
  | limit fault => fault.message
  | backend fault => fault.message
  | file fault => fault.message
  | missingDocument path => "Results document not found: " ++ path.text
  | encoding fault => fault.message
  | document fault => fault.message
  | number fault => fault.message

/-- Whether the fault lies in what was asked for or read, so that it is reported to the user. Others
are left to whoever made the invocation: files that cannot be used although they are there, and
numbers that are too large. -/
def isReported : Fault → Bool
  | selection (.badPattern _ .repetitionTooLarge) | selection (.badPattern _ .codeTooLarge) => false
  | selection _ | limit _ | backend _ | missingDocument _ | encoding _ | document _ => true
  | file (.refused .notFound _) | file .nullCharacter => true
  | file (.refused _ _) => false
  | number .undefinedWhole => true
  | number _ => false

end Fault

/-! ### Working -/

/-- What an invocation works with. -/
structure Workspace where
  files : FileTree := {}
  session : Session := {}

/-- A computation that works on a workspace and may end early. -/
abbrev Working := ExceptT Fault (StateM Workspace)

namespace Workspace

/-- A result that may be a fault. -/
def orEnd {α Cause : Type} (fault : Cause → Fault) (result : Except Cause α) : Working α :=
  match result with
  | .ok value => return value
  | .error cause => throw (fault cause)

/-- Goes on with the session. -/
def onSession {α : Type} (running : Running α) : StateM Workspace α :=
  modifyGet fun workspace =>
    let (value, session) := running workspace.session
    (value, { workspace with session })

/-- Goes on with the session, which ends nothing. -/
def inSession {α : Type} (running : Running α) : Working α := ExceptT.lift (onSession running)

/-- Changes the files. -/
def changeFiles (change : FileTree → Except FileFault FileTree) : Working Unit := do
  let workspace ← get
  let files ← orEnd .file (change workspace.files)
  set { workspace with files }

/-- Writes a text to a file. -/
def writeFile (path : Path) (text : String) : Working Unit :=
  changeFiles fun files => files.write path text.toUTF8

/-- Makes a directory and what is missing on the way to it. -/
def makeDirectory (path : Path) : Working Unit :=
  changeFiles fun files => files.makeDirectory path

/-- The text of a file. -/
def readText (path : Path) : Working String := do
  let bytes ← orEnd .file ((← get).files.read path)
  orEnd .encoding (decodeUtf8 bytes)

/-- Whether there is anything at the end of a path. -/
def isThere (path : Path) : Working Bool := do
  orEnd .file ((← get).files.contains path)

end Workspace

end ColdStart
