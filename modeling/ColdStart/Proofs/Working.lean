/-
This file follows a computation on a workspace up to its end. It ends early only
when something is wrong; here that is a file that cannot be used, and everything
else goes on. So a step is described by what it leaves unless a file is refused,
and steps are put together from there.
-/

import ColdStart.Analysis
import ColdStart.Proofs.Files.Writing

namespace ColdStart

open Workspace

/-- A result is given or ends the computation, and nothing is done. -/
theorem run_orEnd_eq {Value Cause : Type} (fault : Cause → Fault) (result : Except Cause Value)
    (workspace : Workspace) :
    (orEnd fault result).run.run workspace = (result.mapError fault, workspace) := by
  cases result <;> rfl

theorem run_orEnd {Value Cause : Type} (fault : Cause → Fault) {result : Except Cause Value}
    {value : Value} (good : result = .ok value) (workspace : Workspace) :
    (orEnd fault result).run.run workspace = (.ok value, workspace) := by
  rw [run_orEnd_eq, good]
  rfl

/-- The session goes on, and the files stay as they are. -/
theorem run_inSession {Value : Type} (running : Running Value) (workspace : Workspace) :
    (inSession running).run.run workspace =
      (.ok (running.run workspace.session).1,
        { workspace with session := (running.run workspace.session).2 }) := rfl

theorem run_get (workspace : Workspace) :
    (get : Working Workspace).run.run workspace = (.ok workspace, workspace) := rfl

/-- A step goes on from what the step before it gave and left, unless that ended early. -/
theorem run_bind {Value Next : Type} (step : Working Value) (next : Value → Working Next)
    (workspace : Workspace) :
    (step >>= next).run.run workspace =
      match step.run.run workspace with
      | (.ok value, after) => (next value).run.run after
      | (.error fault, after) => (.error fault, after) := by
  rw [ExceptT.run_bind, StateT.run_bind]
  rcases step.run.run workspace with ⟨result, after⟩
  cases result <;> rfl

theorem run_bind_ok {Value Next : Type} {step : Working Value} {next : Value → Working Next}
    {value : Value} {workspace after : Workspace}
    (given : step.run.run workspace = (.ok value, after)) :
    (step >>= next).run.run workspace = (next value).run.run after := by
  rw [run_bind, given]

theorem run_bind_error {Value Next : Type} {step : Working Value} {next : Value → Working Next}
    {fault : Fault} {workspace after : Workspace}
    (ended : step.run.run workspace = (.error fault, after)) :
    (step >>= next).run.run workspace = (.error fault, after) := by
  rw [run_bind, ended]

/-- Changed files are left, and the session stays as it is. -/
theorem run_changeFiles (change : FileTree → Except FileFault FileTree) (workspace : Workspace) :
    (Workspace.changeFiles change).run.run workspace =
      match change workspace.files with
      | .ok files => (.ok (), { workspace with files })
      | .error fault => (.error (.file fault), workspace) := by
  have begins : (Workspace.changeFiles change).run.run workspace =
      ((Workspace.orEnd Fault.file (change workspace.files) >>= fun files =>
        set { workspace with files }) : Working Unit).run.run workspace := rfl
  rw [begins]
  cases change workspace.files <;> rfl

theorem run_makeDirectory {path : Path} {workspace : Workspace} {files : FileTree}
    (made : workspace.files.makeDirectory path = .ok files) :
    (makeDirectory path).run.run workspace = (.ok (), { workspace with files }) := by
  rw [makeDirectory, run_changeFiles, made]

/-- A file is written where that is accepted. -/
theorem FileTree.Accepts.run_writeFile {files : FileTree} {path : Path}
    (accepts : files.Accepts path) (text : String) (session : Session) :
    ∃ after, files.write path text.toUTF8 = .ok after ∧
      (Workspace.writeFile path text).run.run { files, session } =
        (.ok (), { files := after, session }) := by
  obtain ⟨after, wrote⟩ := accepts text.toUTF8
  refine ⟨after, wrote, ?_⟩
  rw [Workspace.writeFile, run_changeFiles, wrote]

/-- A step ends early, whatever was done up to then. -/
def EndsEarly {Value : Type} (step : Working Value) (workspace : Workspace) : Prop :=
  ∃ fault after, step.run.run workspace = (.error fault, after)

namespace EndsEarly

variable {Value Next : Type} {step : Working Value} {next : Value → Working Next}
  {workspace : Workspace}

theorem before (here : EndsEarly step workspace) : EndsEarly (step >>= next) workspace := by
  obtain ⟨fault, after, ended⟩ := here
  exact ⟨fault, after, run_bind_error ended⟩

theorem behind (later : ∀ value after, EndsEarly (next value) after) :
    EndsEarly (step >>= next) workspace := by
  rw [EndsEarly, run_bind]
  split
  · exact later _ _
  · exact ⟨_, _, rfl⟩

end EndsEarly

/-- A step on a workspace gives a value, and leaves a workspace, that are as they should be. If it
is excused, it may be refused a file instead. -/
def Ends {Value : Type} (excused : Prop) (step : Working Value) (workspace : Workspace)
    (right : Value → Workspace → Prop) : Prop :=
  (excused ∧ ∃ fault after, step.run.run workspace = (.error (.file fault), after)) ∨
    ∃ value after, step.run.run workspace = (.ok value, after) ∧ right value after

namespace Ends

variable {Value Next : Type} {excused : Prop} {workspace : Workspace}

theorem pure {value : Value} {right : Value → Workspace → Prop} (holds : right value workspace) :
    Ends excused (Pure.pure value) workspace right := .inr ⟨value, workspace, rfl, holds⟩

theorem imp {step : Working Value} {right other : Value → Workspace → Prop}
    (here : Ends excused step workspace right)
    (weaker : ∀ value after, right value after → other value after) :
    Ends excused step workspace other := by
  rcases here with refused | ⟨value, after, given, holds⟩
  · exact .inl refused
  · exact .inr ⟨value, after, given, weaker value after holds⟩

/-- Steps follow one another as long as nothing is refused. -/
theorem bind {step : Working Value} {next : Value → Working Next}
    {first : Value → Workspace → Prop} {right : Next → Workspace → Prop}
    (here : Ends excused step workspace first)
    (later : ∀ value after, first value after → Ends excused (next value) after right) :
    Ends excused (step >>= next) workspace right := by
  rcases here with ⟨excuse, fault, after, refused⟩ | ⟨value, after, given, holds⟩
  · exact .inl ⟨excuse, fault, after, run_bind_error refused⟩
  · rw [Ends, run_bind_ok given]
    exact later value after holds

/-- A step that is known to give a value comes before another. -/
theorem follow {step : Working Value} {next : Value → Working Next} {value : Value}
    {after : Workspace} {right : Next → Workspace → Prop}
    (given : step.run.run workspace = (.ok value, after))
    (later : Ends excused (next value) after right) :
    Ends excused (step >>= next) workspace right := by
  rw [Ends, run_bind_ok given]
  exact later

theorem changeFiles {change : FileTree → Except FileFault FileTree}
    {right : Unit → Workspace → Prop}
    (accepted : excused ∨ ∃ files, change workspace.files = .ok files)
    (holds : ∀ files, change workspace.files = .ok files → right () { workspace with files }) :
    Ends excused (Workspace.changeFiles change) workspace right := by
  rw [Ends, run_changeFiles]
  cases changed : change workspace.files with
  | error fault =>
    rcases accepted with excuse | ⟨files, accepted⟩
    · exact .inl ⟨excuse, fault, workspace, rfl⟩
    · rw [changed] at accepted
      cases accepted
  | ok files => exact .inr ⟨(), _, rfl, holds files changed⟩

/-- A file that was written is left. -/
theorem writeFile {path : Path} {text : String} {right : Unit → Workspace → Prop}
    (accepted : excused ∨ workspace.files.Accepts path)
    (holds : ∀ files, workspace.files.write path text.toUTF8 = .ok files →
      right () { workspace with files }) :
    Ends excused (Workspace.writeFile path text) workspace right :=
  .changeFiles (accepted.imp_right fun accepts => accepts text.toUTF8) holds

end Ends

/-! ### Documents -/

/-- The records that the content of a file holds, as a given parser reads it. -/
def readContent (parse : XmlParser) (content : ByteArray) : Except Fault (List Record) := do
  let text ← (decodeUtf8 content).mapError Fault.encoding
  (readDocumentWith parse text).mapError Fault.document

/-- What stands in a file is read, and nothing is done. -/
theorem run_loadDocument_eq (parse : XmlParser) {path : Path} {content : ByteArray}
    {workspace : Workspace} (reads : workspace.files.read path = .ok content) :
    (loadDocument parse path).run.run workspace = (readContent parse content, workspace) := by
  have there : (isThere path).run.run workspace = (.ok true, workspace) := by
    have begins : (isThere path).run.run workspace =
        (orEnd Fault.file (workspace.files.contains path)).run.run workspace := rfl
    rw [begins, run_orEnd .file (FileTree.contains_of_read reads)]
  have text : (readText path).run.run workspace =
      ((decodeUtf8 content).mapError Fault.encoding, workspace) := by
    have begins : (readText path).run.run workspace =
        (orEnd Fault.file (workspace.files.read path) >>= fun bytes =>
          orEnd Fault.encoding (decodeUtf8 bytes)).run.run workspace := rfl
    rw [begins, run_bind_ok (run_orEnd .file reads workspace), run_orEnd_eq]
  rw [loadDocument, run_bind_ok there]
  change (readText path >>= fun text => orEnd Fault.document (readDocumentWith parse text)).run.run
    workspace = _
  rw [run_bind, text, readContent]
  cases decodeUtf8 content with
  | error fault => rfl
  | ok text => exact run_orEnd_eq _ _ workspace

/-- A document that stands in a file is loaded. -/
theorem run_loadDocument {parse : XmlParser} {path : Path} {text : String} {records : List Record}
    {workspace : Workspace} (reads : workspace.files.read path = .ok text.toUTF8)
    (read : readDocumentWith parse text = .ok records) :
    (loadDocument parse path).run.run workspace = (.ok records, workspace) := by
  rw [run_loadDocument_eq parse reads, readContent, decodeUtf8_toUTF8]
  change ((readDocumentWith parse text).mapError Fault.document, workspace) = _
  rw [read]
  rfl

end ColdStart
