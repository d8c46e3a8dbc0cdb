/-
This file names the steps of an invocation that launch and log nothing. Such a step
may print and may leave files, but only where it is told to, and that holds also when
it ends early. Steps of this kind put together are of this kind again, and an
analysis is one of them: all that it leaves is its report and its page. Reporting
a fault is another, so what an invocation comes to is settled by what it performs.
-/

import ColdStart.Invocation
import ColdStart.Proofs.Campaign.Launching
import ColdStart.Proofs.Files.Leaving
import ColdStart.Proofs.Working

namespace ColdStart

open Workspace

/-! ### Printing -/

/-- A workspace once more was printed to the output and to the error stream. -/
def Workspace.printing (workspace : Workspace) (output errors : String) : Workspace :=
  { workspace with session := { workspace.session with
      output := workspace.session.output ++ output
      errors := workspace.session.errors ++ errors } }

namespace Workspace

variable (workspace : Workspace) (output errors : String)

theorem printing_empty : workspace.printing "" "" = workspace := by
  rw [printing, String.append_empty, String.append_empty]

theorem printing_printing (more others : String) :
    (workspace.printing output errors).printing more others =
      workspace.printing (output ++ more) (errors ++ others) := by
  simp only [printing, String.append_assoc]

theorem onlyPrints_printing :
    workspace.session.OnlyPrints (workspace.printing output errors).session :=
  ⟨output, errors, rfl⟩

end Workspace

/-! ### Quiet steps -/

/-- A workspace comes from another by printing, and only the files at the ends of these paths were
written. -/
structure Workspace.Follows (paths : List Path) (before after : Workspace) : Prop where
  prints : before.session.OnlyPrints after.session
  files : FileTree.OnlyWrites paths before.files after.files

theorem Workspace.Follows.refl (paths : List Path) (workspace : Workspace) :
    workspace.Follows paths workspace :=
  ⟨.refl workspace.session, .refl paths workspace.files⟩

theorem Workspace.Follows.trans {paths : List Path} {before between after : Workspace}
    (first : before.Follows paths between) (second : between.Follows paths after) :
    before.Follows paths after :=
  ⟨first.prints.trans second.prints, first.files.trans second.files⟩

theorem Workspace.Follows.session {paths : List Path} {before after : Workspace}
    (follows : before.Follows paths after) : before.session.GoesOn [] after.session :=
  follows.prints.goesOn

/-- Whatever comes of a step, it prints at most and writes only the files at the ends of these
paths. -/
def Quiet {Value : Type} (paths : List Path) (step : Working Value) : Prop :=
  ∀ workspace : Workspace, workspace.Follows paths (step.run.run workspace).2

namespace Quiet

variable {Value Next : Type} {paths : List Path}

/-! ### Steps put together -/

theorem pure (value : Value) : Quiet paths (Pure.pure value : Working Value) :=
  Workspace.Follows.refl paths

theorem bind {step : Working Value} {next : Value → Working Next} (here : Quiet paths step)
    (later : ∀ value, Quiet paths (next value)) : Quiet paths (step >>= next) := by
  intro workspace
  have first := here workspace
  rw [run_bind]
  split
  · next value after ended =>
    rw [ended] at first
    exact first.trans (later value after)
  · next fault after ended =>
    rw [ended] at first
    exact first

theorem throw (fault : Fault) : Quiet paths (throw fault : Working Value) :=
  Workspace.Follows.refl paths

theorem orEnd {Cause : Type} (fault : Cause → Fault) (result : Except Cause Value) :
    Quiet paths (orEnd fault result) := by
  cases result with
  | ok value => exact .pure value
  | error cause => exact .throw (fault cause)

theorem get : Quiet paths (get : Working Workspace) := Workspace.Follows.refl paths

/-- What goes on in the session is quiet when it only prints. -/
theorem inSession {running : Running Value} (speaks : Speaks running) :
    Quiet paths (inSession running) :=
  fun workspace => ⟨speaks workspace.session, .refl paths workspace.files⟩

/-! ### Files -/

theorem changeFiles {change : FileTree → Except FileFault FileTree}
    (changes : ∀ before after, change before = .ok after →
      FileTree.OnlyWrites paths before after) : Quiet paths (changeFiles change) := by
  intro workspace
  rw [run_changeFiles]
  cases changed : change workspace.files with
  | error fault => exact .refl paths workspace
  | ok files => exact ⟨.refl workspace.session, changes _ _ changed⟩

theorem writeFile {path : Path} (isWritten : path ∈ paths) (text : String) :
    Quiet paths (writeFile path text) :=
  changeFiles fun _ _ written => FileTree.onlyWrites_write isWritten written

theorem makeDirectory (path : Path) : Quiet paths (makeDirectory path) :=
  changeFiles fun _ _ made => (FileTree.onlyMakes_makeDirectory made).onlyWrites

theorem readText (path : Path) : Quiet paths (readText path) :=
  get.bind fun _ => (orEnd _ _).bind fun _ => orEnd _ _

theorem isThere (path : Path) : Quiet paths (isThere path) := get.bind fun _ => orEnd _ _

/-! ### Analysis -/

theorem loadDocument (parse : XmlParser) (path : Path) : Quiet paths (loadDocument parse path) := by
  refine (isThere path).bind fun there => ?_
  split
  · exact (readText path).bind fun _ => orEnd _ _
  · exact .throw _

theorem leavePage (analysis : Analysis) (modes : List ModeStatistics) {path : Path}
    (isLeft : path ∈ paths) : Quiet paths (analysis.leavePage modes path) :=
  (makeDirectory path.parent).bind fun _ => (orEnd _ _).bind fun _ =>
    (writeFile isLeft _).bind fun _ => inSession (.print _)

theorem reportText (analysis : Analysis) (records : List Record)
    (pageLeft : ∀ path ∈ analysis.page?, path ∈ paths) :
    Quiet paths (analysis.reportText records) := by
  rw [Analysis.reportText]
  split
  · exact .pure _
  · refine (orEnd _ _).bind fun text => ?_
    cases page : analysis.page? with
    | none => exact .pure text
    | some path => exact (leavePage analysis _ (pageLeft path page)).bind fun _ => .pure text

/-- An analysis leaves its report and its page. -/
theorem analysis (analysis : Analysis) (reportLeft : analysis.report ∈ paths)
    (pageLeft : ∀ path ∈ analysis.page?, path ∈ paths) : Quiet paths analysis.run := by
  refine (loadDocument _ _).bind fun records => (reportText analysis records pageLeft).bind ?_
  exact fun text => (inSession (.printText text)).bind fun _ => writeFile reportLeft text

end Quiet

/-! ### Invocations -/

/-- How an invocation ends when what it performs comes to a result. -/
def Ending.ofResult : Except Fault Unit → Ending
  | .ok () => .exit successCode
  | .error fault => if fault.isReported then .exit faultCode else .brokenOff fault

namespace Invocation

variable {invocation : Invocation} {options : Options}

/-- An accepted invocation ends as what it performs ends, and a fault of the user is reported. -/
theorem run_eq (accepted : readOptions invocation.arguments = .ok options)
    (workspace : Workspace) :
    invocation.run.run workspace =
      match (invocation.perform options).run.run workspace with
      | (.ok (), after) => (.exit successCode, after)
      | (.error fault, after) =>
        if fault.isReported then
          (.exit faultCode, after.printing "" ("Error: " ++ fault.message ++ "\n"))
        else (.brokenOff fault, after) := by
  unfold Invocation.run
  rw [accepted]
  simp only [StateT.run_bind]
  rcases (invocation.perform options).run.run workspace with ⟨fault | done, after⟩
  · change (if fault.isReported then _ else _ : StateM Workspace Ending).run after =
      if fault.isReported then _ else _
    split
    · rw [printing, String.append_empty, ← String.append_assoc]
      rfl
    · rfl
  · rfl

/-- An accepted invocation at most reports a fault behind what it performs. -/
theorem exists_run_eq (accepted : readOptions invocation.arguments = .ok options)
    (workspace : Workspace) :
    let performed := (invocation.perform options).run.run workspace
    ∃ last, invocation.run.run workspace =
        (.ofResult performed.1, { performed.2 with session := last }) ∧
      performed.2.session.OnlyPrints last ∧ last.output = performed.2.session.output := by
  rw [run_eq accepted]
  rcases (invocation.perform options).run.run workspace with ⟨fault | done, after⟩
  · simp only [Ending.ofResult]
    split
    · exact ⟨_, rfl, onlyPrints_printing after _ _, String.append_empty⟩
    · exact ⟨after.session, rfl, .refl after.session, rfl⟩
  · exact ⟨after.session, rfl, .refl after.session, rfl⟩

/-- How an invocation ends is settled by what comes of performing it. -/
theorem ending_run (accepted : readOptions invocation.arguments = .ok options)
    (workspace : Workspace) :
    (invocation.run.run workspace).1 =
      .ofResult ((invocation.perform options).run.run workspace).1 := by
  obtain ⟨last, ended, -⟩ := exists_run_eq accepted workspace
  rw [ended]

/-- What an invocation leaves is what it performs leaves. -/
theorem follows_run (accepted : readOptions invocation.arguments = .ok options)
    (paths : List Path) (workspace : Workspace) :
    ((invocation.perform options).run.run workspace).2.Follows paths
      (invocation.run.run workspace).2 := by
  obtain ⟨last, ended, prints, -⟩ := exists_run_eq accepted workspace
  rw [ended]
  exact ⟨prints, .refl paths _⟩

end Invocation

end ColdStart
