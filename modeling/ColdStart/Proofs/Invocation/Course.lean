/-
This file follows an invocation that is given no document. It is settled first whether
failures are collected, then which modes are asked for; what is asked of these modes
comes last. A list of modes and the commands of one are given to the letter. A campaign
is given as the one step in which all its launches are made: before and behind it there is
only printing.
-/

import ColdStart.Proofs.Campaign.Limit
import ColdStart.Proofs.Invocation.Dry

namespace ColdStart

open Workspace

/-! ### Printing -/

theorem run_print (line : String) (workspace : Workspace) :
    (inSession (Session.print line)).run.run workspace =
      (.ok (), workspace.printing (line ++ "\n") "") := by
  rw [printing, String.append_empty]
  rfl

/-- Lines are printed in order. -/
theorem run_forM_print {Item : Type} (items : List Item) (line : Item → String)
    (workspace : Workspace) :
    (inSession (items.forM fun item => Session.print (line item))).run.run workspace =
      (.ok (), workspace.printing (linesText (items.map line)) "") := by
  induction items generalizing workspace with
  | nil =>
    rw [List.map_nil, linesText, List.map_nil, String.join_nil, printing_empty]
    rfl
  | cons item rest inductionHypothesis =>
    have begins : (inSession ((item :: rest).forM fun item =>
        Session.print (line item))).run.run workspace =
          (inSession (rest.forM fun item => Session.print (line item))).run.run
            (workspace.printing (line item ++ "\n") "") := by
      rw [printing, String.append_empty]
      rfl
    rw [begins, inductionHypothesis, printing_printing, String.append_empty, List.map_cons,
      linesText, linesText, List.map_cons, String.join_cons]

namespace Campaign

/-- The commands of a mode, as they are shown. -/
def commandsText (campaign : Campaign) (mode : Mode) : String :=
  linesText ["Configuration Selected:", mode.name, "",
    "Build Command:", commandLine (campaign.buildOf mode), "",
    "Run Command:", commandLine (campaign.runOf mode imageTag)]

/-- The command that is shown for a run is the one that starts it: it may ask for failures that are
not collected, but only of a backend that takes no notice of that. -/
theorem runCommand_resolutionFails (campaign : Campaign) (mode : Mode) (artifact : String) :
    campaign.backend.runCommand mode artifact campaign.settings.resolutionFails =
      campaign.runOf mode artifact := by
  rw [runOf, collectsFailures]
  cases campaign.backend with
  | docker => rfl
  | script => rw [Backend.reportsFailures, Bool.and_true]

/-- The commands of the first mode that matches are shown; if there is none, nothing is. -/
theorem run_showCommands (campaign : Campaign) (matrix : Matrix) (pattern : String)
    (engine : PatternEngine) (workspace : Workspace) :
    (campaign.showCommands matrix pattern engine).run.run workspace =
      match matrix.find pattern engine with
      | .error fault => (.error (.selection fault), workspace)
      | .ok mode => (.ok (), workspace.printing (campaign.commandsText mode) "") := by
  cases found : matrix.find pattern engine with
  | error fault =>
    refine run_bind_error ?_
    rw [run_orEnd_eq, found]
    rfl
  | ok mode =>
    refine (run_bind_ok (run_orEnd .selection found workspace)).trans ?_
    refine (run_bind_ok (run_print _ _)).trans ?_
    refine (run_bind_ok (run_print _ _)).trans ?_
    refine (run_print _ _).trans ?_
    have selected : "Configuration Selected:\n" = "Configuration Selected:" ++ "\n" := rfl
    have build : "Build Command:\n" = "Build Command:" ++ "\n" := rfl
    have run : "Run Command:\n" = "Run Command:" ++ "\n" := rfl
    rw [printing_printing, printing_printing, runCommand_resolutionFails, selected, build, run]
    simp only [commandsText, linesText, List.map_cons, List.map_nil, String.join_cons,
      String.join_nil, String.append_assoc, String.append_empty, String.empty_append]
    rfl

end Campaign

/-! ### At most one computation -/

section

variable {Value Next : Type} {running : Running Value}

/-- A session goes on to another by printing, and at most once by a computation in between. -/
def Session.AtMost (running : Running Value) (session after : Session) : Prop :=
  session.OnlyPrints after ∨ ∃ between, session.OnlyPrints between ∧
    (running.run between).2.OnlyPrints after

/-- Whatever comes of a step, all that it does to the session besides printing is at most one
computation. -/
def AtMost (running : Running Value) (step : Working Next) : Prop :=
  ∀ workspace : Workspace,
    workspace.session.AtMost running (step.run.run workspace).2.session

theorem Session.AtMost.trans {session between after : Session}
    (first : session.OnlyPrints between) (later : between.AtMost running after) :
    session.AtMost running after := by
  rcases later with prints | ⟨begun, prints, ends⟩
  · exact .inl (first.trans prints)
  · exact .inr ⟨begun, first.trans prints, ends⟩

theorem Session.AtMost.silently {session between after : Session}
    (first : session.AtMost running between) (later : between.OnlyPrints after) :
    session.AtMost running after := by
  rcases first with prints | ⟨begun, prints, ends⟩
  · exact .inl (prints.trans later)
  · exact .inr ⟨begun, prints, ends.trans later⟩

namespace AtMost

variable (paths : List Path)

theorem here (running : Running Value) : AtMost running (inSession running) :=
  fun workspace => .inr ⟨workspace.session, .refl _, .refl _⟩

theorem ofQuiet {step : Working Next} (quiet : Quiet [] step) : AtMost running step :=
  fun workspace => .inl (quiet workspace).prints

/-- A step that only prints and leaves files comes before. -/
theorem behind {First : Type} {step : Working First} {next : First → Working Next}
    (quiet : Quiet paths step) (later : ∀ value, AtMost running (next value)) :
    AtMost running (step >>= next) := by
  intro workspace
  have first := (quiet workspace).prints
  rw [run_bind]
  split
  · next value after ended =>
    rw [ended] at first
    exact (later value after).trans first
  · next fault after ended =>
    rw [ended] at first
    exact .inl first

/-- A step that only prints and leaves files comes behind. -/
theorem before {First : Type} {step : Working First} {next : First → Working Next}
    (atMost : AtMost running step) (quiet : ∀ value, Quiet paths (next value)) :
    AtMost running (step >>= next) := by
  intro workspace
  have first := atMost workspace
  rw [run_bind]
  split
  · next value after ended =>
    rw [ended] at first
    exact first.silently (quiet value after).prints
  · next fault after ended =>
    rw [ended] at first
    exact first

end AtMost

end

namespace Campaign

variable {campaign : Campaign} {matrix : Matrix} {places : List (Mode × Nat)} {total : Nat}

theorem atMost_runLogged (selected : campaign.selected matrix = .ok (places, total)) :
    AtMost (campaign.processAll places total campaign.blankDocuments)
      (campaign.runLogged matrix) := by
  have writesBuildLog (text : String) :
      Quiet campaign.leftPaths (writeFile campaign.settings.buildLogPath text) :=
    .writeFile (writesAmong_leftPaths campaign).buildLog text
  have writesRunLog (text : String) :
      Quiet campaign.leftPaths (writeFile campaign.settings.runLogPath text) :=
    .writeFile (writesAmong_leftPaths campaign).runLog text
  have given : orEnd Fault.limit (.ok (places, total)) = pure (places, total) := rfl
  rw [runLogged, selected]
  refine .behind campaign.leftPaths (.makeDirectory _) fun _ => ?_
  refine .behind _ (writesBuildLog _) fun _ => .behind _ (writesRunLog _) fun _ => ?_
  rw [given, pure_bind]
  refine (AtMost.here _).before campaign.leftPaths fun result => Quiet.get.bind fun _ => ?_
  exact (writesBuildLog _).bind fun _ => (writesRunLog _).bind fun _ => .pure result.2

theorem atMost_runBenchmarks (selected : campaign.selected matrix = .ok (places, total)) :
    AtMost (campaign.processAll places total campaign.blankDocuments)
      (campaign.runBenchmarks matrix) := by
  have writes {path : Path} (isLeft : path ∈ campaign.leftPaths) (text : String) :
      Quiet campaign.leftPaths (writeFile path text) := .writeFile isLeft text
  refine (atMost_runLogged selected).before campaign.leftPaths fun documents => ?_
  refine (Quiet.inSession (.print _)).bind fun _ => (Quiet.inSession (.print _)).bind fun _ => ?_
  refine (writes (writesAmong_leftPaths campaign).results _).bind fun _ => ?_
  cases documents.failures? with
  | none => exact .pure _
  | some failures => exact (writes (by simp [leftPaths]) _).bind fun _ => .pure _

end Campaign

/-! ### What is asked of the modes -/

namespace Invocation

variable (invocation : Invocation) {options : Options}

/-- Serving modes is at most processing those that are taken. -/
theorem atMost_serve (options : Options) {campaign : Campaign} {matrix : Matrix}
    {places : List (Mode × Nat)} {total : Nat}
    (selected : campaign.selected matrix = .ok (places, total)) :
    AtMost (campaign.processAll places total campaign.blankDocuments)
      (invocation.serve options campaign matrix) := by
  rw [serve]
  split
  · exact .ofQuiet (Quiet.inSession (.forM _ fun mode => .print mode.describe))
  · cases nonempty? options.commandOnly with
    | some pattern => exact .ofQuiet (Quiet.showCommands campaign matrix pattern _)
    | none =>
      rw [Campaign.runBenchmarks_clamped]
      exact (Campaign.atMost_runBenchmarks selected).before _ fun document =>
        Quiet.analysisFor invocation options campaign.settings document

/-- All that an invocation does to the session besides printing is at most to process the modes
that are taken. -/
theorem atMost_run (accepted : readOptions invocation.arguments = .ok options)
    (noDocument : nonempty? options.resultsFile = none) {matrix : Matrix}
    (asked : options.matrix invocation.host.engine = .ok matrix) {places : List (Mode × Nat)}
    {total : Nat} (selected : (invocation.campaign options).selected matrix = .ok (places, total))
    (workspace : Workspace) :
    let campaign := invocation.campaign options
    workspace.session.AtMost (campaign.processAll places total campaign.blankDocuments)
      (invocation.run.run workspace).2.session := by
  intro campaign
  have performs : workspace.session.AtMost
      (campaign.processAll places total campaign.blankDocuments)
        ((invocation.perform options).run.run workspace).2.session := by
    have serves := atMost_serve invocation options selected
      (workspace.printing "" (invocation.warning options))
    rw [invocation.run_perform_eq noDocument, asked]
    exact serves.trans (onlyPrints_printing _ _ _)
  exact performs.silently (follows_run accepted [] workspace).prints

variable {invocation} {workspace : Workspace}

/-- Listing lists the modes that are asked for and does nothing else. -/
theorem run_of_listConfigs (accepted : readOptions invocation.arguments = .ok options)
    (noDocument : nonempty? options.resultsFile = none) {matrix : Matrix}
    (asked : options.matrix invocation.host.engine = .ok matrix)
    (lists : options.listConfigs = true) :
    invocation.run.run workspace =
      (.exit successCode, workspace.printing (linesText (matrix.modes.map Mode.describe))
        (invocation.warning options)) := by
  have listed := run_forM_print matrix.modes Mode.describe
    (workspace.printing "" (invocation.warning options))
  have performs := invocation.run_perform_eq noDocument workspace
  simp only [asked, serve, lists, if_true] at performs
  rw [listed, printing_printing, String.empty_append, String.append_empty] at performs
  rw [run_eq accepted, performs]

/-- Showing commands shows those of the first mode that matches and does nothing else. -/
theorem run_of_commandOnly (accepted : readOptions invocation.arguments = .ok options)
    (noDocument : nonempty? options.resultsFile = none) {matrix : Matrix}
    (asked : options.matrix invocation.host.engine = .ok matrix)
    (lists : options.listConfigs = false) {pattern : String}
    (shows : nonempty? options.commandOnly = some pattern) {mode : Mode}
    (found : matrix.find pattern invocation.host.engine = .ok mode) :
    invocation.run.run workspace =
      (.exit successCode, workspace.printing
        ((invocation.campaign options).commandsText mode)
        (invocation.warning options)) := by
  have performs := invocation.run_perform_eq noDocument workspace
  simp only [asked, serve, lists, shows, Bool.false_eq_true, if_false] at performs
  rw [Campaign.run_showCommands, found] at performs
  simp only [printing_printing, String.empty_append, String.append_empty] at performs
  rw [run_eq accepted, performs]

end Invocation

end ColdStart
