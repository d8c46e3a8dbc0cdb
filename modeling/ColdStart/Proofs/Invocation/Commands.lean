/-
This file compares the commands that are shown with those that are run. A line that shows or
logs a command is read by a shell as the words that are launched, whatever characters
they have. The commands shown for a mode are the ones that a campaign with the same options
launches and logs for it; only the artifact is not known before the build.
-/

import ColdStart.Proofs.Campaign.Logging
import ColdStart.Proofs.Invocation.Course
import ColdStart.Proofs.Shell.Words

namespace ColdStart

open Workspace

/-! ### Artifacts -/

/-- The words of a run in which its artifact stands: the last, or none. -/
def Backend.artifactWords (backend : Backend) (artifact : String) : Command :=
  match backend with
  | .docker => [artifact]
  | .script => []

/-- Runs of a mode differ in nothing but the artifact. -/
theorem Backend.exists_runCommand_eq (backend : Backend) (mode : Mode) (failures : Bool) :
    ∃ front : Command, ∀ artifact,
      backend.runCommand mode artifact failures = front ++ backend.artifactWords artifact := by
  cases backend with
  | docker => exact ⟨(Backend.docker.runCommand mode "" failures).dropLast, fun artifact => rfl⟩
  | script =>
    refine ⟨Backend.script.runCommand mode "" failures, fun artifact => ?_⟩
    rw [artifactWords, List.append_nil]
    rfl

/-! ### Campaigns -/

namespace Campaign

theorem buildOf_settled (campaign : Campaign) (mode : Mode) :
    campaign.settled.buildOf mode = campaign.buildOf mode := by
  obtain ⟨_, _, _, settings⟩ := exists_settings_settled campaign
  rw [buildOf, backend_settled, settings, buildOf]

theorem runOf_settled (campaign : Campaign) (mode : Mode) (artifact : String) :
    campaign.settled.runOf mode artifact = campaign.runOf mode artifact := by
  rw [runOf, backend_settled, collectsFailures_settled, runOf]

/-- It does not matter when commands are asked for. -/
theorem commandsText_campaign {invocation other : Invocation}
    (directory : invocation.workDirectory = other.workDirectory)
    (host : invocation.host = other.host) (options : Options) (mode : Mode) :
    (invocation.campaign options).commandsText mode =
      (other.campaign options).commandsText mode := by
  have build : (invocation.request options).buildOf mode =
      (other.request options).buildOf mode := by
    simp only [buildOf, Invocation.request, Options.settings, directory, host]
  have run : (invocation.request options).runOf mode imageTag =
      (other.request options).runOf mode imageTag := by
    simp only [runOf, collectsFailures, Invocation.request, Options.settings, host]
  rw [Invocation.campaign, Invocation.campaign, commandsText, commandsText, buildOf_settled,
    buildOf_settled, runOf_settled, runOf_settled, build, run]

/-- What a campaign shows of its commands is what it launches and logs. -/
structure ShowsWhatItRuns (campaign : Campaign) : Prop where
  /-- The build and the run of the mode that is found are shown. -/
  shown : ∀ (engine : PatternEngine) (matrix : Matrix) (pattern : String) (mode : Mode)
    (workspace : Workspace), matrix.find pattern engine = .ok mode →
      (campaign.showCommands matrix pattern engine).run.run workspace =
        (.ok (), workspace.printing (campaign.commandsText mode) "")
  /-- That build of each mode is launched and logged, and behind it that run, with an artifact. -/
  launched : ∀ (places : List (Mode × Nat)) (total : Nat) (documents : Documents),
    Logs (campaign.processAll places total documents) fun logged =>
      ∃ parts, List.Forall₂ campaign.LogsMode (places.map Prod.fst) parts ∧
        logged = parts.flatten
  /-- The runs of a mode differ in nothing but the artifact. -/
  artifact : ∀ mode, ∃ front : Command, ∀ artifact,
    campaign.runOf mode artifact = front ++ campaign.backend.artifactWords artifact

theorem showsWhatItRuns (campaign : Campaign) : campaign.ShowsWhatItRuns where
  shown engine matrix pattern mode workspace found := by rw [run_showCommands, found]
  launched := campaign.logs_processAll
  artifact mode := campaign.backend.exists_runCommand_eq mode campaign.collectsFailures

end Campaign

/-! ### Invocations -/

namespace Invocation

/-- One invocation shows the commands of a mode, and another one on the same host and with the same
other options runs the campaign. -/
structure IsPreviewOf (preview real : Invocation) (options : Options) (matrix : Matrix)
    (mode : Mode) : Prop where
  accepted : readOptions preview.arguments = .ok options
  acceptedReal : readOptions real.arguments = .ok { options with commandOnly := none }
  directory : preview.workDirectory = real.workDirectory
  host : preview.host = real.host
  noDocument : nonempty? options.resultsFile = none
  lists : options.listConfigs = false
  asked : options.matrix real.host.engine = .ok matrix
  found : ∃ pattern, nonempty? options.commandOnly = some pattern ∧
    matrix.find pattern real.host.engine = .ok mode

/-- An invocation shows the commands of a mode that another one runs. -/
structure ShowsRunOf (preview real : Invocation) (options : Options) (matrix : Matrix)
    (mode : Mode) : Prop where
  /-- The commands of the campaign for the mode are shown, and nothing else is done. -/
  shown : ∀ workspace : Workspace, preview.run.run workspace =
    (.exit successCode, workspace.printing
      ((real.campaign options).commandsText mode)
      (preview.warning options))
  /-- The campaign launches and logs its commands for the modes that it takes, and no others. -/
  logged : ∀ workspace : Workspace, workspace.session.runner = Child.launch →
    (real.campaign options).CanLeave workspace.files →
    ∃ parts, List.Forall₂ (real.campaign options).LogsMode
        ((real.campaign options).taken matrix) parts ∧
      workspace.session.Logs parts.flatten (real.run.run workspace).2.session

variable {invocation : Invocation} {options : Options} {workspace : Workspace}

/-- Where nothing is launched although all files can be left, there are no modes. -/
theorem taken_eq_nil (accepted : readOptions invocation.arguments = .ok options)
    (notDry : options.isDry = false) {matrix : Matrix}
    (asked : options.matrix invocation.host.engine = .ok matrix)
    (can : (invocation.campaign options).CanLeave workspace.files)
    (prints : workspace.session.OnlyPrints (invocation.run.run workspace).2.session) :
    (invocation.campaign options).taken matrix = [] := by
  obtain ⟨places, total, selected⟩ := exists_selected invocation asked
  have ofClamped := taken_of_selected selected
  rw [Campaign.selected_clamped] at selected
  have goesOn := run_of_not_isDry invocation workspace accepted notDry asked can
  have launched := goesOn.launched
  rw [prints.goesOn.launched, List.append_right_inj, Campaign.scheduled, ← ofClamped] at launched
  rw [← taken_of_selected selected]
  cases modes : places.map Prod.fst with
  | nil => rfl
  | cons mode rest =>
    -- The build of the first mode would have been launched.
    rw [modes, Campaign.schedule, List.flatMap_cons, Trial.launches] at launched
    cases launched

/-- An invocation that is not dry logs its commands for the modes that it takes. -/
theorem logs_run (accepted : readOptions invocation.arguments = .ok options)
    (notDry : options.isDry = false) {matrix : Matrix}
    (asked : options.matrix invocation.host.engine = .ok matrix)
    (processes : workspace.session.runner = Child.launch)
    (can : (invocation.campaign options).CanLeave workspace.files) :
    ∃ parts, List.Forall₂ (invocation.campaign options).LogsMode
        ((invocation.campaign options).taken matrix) parts ∧
      workspace.session.Logs parts.flatten (invocation.run.run workspace).2.session := by
  have noDocument : nonempty? options.resultsFile = none := by
    simp only [Options.isDry, Bool.or_eq_false_iff, Option.isSome_eq_false_iff,
      Option.isNone_iff_eq_none] at notDry
    exact notDry.1.1
  obtain ⟨places, total, selected⟩ := exists_selected invocation asked
  rw [Campaign.selected_clamped] at selected
  rcases invocation.atMost_run accepted noDocument asked selected workspace with
    prints | ⟨between, prints, ends⟩
  · refine ⟨[], ?_, prints.logs⟩
    rw [taken_eq_nil accepted notDry asked can prints]
    exact .nil
  · obtain ⟨_, ⟨parts, ofModes, rfl⟩, logs⟩ :=
      Campaign.logs_processAll _ places total _ between (prints.logs.runner.trans processes)
    refine ⟨parts, taken_of_selected selected ▸ ofModes, ?_⟩
    simpa using (prints.logs.trans logs).trans ends.logs

theorem showsRunOf {preview real : Invocation} {matrix : Matrix} {mode : Mode}
    (isPreview : preview.IsPreviewOf real options matrix mode) :
    preview.ShowsRunOf real options matrix mode where
  shown workspace := by
    obtain ⟨pattern, shows, found⟩ := isPreview.found
    have asked := isPreview.asked
    rw [← isPreview.host] at asked found
    have lists := isPreview.lists
    rw [run_of_commandOnly isPreview.accepted isPreview.noDocument asked lists shows found,
      Campaign.commandsText_campaign isPreview.directory isPreview.host]
  logged workspace processes can := by
    refine logs_run isPreview.acceptedReal ?_ isPreview.asked processes can
    rw [Options.isDry, isPreview.noDocument, isPreview.lists]
    rfl

end Invocation

/-- The commands that are shown are the commands that run. -/
theorem commands_runAsShown :
    (∀ command, readShellWords (commandLine command) = some command) ∧
    (∀ campaign : Campaign, campaign.ShowsWhatItRuns) ∧
    ∀ (preview real : Invocation) (options : Options) (matrix : Matrix) (mode : Mode),
      preview.IsPreviewOf real options matrix mode →
        preview.ShowsRunOf real options matrix mode :=
  ⟨readShellWords_commandLine, Campaign.showsWhatItRuns,
    fun _ _ _ _ _ isPreview => Invocation.showsRunOf isPreview⟩

/-- An invocation in a directory with a quote and a blank in its name, with failures asked for and
the variants of the runtime. -/
def quotedInvocation (arguments : List String) : Invocation where
  arguments := ["--resolution-fails", "--expand-runtime-toggles"] ++ arguments
  workDirectory := "/it's here"
  moment := ⟨2024, 1, 2, 3, 4, 5⟩

/-- What is asked for when the commands of a mode are to be shown. -/
def quotedOptions : Options where
  commandOnly := some "^r2r-use"
  resolutionFails := true
  expandToggles := true

/-- The mode whose commands are shown: the first variant of a template. -/
def quotedMode : Mode where
  name := "r2r-usereadytorun"
  appPrecompiled := true
  readyToRun := true

theorem commands_runAsShown_quotedInvocation :
    let preview := quotedInvocation ["--command-only", "^r2r-use"]
    let matrix := Matrix.create none true
    preview.IsPreviewOf (quotedInvocation []) quotedOptions matrix quotedMode ∧
      preview.ShowsRunOf (quotedInvocation []) quotedOptions matrix quotedMode := by
  intro preview matrix
  have isPreview : preview.IsPreviewOf (quotedInvocation []) quotedOptions matrix quotedMode := {
    accepted := by rfl
    acceptedReal := by rfl
    directory := rfl
    host := rfl
    noDocument := rfl
    lists := rfl
    asked := rfl
    found := ⟨"^r2r-use", rfl, by decide +kernel⟩ }
  exact ⟨isPreview, commands_runAsShown.2.2 preview _ quotedOptions matrix quotedMode isPreview⟩

end ColdStart
