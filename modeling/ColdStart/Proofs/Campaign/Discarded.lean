/-
This file shows that runs which do not count leave no trace in the documents. Two
campaigns are compared, each with matrix, settings and launches of its own. As
long as the same modes are built and their measured runs agree one by one, both
leave the same documents: what was launched to warm up, what dropped runs and
builds printed, and which other modes were tried makes no difference.
-/

import ColdStart.Proofs.Campaign.Documents

namespace ColdStart

/-! ### Runs that agree -/

/-- Two measured runs agree: both are dropped, whatever they printed, or both ended as a server
ends that has reported, after the same lines. -/
inductive SameReport : Option Transcript → Option Transcript → Prop where
  | dropped {first second : Option Transcript} (firstDropped : isDropped first = true)
      (secondDropped : isDropped second = true) : SameReport first second
  | reported {first second : Transcript} (firstCode : first.exitCode = reportedExitCode)
      (secondCode : second.exitCode = reportedExitCode) (lines : first.lines = second.lines) :
      SameReport (some first) (some second)

/-- Two trials agree: they are trials of one mode, and their measured runs agree one by one. -/
structure Trial.SameReports (first second : Trial) : Prop where
  mode : first.mode = second.mode
  measured : List.Forall₂ SameReport first.measured second.measured

theorem capture?_of_isDropped (campaign : Campaign) {run : Option Transcript}
    (dropped : isDropped run = true) : campaign.capture? run = none := by
  rwa [← Option.isNone_iff_eq_none, capture?_isNone]

theorem capture?_of_sameReport {first second : Campaign}
    (collects : first.collectsFailures = second.collectsFailures) {run other : Option Transcript}
    (same : SameReport run other) : first.capture? run = second.capture? other := by
  cases same with
  | dropped firstDropped secondDropped =>
    rw [capture?_of_isDropped first firstDropped, capture?_of_isDropped second secondDropped]
  | reported firstCode secondCode lines =>
    rw [Campaign.capture?, Campaign.capture?, if_pos firstCode, if_pos secondCode, lines, collects]

/-! ### Contents that agree -/

theorem Trial.content_eq (trial : Trial) (campaign : Campaign) (withFailures : Bool) :
    trial.content campaign withFailures =
      let captures := trial.measured.map campaign.capture?
      { mode := trial.mode
        fragment := captures.reduceOption.flatMap Capture.fragment
        dropped := captures.countP Option.isNone
        failureRuns := if withFailures && campaign.collectsFailures then
            captures.reduceOption.map Capture.failures
          else [] } := by
  simp only [Trial.content, Trial.reported, reduceOption_map_capture?, List.flatMap_map,
    List.map_map, Function.comp_def]

theorem content_of_sameReports {first second : Campaign}
    (collects : first.collectsFailures = second.collectsFailures) {trial other : Trial}
    (same : trial.SameReports other) (withFailures : Bool) :
    trial.content first withFailures = other.content second withFailures := by
  have captures : trial.measured.map first.capture? = other.measured.map second.capture? := by
    rw [← List.forall₂_eq_eq_eq, List.forall₂_map_left_iff, List.forall₂_map_right_iff]
    exact same.measured.imp fun _ _ => capture?_of_sameReport collects
  rw [Trial.content_eq, Trial.content_eq, captures, same.mode, collects]

theorem contents_of_sameReports {first second : Campaign}
    (collects : first.collectsFailures = second.collectsFailures) {trials others : List Trial}
    (agree : List.Forall₂ Trial.SameReports trials others) (withFailures : Bool) :
    trials.map (·.content first withFailures) = others.map (·.content second withFailures) := by
  rw [← List.forall₂_eq_eq_eq, List.forall₂_map_left_iff, List.forall₂_map_right_iff]
  exact agree.imp fun _ _ same => content_of_sameReports collects same withFailures

/-! ### Documents that are left -/

namespace Campaign

/-- The campaign has shown the document of the results and written it to its place, and then that
of the failures, if there is one. The last of them is the one to be analysed. -/
structure Leaves (campaign : Campaign) (results : String) (failures? : Option String)
    (path : Path) (after : Workspace) : Prop where
  shown : ∃ progress, after.session.output =
    progress ++ (documentRule ++ "\n") ++ (results ++ "\n")
  written : ∃ before files : FileTree,
    before.write campaign.settings.resultsPath results.toUTF8 = .ok files ∧
      match failures? with
      | none => path = campaign.settings.resultsPath ∧ after.files = files
      | some failures => path = campaign.settings.failuresPath ∧
        files.write campaign.settings.failuresPath failures.toUTF8 = .ok after.files

/-- A campaign cannot be carried out: its limit is refused, or its files cannot be left. -/
def IsRefused (campaign : Campaign) (matrix : Matrix) (files : FileTree) : Prop :=
  (∃ fault, campaign.selected matrix = .error fault) ∨ ¬ campaign.CanLeave files

/-- A campaign leaves these documents, unless it cannot be carried out. -/
def Publishes (campaign : Campaign) (matrix : Matrix) (workspace : Workspace) (results : String)
    (failures? : Option String) : Prop :=
  campaign.IsRefused matrix workspace.files ∧ EndsEarly (campaign.runBenchmarks matrix) workspace ∨
    ∃ path after, (campaign.runBenchmarks matrix).run.run workspace = (.ok path, after) ∧
      campaign.Leaves results failures? path after

/-- The text of the document of trials, with their failures or without. -/
def documentText (campaign : Campaign) (trials : List Trial) (withFailures : Bool) : String :=
  (campaign.documentOf trials withFailures).render

/-- The text of the failures of trials, if they are collected. -/
def failuresText? (campaign : Campaign) (trials : List Trial) : Option String :=
  if campaign.collectsFailures then some (campaign.documentText trials true) else none

theorem endsEarly_of_limit {campaign : Campaign} {matrix : Matrix} {fault : LimitFault}
    (refused : campaign.selected matrix = .error fault) (workspace : Workspace) :
    EndsEarly (campaign.runBenchmarks matrix) workspace := by
  refine EndsEarly.before ?_
  refine EndsEarly.behind fun _ _ => EndsEarly.behind fun _ _ => EndsEarly.behind fun _ _ => ?_
  rw [refused]
  exact EndsEarly.before ⟨_, _, rfl⟩

/-- The paths of all files that a campaign writes are among these. -/
structure WritesAmong (campaign : Campaign) (paths : List Path) : Prop where
  buildLog : campaign.settings.buildLogPath ∈ paths
  runLog : campaign.settings.runLogPath ∈ paths
  results : campaign.settings.resultsPath ∈ paths
  failures : campaign.collectsFailures = true → campaign.settings.failuresPath ∈ paths

theorem WritesAmong.mono {campaign : Campaign} {paths more : List Path}
    (writes : campaign.WritesAmong paths) (subset : paths ⊆ more) : campaign.WritesAmong more where
  buildLog := subset writes.buildLog
  runLog := subset writes.runLog
  results := subset writes.results
  failures collects := subset (writes.failures collects)

theorem writesAmong_leftPaths (campaign : Campaign) :
    campaign.WritesAmong campaign.leftPaths := by
  constructor <;> simp [leftPaths]

/-- A campaign goes through the scheduled trials and leaves their documents, unless its directory
cannot be made or its files cannot be written. -/
theorem ends_runBenchmarks_among {campaign : Campaign} {matrix : Matrix}
    {places : List (Mode × Nat)} {total : Nat} {paths : List Path}
    (writes : campaign.WritesAmong paths)
    (selected : campaign.selected matrix = .ok (places, total)) (workspace : Workspace) :
    let trials := campaign.scheduled matrix workspace.session
    let excused := ¬ workspace.files.CanWriteIn campaign.settings.outputDirectory paths
    Ends excused (campaign.runBenchmarks matrix) workspace fun path after =>
      after.files.IsReadyFor paths excused ∧
        workspace.session.GoesOn (trials.flatMap (·.launches campaign)) after.session ∧
          campaign.Leaves (campaign.documentText trials false) (campaign.failuresText? trials)
            path after := by
  intro trials excused
  refine (ends_runLogged_among writes.buildLog writes.runLog selected workspace).bind ?_
  rintro _ logged ⟨ready, goesOn, rfl⟩
  rw [recordAll_blankDocuments]
  refine .follow (run_inSession _ logged) (.follow (run_inSession _ _) ?_)
  refine Ends.bind (FileTree.ends_writeFile _ (by exact ready) writes.results _) ?_
  rintro _ written ⟨ready, same, wrote⟩
  have shown : ∃ progress, written.session.output =
      progress ++ (documentRule ++ "\n") ++ (campaign.documentText trials false ++ "\n") := by
    rw [same]
    exact ⟨logged.session.output, rfl⟩
  have launched : workspace.session.GoesOn (trials.flatMap (·.launches campaign))
      written.session := by
    rw [same]
    exact goesOn.silently ⟨(List.append_nil _).symm, rfl, rfl, rfl⟩
  rw [failuresText?]
  cases collects : campaign.collectsFailures with
  | false => exact .pure ⟨ready, launched, shown, _, _, wrote, rfl, rfl⟩
  | true =>
    refine (FileTree.ends_writeFile _ ready (writes.failures collects) _).bind ?_
    rintro _ after ⟨ready, sameAfter, wroteFailures⟩
    exact .pure ⟨ready, sameAfter ▸ launched, sameAfter ▸ shown, _, _, wrote, rfl, wroteFailures⟩

theorem ends_runBenchmarks {campaign : Campaign} {matrix : Matrix} {places : List (Mode × Nat)}
    {total : Nat} (selected : campaign.selected matrix = .ok (places, total))
    (workspace : Workspace) :
    let trials := campaign.scheduled matrix workspace.session
    Ends (¬ campaign.CanLeave workspace.files) (campaign.runBenchmarks matrix) workspace
      (campaign.Leaves (campaign.documentText trials false) (campaign.failuresText? trials)) :=
  (ends_runBenchmarks_among campaign.writesAmong_leftPaths selected workspace).imp
    fun _ _ ends => ends.2.2

/-- Every campaign leaves the documents of the trials that it is scheduled for. -/
theorem publishes_scheduled (campaign : Campaign) (matrix : Matrix) (workspace : Workspace) :
    let trials := campaign.scheduled matrix workspace.session
    campaign.Publishes matrix workspace (campaign.documentText trials false)
      (campaign.failuresText? trials) := by
  cases selected : campaign.selected matrix with
  | error fault => exact .inl ⟨.inl ⟨fault, selected⟩, endsEarly_of_limit selected workspace⟩
  | ok chosen =>
    obtain ⟨places, total⟩ := chosen
    rcases ends_runBenchmarks selected workspace with ⟨cannot, fault, after, refused⟩ | left
    · exact .inl ⟨.inr cannot, _, after, refused⟩
    · exact .inr left

end Campaign

/-- What does not count leaves no trace. When two campaigns that both collect failures, or both do
not, built the same modes, and the measured runs of each agree one by one, they leave the same
documents. Nothing is asked of the settings, of other modes, of how the builds and the runs to warm
up went, or of what dropped runs printed. -/
theorem documents_ignore_discarded (first second : Campaign) (firstMatrix secondMatrix : Matrix)
    (firstWorkspace secondWorkspace : Workspace)
    (collects : first.collectsFailures = second.collectsFailures)
    (agree : List.Forall₂ Trial.SameReports
      (first.built (first.scheduled firstMatrix firstWorkspace.session))
      (second.built (second.scheduled secondMatrix secondWorkspace.session))) :
    ∃ results failures?, failures?.isSome = first.collectsFailures ∧
      first.Publishes firstMatrix firstWorkspace results failures? ∧
      second.Publishes secondMatrix secondWorkspace results failures? := by
  have same (withFailures : Bool) :
      first.documentText (first.scheduled firstMatrix firstWorkspace.session) withFailures =
        second.documentText (second.scheduled secondMatrix secondWorkspace.session)
          withFailures := by
    rw [Campaign.documentText, Campaign.documentText, Campaign.documentOf, Campaign.documentOf,
      Campaign.contents, Campaign.contents, contents_of_sameReports collects agree]
  refine ⟨_, _, ?_, first.publishes_scheduled firstMatrix firstWorkspace, ?_⟩
  · rw [Campaign.failuresText?]
    cases first.collectsFailures <;> rfl
  · rw [same, Campaign.failuresText?, same, collects]
    exact second.publishes_scheduled secondMatrix secondWorkspace

/-- A campaign over the first mode only, without runs to warm up, in another directory. -/
def plainCampaign : Campaign := {
  settings := {
    warmups := 0, iterations := 2, firstModes := 1, resolutionFails := true,
    workDirectory := "/elsewhere", timestamp := "u" }
  backend := .script }

/-- The build prints something, the first run reports the same as in the timed workspace, and the
second is refused. -/
def plainWorkspace : Workspace := {
  session := {
    coming := [.printing 0 [(.error, "built\n")],
      .printing 143 [(.output, "XMLXMLXML\n"),
        (.output, Sample.line ⟨"RUNTIME", 950, 600, 35⟩ ++ "\n"), (.output, "LMXLMXLMX\n"),
        (.output, "<R2RResolutionFailed>First</R2RResolutionFailed>\n")],
      .refused 13 "Permission denied"] } }

theorem built_timedWorkspace :
    mixedCampaign.built (mixedCampaign.scheduled ⟨Mode.templates⟩ timedWorkspace.session) = [
      { mode := { name := "baseline", readyToRun := true }
        build := some { exitCode := 0 }
        warmups := [some { exitCode := 1 }]
        measured := [
          some {
            exitCode := 143
            lines := ["XMLXMLXML", Sample.line ⟨"RUNTIME", 950, 600, 35⟩, "LMXLMXLMX",
              "<R2RResolutionFailed>First</R2RResolutionFailed>"] },
          some { exitCode := 2 }] }] := by
  rw [scheduled_timedWorkspace]
  rfl

theorem built_plainWorkspace :
    plainCampaign.built (plainCampaign.scheduled ⟨Mode.templates⟩ plainWorkspace.session) = [
      { mode := { name := "baseline", readyToRun := true }
        build := some { exitCode := 0, lines := ["built"] }
        measured := [
          some {
            exitCode := 143
            lines := ["XMLXMLXML", Sample.line ⟨"RUNTIME", 950, 600, 35⟩, "LMXLMXLMX",
              "<R2RResolutionFailed>First</R2RResolutionFailed>"] },
          none] }] := by
  decide +kernel

theorem documents_ignore_discarded_plainWorkspace :
    mixedCampaign.collectsFailures = plainCampaign.collectsFailures ∧
    List.Forall₂ Trial.SameReports
      (mixedCampaign.built (mixedCampaign.scheduled ⟨Mode.templates⟩ timedWorkspace.session))
      (plainCampaign.built (plainCampaign.scheduled ⟨Mode.templates⟩ plainWorkspace.session)) ∧
    ∃ results failures?, failures?.isSome = mixedCampaign.collectsFailures ∧
      mixedCampaign.Publishes ⟨Mode.templates⟩ timedWorkspace results failures? ∧
      plainCampaign.Publishes ⟨Mode.templates⟩ plainWorkspace results failures? := by
  have collects : mixedCampaign.collectsFailures = plainCampaign.collectsFailures := rfl
  have agree : List.Forall₂ Trial.SameReports
      (mixedCampaign.built (mixedCampaign.scheduled ⟨Mode.templates⟩ timedWorkspace.session))
      (plainCampaign.built (plainCampaign.scheduled ⟨Mode.templates⟩ plainWorkspace.session)) := by
    rw [built_timedWorkspace, built_plainWorkspace]
    exact .cons ⟨rfl, .cons (.reported rfl rfl rfl) (.cons (.dropped rfl rfl) .nil)⟩ .nil
  exact ⟨collects, agree, documents_ignore_discarded mixedCampaign plainCampaign ⟨Mode.templates⟩
    ⟨Mode.templates⟩ timedWorkspace plainWorkspace collects agree⟩

end ColdStart
