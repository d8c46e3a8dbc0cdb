/-
This file separates the invocations that launch something from those that do not.
Analysing a document, listing modes and showing commands launch nothing and leave
neither documents nor logs, whatever else is asked for. Any other invocation
launches what its campaign is scheduled for. An empty text asks for nothing, so an
empty pattern of a mode whose commands are wanted starts a whole campaign.
-/

import ColdStart.Proofs.Campaign.Discarded
import ColdStart.Proofs.Files.Naming
import ColdStart.Proofs.Invocation.Quiet

namespace ColdStart

open Workspace

/-- Something is asked for that launches nothing: a document to be analysed, a list of modes, or
the commands of a mode. -/
def Options.isDry (options : Options) : Bool :=
  (nonempty? options.resultsFile).isSome || options.listConfigs ||
    (nonempty? options.commandOnly).isSome

/-! ### Dry invocations -/

/-- The campaign once it is settled whether failures are collected. -/
def Campaign.settled (campaign : Campaign) : Campaign :=
  if campaign.settings.resolutionFails then
    if campaign.backend.reportsFailures then
      { campaign with settings := { campaign.settings with warmups := 0, iterations := 1 } }
    else { campaign with settings := { campaign.settings with resolutionFails := false } }
  else campaign

/-- What is said when failures are asked for that the backend cannot report. -/
def Campaign.warning (campaign : Campaign) : String :=
  if campaign.settings.resolutionFails && !campaign.backend.reportsFailures then
    "Warning: --resolution-fails is only supported by the script backend (current: " ++
      campaign.backend.name ++ "). Ignoring..." ++ "\n"
  else ""

/-- Settling whether failures are collected says the warning and does nothing else. -/
theorem forFailures_eq (campaign : Campaign) (session : Session) :
    campaign.forFailures.run session =
      (campaign.settled, { session with errors := session.errors ++ campaign.warning }) := by
  rw [Campaign.forFailures, Campaign.settled, Campaign.warning]
  cases asked : campaign.settings.resolutionFails with
  | false =>
    simp only [Bool.false_and, Bool.false_eq_true, if_false, String.append_empty]
    rfl
  | true =>
    cases campaign.backend.reportsFailures with
    | false =>
      simp only [Bool.not_true, Bool.not_false, Bool.and_self, Bool.false_eq_true, if_false,
        if_true]
      rw [← String.append_assoc]
      rfl
    | true =>
      simp only [Bool.not_true, Bool.and_false, Bool.false_eq_true, if_false, if_true,
        String.append_empty, asked]
      rfl

theorem Speaks.forFailures (campaign : Campaign) : Speaks campaign.forFailures := fun session =>
  ⟨"", campaign.warning, by rw [forFailures_eq, String.append_empty]⟩

namespace Quiet

variable {paths : List Path}

theorem showCommands (campaign : Campaign) (matrix : Matrix) (pattern : String)
    (engine : PatternEngine) : Quiet paths (campaign.showCommands matrix pattern engine) :=
  (orEnd _ _).bind fun _ => (inSession (.print _)).bind fun _ =>
    (inSession (.print _)).bind fun _ => inSession (.print _)

theorem survey (invocation : Invocation) {options : Options} (settings : Settings)
    (dry : options.listConfigs || (nonempty? options.commandOnly).isSome) :
    Quiet paths (invocation.survey options settings) := by
  refine (orEnd _ _).bind fun backend => (inSession (.forFailures _)).bind ?_
  refine fun campaign => (orEnd _ _).bind fun matrix => ?_
  cases lists : options.listConfigs with
  | true => exact inSession (.forM _ fun mode => .print mode.describe)
  | false =>
    rw [lists, Bool.false_or] at dry
    obtain ⟨pattern, asked⟩ := Option.isSome_iff_exists.mp dry
    rw [asked]
    exact showCommands campaign matrix pattern _

theorem analysisFor (invocation : Invocation) (options : Options) (settings : Settings)
    (document : Path) :
    Quiet (settings.reportPath :: options.pagePath?.toList)
      (invocation.analysis options settings document).run := by
  refine analysis _ ?_ fun path isPage => ?_
  · simp only [Invocation.analysis, List.mem_cons, true_or]
  · simp only [Invocation.analysis] at isPage
    exact List.mem_cons_of_mem _ (Option.mem_toList.mpr isPage)

theorem perform (invocation : Invocation) {options : Options} (dry : options.isDry = true) :
    Quiet ((options.settings invocation.workDirectory invocation.moment).reportPath ::
      options.pagePath?.toList) (invocation.perform options) := by
  unfold Invocation.perform
  cases document : nonempty? options.resultsFile with
  | none =>
    rw [Options.isDry, document, Option.isSome_none, Bool.false_or] at dry
    exact survey invocation _ dry
  | some document =>
    exact (makeDirectory _).bind fun _ => analysisFor invocation options _ _

end Quiet

/-- The names of the documents and the logs are made of the time stamp, and none ends like the name
of the report. -/
theorem exists_leftFile_of_mem {campaign : Campaign} {path : Path}
    (isLeft : path ∈ campaign.leftPaths) : ∃ front extension final,
      path = campaign.settings.leftFile front extension ∧ Settings.Frames front extension ∧
        extension.toList.getLast? = some final ∧ final ≠ 't' := by
  simp only [Campaign.leftPaths, List.mem_cons, List.not_mem_nil, or_false] at isLeft
  rcases isLeft with rfl | rfl | rfl | rfl
  · exact ⟨"jellyfin-build-", ".log", 'g', rfl, ⟨by decide, by decide⟩, by decide, by decide⟩
  · exact ⟨"jellyfin-run-", ".log", 'g', rfl, ⟨by decide, by decide⟩, by decide, by decide⟩
  · exact ⟨"results-", ".xml", 'l', rfl, ⟨by decide, by decide⟩, by decide, by decide⟩
  · exact ⟨"r2rfails-", ".xml", 'l', rfl, ⟨by decide, by decide⟩, by decide, by decide⟩

/-- Where nothing but the report and some pages was written, a file in the place of a document or a
log was there before, or it is a page. -/
theorem document_of_onlyWrites (campaign : Campaign) {pages : List Path}
    (stamped : '/' ∉ campaign.settings.timestamp.toList) {before after : FileTree}
    (writes : FileTree.OnlyWrites (campaign.settings.reportPath :: pages) before after)
    {path : Path} (isLeft : path ∈ campaign.leftPaths) {place : Place} {content : ByteArray}
    (located : after.locate path = .ok (place, some (.file content))) :
    before.get? place = some (.file content) ∨
      ∃ page ∈ pages, after.locate page = .ok (place, some (.file content)) := by
  have there := FileTree.get?_of_locate located (by simp)
  rcases writes.files place content there with before | ⟨other, isWritten, otherLocated⟩
  · exact .inl before
  · rcases List.mem_cons.mp isWritten with rfl | isPage
    · -- The report is written, but none of the paths leads to it.
      obtain ⟨front, extension, final, rfl, frames, last, notReport⟩ :=
        exists_leftFile_of_mem isLeft
      exact absurd rfl (FileTree.place_ne (Settings.isNamed_reportPath stamped)
        (Settings.isNamed_leftFile stamped frames)
        (campaign.settings.leftName_ne_report front last notReport) otherLocated located)
    · exact .inr ⟨other, isPage, otherLocated⟩

/-- Dry invocations launch nothing and leave neither documents nor logs. Whatever stands where a
campaign with these settings leaves one was there before, unless it is the page that was asked
for. -/
theorem run_of_isDry (invocation : Invocation) (workspace : Workspace) (options : Options)
    (accepted : readOptions invocation.arguments = .ok options) (dry : options.isDry = true) :
    let settings := options.settings invocation.workDirectory invocation.moment
    let after := (invocation.run.run workspace).2
    workspace.session.GoesOn [] after.session ∧
      ∀ backend, ∀ path ∈ Campaign.leftPaths { settings, backend }, ∀ place content,
        after.files.locate path = .ok (place, some (.file content)) →
          workspace.files.get? place = some (.file content) ∨
            ∃ page, options.pagePath? = some page ∧
              after.files.locate page = .ok (place, some (.file content)) := by
  intro settings after
  have follows := (Quiet.perform invocation dry workspace).trans
    (Invocation.follows_run accepted _ workspace)
  refine ⟨follows.session, fun backend path isLeft place content located => ?_⟩
  have stamped : '/' ∉ settings.timestamp.toList := slash_notMem_stamp invocation.moment
  obtain before | ⟨page, isPage, pageLocated⟩ :=
    document_of_onlyWrites { settings, backend } stamped follows.files isLeft located
  · exact .inl before
  · exact .inr ⟨page, Option.mem_toList.mp isPage, pageLocated⟩

/-- A document is to be analysed, with a page, and modes are to be listed and shown besides. -/
def dryInvocation : Invocation where
  arguments := ["results.xml", "--list-configs", "--command-only", "r2r", "--html", "page.html"]
  workDirectory := "/src"
  moment := ⟨2024, 1, 2, 3, 4, 5⟩

/-- What the dry invocation asks for. -/
def dryOptions : Options where
  resultsFile := some "results.xml"
  commandOnly := some "r2r"
  listConfigs := true
  page := some "page.html"

theorem run_of_isDry_dryInvocation :
    readOptions dryInvocation.arguments = .ok dryOptions ∧ dryOptions.isDry = true ∧
    let settings := dryOptions.settings dryInvocation.workDirectory dryInvocation.moment
    let after := (dryInvocation.run.run {}).2
    ({} : Session).GoesOn [] after.session ∧
      ∀ backend, ∀ path ∈ Campaign.leftPaths { settings, backend }, ∀ place content,
        after.files.locate path = .ok (place, some (.file content)) →
          FileTree.get? {} place = some (.file content) ∨
            ∃ page, dryOptions.pagePath? = some page ∧
              after.files.locate page = .ok (place, some (.file content)) := by
  have accepted : readOptions dryInvocation.arguments = .ok dryOptions := by rfl
  exact ⟨accepted, by decide, run_of_isDry dryInvocation {} dryOptions accepted (by decide)⟩

/-! ### Other invocations -/

theorem run_forFailures (campaign : Campaign) (workspace : Workspace) :
    (inSession campaign.forFailures).run.run workspace =
      (.ok campaign.settled, workspace.printing "" campaign.warning) := by
  rw [run_inSession, forFailures_eq, printing, String.append_empty]

/-- The campaign that the options of an invocation ask for, before it is settled whether failures
are collected. -/
def Invocation.request (invocation : Invocation) (options : Options) : Campaign where
  settings := options.settings invocation.workDirectory invocation.moment
  backend := options.backend.getD invocation.host.preferred

/-- The campaign that the options of an invocation ask for. -/
def Invocation.campaign (invocation : Invocation) (options : Options) : Campaign :=
  (invocation.request options).settled

/-- Settling changes how many runs are made and what is asked of them, and nothing else. -/
theorem exists_settings_settled (campaign : Campaign) : ∃ warmups iterations resolutionFails,
    campaign.settled.settings =
      { campaign.settings with warmups, iterations, resolutionFails } := by
  rw [Campaign.settled]
  split
  · split <;> exact ⟨_, _, _, rfl⟩
  · exact ⟨_, _, _, rfl⟩

theorem backend_settled (campaign : Campaign) : campaign.settled.backend = campaign.backend := by
  rw [Campaign.settled]
  split
  · split <;> rfl
  · rfl

/-- Failures are given up by settling only where they would not have been collected. -/
theorem collectsFailures_settled (campaign : Campaign) :
    campaign.settled.collectsFailures = campaign.collectsFailures := by
  rw [Campaign.settled]
  split
  · split
    · rfl
    · next silent => simp [Campaign.collectsFailures, silent]
  · rfl

theorem ofName_backend (options : Options) (preferred : Backend) :
    Backend.ofName (options.backend.map Backend.name) preferred =
      .ok (options.backend.getD preferred) := by
  cases options.backend with
  | none => rfl
  | some backend => cases backend <;> rfl

namespace Invocation

/-- What is done for modes once it is settled which they are and whether failures are collected. -/
def serve (invocation : Invocation) (options : Options) (campaign : Campaign) (matrix : Matrix) :
    Working Unit :=
  if options.listConfigs then
    inSession (matrix.modes.forM fun mode => Session.print mode.describe)
  else
    match nonempty? options.commandOnly with
    | some pattern => campaign.showCommands matrix pattern invocation.host.engine
    | none => do
      let document ← (campaign.clamped matrix).runBenchmarks matrix
      (invocation.analysis options campaign.settings document).run

/-- What is said before modes are served. -/
def warning (invocation : Invocation) (options : Options) : String :=
  (invocation.request options).warning

/-- Without a document the modes that are asked for are served, unless they are refused. -/
theorem run_perform_eq (invocation : Invocation) {options : Options}
    (noDocument : nonempty? options.resultsFile = none) (workspace : Workspace) :
    let between := workspace.printing "" (invocation.warning options)
    (invocation.perform options).run.run workspace =
      match options.matrix invocation.host.engine with
      | .error fault => (.error (.selection fault), between)
      | .ok matrix =>
        (invocation.serve options (invocation.campaign options) matrix).run.run between := by
  intro between
  rw [perform, noDocument]
  refine (run_bind_ok (run_orEnd .backend (ofName_backend options _) workspace)).trans ?_
  refine (run_bind_ok (run_forFailures (invocation.request options) workspace)).trans ?_
  cases options.matrix invocation.host.engine with
  | error fault =>
    refine run_bind_error ?_
    rw [run_orEnd_eq]
    rfl
  | ok matrix => exact run_bind_ok (run_orEnd .selection rfl _)

end Invocation

theorem scheduled_of_goesOn (campaign : Campaign) (matrix : Matrix) {session after : Session}
    (silent : session.GoesOn [] after) :
    campaign.scheduled matrix after = campaign.scheduled matrix session := by
  rw [Campaign.scheduled, silent.runner, silent.coming]
  rfl

/-- A matrix that options ask for can be counted: there are few templates and few variants. -/
theorem count_matrix {options : Options} {engine : PatternEngine} {matrix : Matrix}
    (asked : options.matrix engine = .ok matrix) : matrix.count < Matrix.countLimit := by
  have few (expand : Bool) : (Matrix.create none expand).count ≤ 24 := by
    cases expand <;> decide
  have fewer : matrix.count ≤ (Matrix.create none options.expandToggles).count := by
    rw [Options.matrix] at asked
    split at asked
    · rw [Matrix.select] at asked
      cases patterns : readSelection engine _ with
      | error fault =>
        rw [patterns] at asked
        cases asked
      | ok patterns =>
        rw [patterns] at asked
        cases asked
        exact List.length_filter_le _ _
    · cases asked
      exact le_refl _
  have limit := few options.expandToggles
  rw [Matrix.countLimit]
  omega

/-- A limit that options ask for can be taken. -/
theorem exists_selected (invocation : Invocation) {options : Options} {matrix : Matrix}
    (asked : options.matrix invocation.host.engine = .ok matrix) :
    ∃ places total,
      ((invocation.campaign options).clamped matrix).selected matrix = .ok (places, total) := by
  have firstModes : 0 ≤ ((invocation.campaign options).clamped matrix).settings.firstModes := by
    obtain ⟨_, _, _, settings⟩ := exists_settings_settled (invocation.request options)
    refine le_min ?_ (Int.natCast_nonneg _)
    rw [Invocation.campaign, settings]
    exact Int.natCast_nonneg _
  obtain ⟨places, total, selected, -⟩ :=
    selected_eq_ok _ matrix firstModes (count_matrix asked)
  exact ⟨places, total, selected⟩

/-- An invocation that is not dry goes through the trials that its campaign is scheduled for and
leaves their documents. What comes behind is the analysis. -/
theorem exists_run_perform (invocation : Invocation) (workspace : Workspace) {options : Options}
    (notDry : options.isDry = false) {matrix : Matrix}
    (asked : options.matrix invocation.host.engine = .ok matrix) {paths : List Path}
    (writes : ((invocation.campaign options).clamped matrix).WritesAmong paths)
    (can : workspace.files.CanWriteIn (invocation.campaign options).settings.outputDirectory
      paths) :
    let campaign := (invocation.campaign options).clamped matrix
    let trials := campaign.scheduled matrix workspace.session
    ∃ document left, workspace.session.GoesOn (trials.flatMap (·.launches campaign)) left.session ∧
      campaign.Leaves (campaign.documentText trials false) (campaign.failuresText? trials)
        document left ∧
      (∀ path ∈ paths, left.files.Accepts path) ∧
      (invocation.perform options).run.run workspace =
        (invocation.analysis options campaign.settings document).run.run.run left := by
  intro campaign trials
  simp only [Options.isDry, Bool.or_eq_false_iff, Option.isSome_eq_false_iff,
    Option.isNone_iff_eq_none] at notDry
  obtain ⟨⟨document, lists⟩, shows⟩ := notDry
  obtain ⟨places, total, selected⟩ := exists_selected invocation asked
  let between := workspace.printing "" (invocation.warning options)
  have silent := (onlyPrints_printing workspace "" (invocation.warning options)).goesOn
  have performs : (invocation.perform options).run.run workspace =
      (campaign.runBenchmarks matrix >>= fun document =>
        (invocation.analysis options campaign.settings document).run).run.run between := by
    rw [invocation.run_perform_eq document, asked]
    simp only [Invocation.serve, lists, shows]
    rfl
  rcases Campaign.ends_runBenchmarks_among writes selected between with
    ⟨cannot, -⟩ | ⟨path, left, ran, ready, goesOn, leaves⟩
  · exact absurd can cannot
  · rw [scheduled_of_goesOn campaign matrix silent] at goesOn leaves
    exact ⟨path, left, silent.trans goesOn, leaves, ready.resolve_left (not_not_intro can),
      performs.trans (run_bind_ok ran)⟩

/-- An invocation that is not dry goes through the trials that its campaign is scheduled for. -/
theorem run_of_not_isDry (invocation : Invocation) (workspace : Workspace) {options : Options}
    (accepted : readOptions invocation.arguments = .ok options) (notDry : options.isDry = false)
    {matrix : Matrix} (asked : options.matrix invocation.host.engine = .ok matrix)
    (can : (invocation.campaign options).CanLeave workspace.files) :
    let campaign := (invocation.campaign options).clamped matrix
    workspace.session.GoesOn
      ((campaign.scheduled matrix workspace.session).flatMap (·.launches campaign))
      (invocation.run.run workspace).2.session := by
  intro campaign
  obtain ⟨document, left, goesOn, -, -, performs⟩ :=
    exists_run_perform invocation workspace notDry asked (Campaign.writesAmong_leftPaths _) can
  have analysed := Quiet.analysisFor invocation options campaign.settings document left
  rw [← performs] at analysed
  exact (goesOn.silently analysed.session).silently
    (Invocation.follows_run accepted [] workspace).session

/-- The commands of a mode are asked for, with an empty pattern. -/
def emptyPattern : Invocation where
  arguments := ["--command-only", ""]
  workDirectory := "/src"
  moment := ⟨2024, 1, 2, 3, 4, 5⟩

/-- What is asked for with an empty pattern: the campaign of the templates. -/
def emptyPatternCampaign : Campaign :=
  emptyPattern.campaign { commandOnly := some "" }

theorem canLeave_emptyPatternCampaign : emptyPatternCampaign.CanLeave {} := by
  refine FileTree.canWriteIn_of_free ?_
  simp only [String.contains_char_eq]
  decide +kernel

/-- An empty pattern occurs in every name, but instead of the commands of the first mode being shown
all six modes are built. -/
theorem launches_of_emptyPattern :
    ∃ options, readOptions emptyPattern.arguments = .ok options ∧ options.commandOnly = some "" ∧
      (emptyPattern.run.run {}).2.session.launched.size = 6 := by
  have accepted : readOptions emptyPattern.arguments = .ok { commandOnly := some "" } := by rfl
  have matrix : Options.matrix { commandOnly := some "" } .plain = .ok ⟨Mode.templates⟩ := by rfl
  have goesOn := run_of_not_isDry emptyPattern {} accepted (by decide) matrix
    canLeave_emptyPatternCampaign
  have six : (((emptyPatternCampaign.clamped ⟨Mode.templates⟩).scheduled
    ⟨Mode.templates⟩ {}).flatMap
      (·.launches (emptyPatternCampaign.clamped ⟨Mode.templates⟩))).length = 6 := by
    decide +kernel
  refine ⟨_, accepted, rfl, ?_⟩
  have launched := congrArg List.length goesOn.launched
  rw [List.length_append, List.length_map] at launched
  exact launched.trans (congrArg _ six)

end ColdStart
