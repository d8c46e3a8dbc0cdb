/-
This file shows that measurements outlive the analysis that follows them, and that the
analysis can be made again. The report has a name of its own, so writing it leaves the
documents as they are, whatever the analysis comes to. And what is reported is settled
by the content of the document, the level of significance and what is reported on: a
later invocation that is given the same reports the same.
-/

import ColdStart.Proofs.Files.Spelling
import ColdStart.Proofs.Invocation.Dry
import ColdStart.Proofs.Invocation.Ending

namespace ColdStart

open Workspace

/-! ### Analyses without a page -/

/-- A report was printed behind all that was printed before, and stands in a file. -/
structure Workspace.HasReport (after : Workspace) (before report : String) (path : Path) :
    Prop where
  printed : after.session.output = before ++ report
  saved : after.files.read path = .ok report.toUTF8

namespace Analysis

variable {analysis : Analysis} {workspace : Workspace} {content : ByteArray}

/-- What an analysis reports of the content of a document. -/
def reported (analysis : Analysis) (content : ByteArray) : Except Fault String := do
  let records ← readContent analysis.host.parser content
  (analysis.rendered records).mapError Fault.number

theorem rendered_of_noPage (noPage : analysis.page? = none) (records : List Record) :
    analysis.rendered records =
      if analysis.ofFailures then .ok (renderFailures records)
      else
        renderReport (records.map ModeStatistics.ofRecord) analysis.level analysis.host.test := by
  simp only [rendered, noPage, Option.isSome_none, Bool.false_eq_true, ↓reduceIte]
  cases renderReport (records.map ModeStatistics.ofRecord) analysis.level analysis.host.test <;>
    rfl

theorem run_reportText_of_noPage (noPage : analysis.page? = none) (records : List Record) :
    (analysis.reportText records).run.run workspace =
      ((analysis.rendered records).mapError Fault.number, workspace) := by
  rw [reportText, rendered_of_noPage noPage, noPage]
  split
  · rfl
  · rw [run_bind, run_orEnd_eq]
    cases renderReport (records.map ModeStatistics.ofRecord) analysis.level analysis.host.test <;>
      rfl

/-- Without a page an analysis does nothing but print its report and write it. -/
theorem run_of_noPage (noPage : analysis.page? = none)
    (stored : workspace.files.read analysis.document = .ok content) :
    analysis.run.run.run workspace =
      match analysis.reported content with
      | .error fault => (.error fault, workspace)
      | .ok report =>
        (writeFile analysis.report report).run.run
          { workspace with session := ((Session.printText report).run workspace.session).2 } := by
  rw [run, run_bind, run_loadDocument_eq _ stored, reported]
  cases readContent analysis.host.parser content with
  | error fault => rfl
  | ok records =>
    change (analysis.reportText records >>= fun report =>
      inSession (Session.printText report) >>= fun _ =>
        writeFile analysis.report report).run.run workspace = _
    rw [run_bind, run_reportText_of_noPage noPage]
    change _ = match (analysis.rendered records).mapError Fault.number with
      | .error fault => _
      | .ok report => _
    cases analysis.rendered records with
    | error fault => rfl
    | ok report => exact run_bind_ok (run_inSession _ workspace)

/-- An analysis without a page leaves what bears another name than its report. -/
theorem read_run_of_noPage (noPage : analysis.page? = none)
    (stored : workspace.files.read analysis.document = .ok content) {path : Path}
    {name reportName : String} (reportNamed : analysis.report.IsNamed reportName)
    (named : path.IsNamed name) (different : name ≠ reportName) {old : ByteArray}
    (before : workspace.files.read path = .ok old) :
    (analysis.run.run.run workspace).2.files.read path = .ok old := by
  rw [run_of_noPage noPage stored]
  cases analysis.reported content with
  | error fault => exact before
  | ok report =>
    simp only [writeFile, run_changeFiles]
    cases written : workspace.files.write analysis.report report.toUTF8 with
    | error fault => exact before
    | ok files =>
      exact FileTree.read_behind_write_of_isNamed reportNamed named different written before

/-- An analysis that does not end early has a report, and prints and saves it. -/
theorem exists_hasReport (analysis : Analysis) (noPage : analysis.page? = none)
    (stored : workspace.files.read analysis.document = .ok content)
    (succeeds : (analysis.run.run.run workspace).1 = .ok ()) :
    ∃ report, analysis.reported content = .ok report ∧
      (analysis.run.run.run workspace).2.HasReport workspace.session.output report
        analysis.report := by
  rw [run_of_noPage noPage stored] at succeeds ⊢
  cases reported : analysis.reported content with
  | error fault =>
    rw [reported] at succeeds
    cases succeeds
  | ok report =>
    refine ⟨report, rfl, ?_⟩
    simp only [reported, writeFile, run_changeFiles] at succeeds ⊢
    cases written : workspace.files.write analysis.report report.toUTF8 with
    | error fault =>
      rw [written] at succeeds
      cases succeeds
    | ok files => exact ⟨rfl, FileTree.read_of_write written⟩

/-- If the report can be saved, an analysis ends early only when there is none. -/
theorem result_of_noPage (analysis : Analysis) (noPage : analysis.page? = none)
    (stored : workspace.files.read analysis.document = .ok content)
    (accepts : workspace.files.Accepts analysis.report) :
    (analysis.run.run.run workspace).1 = discard (analysis.reported content) := by
  have canLeave : analysis.CanLeave workspace.files := by
    refine ⟨accepts, fun path isPage => ?_⟩
    rw [noPage] at isPage
    cases isPage
  rw [run_eq stored canLeave, reported]
  cases readContent analysis.host.parser content <;> rfl

/-- Analyses without a page that report on the same, at the same level and on the same host, report
the same. -/
theorem reported_eq (analysis other : Analysis) (noPage : analysis.page? = none)
    (otherNoPage : other.page? = none) (ofFailures : other.ofFailures = analysis.ofFailures)
    (level : other.level = analysis.level) (host : other.host = analysis.host)
    (content : ByteArray) : other.reported content = analysis.reported content := by
  simp only [reported, rendered_of_noPage noPage, rendered_of_noPage otherNoPage, ofFailures,
    level, host]

end Analysis

/-! ### Documents that are kept -/

namespace Campaign

/-- The paths of the files that a campaign writes: that of the failures only if they are
collected. -/
def writtenPaths (campaign : Campaign) : List Path :=
  [campaign.settings.buildLogPath, campaign.settings.runLogPath, campaign.settings.resultsPath] ++
    if campaign.collectsFailures then [campaign.settings.failuresPath] else []

theorem writesAmong_writtenPaths (campaign : Campaign) :
    campaign.WritesAmong campaign.writtenPaths where
  buildLog := by simp [writtenPaths]
  runLog := by simp [writtenPaths]
  results := by simp [writtenPaths]
  failures collects := by simp [writtenPaths, collects]

/-- The document that is analysed. -/
def analysedPath (campaign : Campaign) : Path :=
  if campaign.collectsFailures then campaign.settings.failuresPath
  else campaign.settings.resultsPath

/-- Documents stand in the files of a campaign. -/
structure Stores (campaign : Campaign) (documents : Documents) (files : FileTree) : Prop where
  results : files.read campaign.settings.resultsPath = .ok documents.results.render.toUTF8
  failures : ∀ document ∈ documents.failures?,
    files.read campaign.settings.failuresPath = .ok document.render.toUTF8

/-- The documents of what comes of trials. -/
def documentsOf (campaign : Campaign) (trials : List Trial) : Documents :=
  campaign.blankDocuments.recordAll (trials.map (·.outcome campaign))

theorem documentText_eq (campaign : Campaign) (trials : List Trial) :
    campaign.documentText trials false = (campaign.documentsOf trials).results.render := by
  rw [documentsOf, recordAll_blankDocuments, documentText]

/-- What a campaign has left is stored, and one of its documents is to be analysed. -/
theorem stores_of_leaves {campaign : Campaign} {trials : List Trial} {document : Path}
    {left : Workspace} (stamped : '/' ∉ campaign.settings.timestamp.toList)
    (leaves : campaign.Leaves (campaign.documentText trials false)
      (campaign.failuresText? trials) document left) :
    document = campaign.analysedPath ∧
      campaign.Stores (campaign.documentsOf trials) left.files := by
  obtain ⟨before, files, wrote, written⟩ := leaves.written
  have results := FileTree.read_of_write wrote
  rw [documentText_eq] at results
  rw [failuresText?] at written
  rw [analysedPath]
  cases collects : campaign.collectsFailures with
  | false =>
    simp only [collects, Bool.false_eq_true, ↓reduceIte] at written ⊢
    obtain ⟨rfl, same⟩ := written
    refine ⟨rfl, same ▸ results, fun document isLeft => ?_⟩
    rw [documentsOf, recordAll_blankDocuments, collects] at isLeft
    cases isLeft
  | true =>
    simp only [collects, ↓reduceIte] at written ⊢
    obtain ⟨rfl, wroteFailures⟩ := written
    refine ⟨rfl, ?_, fun document isLeft => ?_⟩
    · exact FileTree.read_behind_write_of_isNamed
        (Settings.isNamed_leftFile stamped ⟨by decide, by decide⟩)
        (Settings.isNamed_leftFile stamped ⟨by decide, by decide⟩)
        campaign.settings.leftName_results_ne_failures wroteFailures results
    · rw [documentsOf, recordAll_blankDocuments, collects] at isLeft
      obtain rfl := Option.some.inj isLeft
      exact FileTree.read_of_write wroteFailures

variable {campaign : Campaign} {documents : Documents} {workspace : Workspace}
  {content : ByteArray}

theorem Stores.read_analysedPath {trials : List Trial} {files : FileTree}
    (stores : campaign.Stores (campaign.documentsOf trials) files) :
    files.read campaign.analysedPath =
      .ok (campaign.documentText trials campaign.collectsFailures).toUTF8 := by
  rw [analysedPath]
  cases collects : campaign.collectsFailures with
  | false =>
    rw [documentText_eq]
    exact stores.results
  | true =>
    exact stores.failures _ (by rw [documentsOf, recordAll_blankDocuments, collects]; rfl)

/-- An analysis without a page leaves the documents and the logs of its campaign. -/
theorem read_analysed (analysis : Analysis)
    (stamped : '/' ∉ campaign.settings.timestamp.toList)
    (noPage : analysis.page? = none) (report : analysis.report = campaign.settings.reportPath)
    (stored : workspace.files.read analysis.document = .ok content) {path : Path}
    (isLeft : path ∈ campaign.leftPaths) {old : ByteArray}
    (before : workspace.files.read path = .ok old) :
    (analysis.run.run.run workspace).2.files.read path = .ok old := by
  obtain ⟨front, extension, final, rfl, frames, last, notReport⟩ := exists_leftFile_of_mem isLeft
  exact Analysis.read_run_of_noPage noPage stored
    (by rw [report]; exact Settings.isNamed_reportPath stamped)
    (Settings.isNamed_leftFile stamped frames)
    (campaign.settings.leftName_ne_report front last notReport) before

theorem Stores.analysed (stores : campaign.Stores documents workspace.files) (analysis : Analysis)
    (stamped : '/' ∉ campaign.settings.timestamp.toList) (noPage : analysis.page? = none)
    (report : analysis.report = campaign.settings.reportPath)
    (stored : workspace.files.read analysis.document = .ok content) :
    campaign.Stores documents (analysis.run.run.run workspace).2.files where
  results := read_analysed analysis stamped noPage report stored
    (by simp [leftPaths]) stores.results
  failures document isLeft := read_analysed analysis stamped noPage report stored
    (by simp [leftPaths]) (stores.failures document isLeft)

/-! ### Settings -/

theorem resolutionFails_settled (campaign : Campaign) :
    campaign.settled.settings.resolutionFails = campaign.settled.collectsFailures := by
  rw [settled]
  split
  · split <;> simp [collectsFailures, *]
  · simp [collectsFailures, *]

/-- The text of a path that is left denotes that path. -/
theorem ofText_leftFile {settings : Settings} (plain : settings.outputDirectory.IsPlain)
    (front extension : String) :
    Path.ofText (settings.leftFile front extension).text = settings.leftFile front extension :=
  Path.ofText_text (plain.join (Path.isPlain_ofText _))

theorem ofText_analysedPath (campaign : Campaign)
    (plain : campaign.settings.outputDirectory.IsPlain) :
    .ofText campaign.analysedPath.text = campaign.analysedPath := by
  rw [analysedPath]
  split <;> exact ofText_leftFile plain _ _

end Campaign

/-! ### Invocations -/

namespace Invocation

section

variable (invocation : Invocation) (options : Options) (matrix : Matrix)

theorem timestamp_campaign :
    ((invocation.campaign options).clamped matrix).settings.timestamp =
      invocation.moment.stamp := by
  obtain ⟨_, _, _, settled⟩ := exists_settings_settled (invocation.request options)
  rw [campaign, Campaign.clamped, settled]
  rfl

theorem outputDirectory_campaign :
    ((invocation.campaign options).clamped matrix).settings.outputDirectory =
      .ofText options.outputDirectory := by
  obtain ⟨_, _, _, settled⟩ := exists_settings_settled (invocation.request options)
  rw [campaign, Campaign.clamped, settled]
  rfl

theorem slash_notMem_campaign :
    '/' ∉ ((invocation.campaign options).clamped matrix).settings.timestamp.toList := by
  rw [timestamp_campaign]
  exact slash_notMem_stamp invocation.moment

end

end Invocation

theorem Ending.eq_ok_of_ofResult {result : Except Fault Unit}
    (succeeds : Ending.ofResult result = .exit successCode) : result = .ok () := by
  cases result with
  | ok done => rfl
  | error fault =>
    rw [Ending.ofResult] at succeeds
    split at succeeds <;> cases succeeds

namespace Invocation

variable {invocation : Invocation} {workspace : Workspace} {options : Options}

theorem report_analysisOf (document : String) :
    (invocation.analysisOf options document).report =
      (options.settings invocation.workDirectory invocation.moment).reportPath := by
  rw [analysisOf, analysis]

/-- An invocation that is given a document that has a report prints and saves the report. -/
theorem run_of_reported {document : String} {content : ByteArray} {report : String}
    (accepted : readOptions invocation.arguments = .ok options)
    (asked : nonempty? options.resultsFile = some document) (noPage : options.pagePath? = none)
    (stored : workspace.files.read (.ofText document) = .ok content)
    (reported : (invocation.analysisOf options document).reported content = .ok report)
    (can : workspace.files.CanWriteIn (.ofText options.outputDirectory)
      [(options.settings invocation.workDirectory invocation.moment).reportPath]) :
    (invocation.run.run workspace).1 = .exit successCode ∧
      (invocation.run.run workspace).2.HasReport workspace.session.output report
        (options.settings invocation.workDirectory invocation.moment).reportPath := by
  obtain ⟨made, makes, accepts⟩ := can
  let begun : Workspace := { workspace with files := made }
  let analysis := invocation.analysisOf options document
  have performs : (invocation.perform options).run.run workspace = analysis.run.run.run begun := by
    rw [perform, asked]
    exact run_bind_ok (run_makeDirectory makes)
  have stored : begun.files.read analysis.document = .ok content :=
    (FileTree.onlyMakes_makeDirectory makes).read stored
  have accepts : begun.files.Accepts analysis.report := by
    rw [report_analysisOf]
    exact accepts _ List.mem_cons_self
  have succeeds : (analysis.run.run.run begun).1 = .ok () := by
    rw [analysis.result_of_noPage noPage stored accepts, reported]
    rfl
  obtain ⟨other, reportedOther, hasReport⟩ := analysis.exists_hasReport noPage stored succeeds
  obtain rfl : report = other := Except.ok.inj (reported.symm.trans reportedOther)
  obtain ⟨last, ran, -, output⟩ := exists_run_eq accepted workspace
  rw [performs] at ran output
  rw [ran, succeeds, ← report_analysisOf document]
  exact ⟨rfl, output.trans hasReport.printed, hasReport.saved⟩

/-- An invocation asks for a document to be analysed again: on the same host, for its failures or
not, at a level, and without a page. Its report can be left. -/
structure Reanalyses (invocation : Invocation) (options : Options) (host : Host) (document : Path)
    (ofFailures : Bool) (level : Binary64) (files : FileTree) : Prop where
  accepted : readOptions invocation.arguments = .ok options
  host : invocation.host = host
  document : ∃ text, nonempty? options.resultsFile = some text ∧ .ofText text = document
  failures : options.resolutionFails = ofFailures
  level : options.level = level
  noPage : options.pagePath? = none
  canLeave : files.CanWriteIn (.ofText options.outputDirectory)
    [(options.settings invocation.workDirectory invocation.moment).reportPath]

/-- An invocation that is not dry stores the documents of its campaign and shows that of the
results. Then comes the analysis, and nothing is printed or written behind it. -/
theorem exists_run_campaign (accepted : readOptions invocation.arguments = .ok options)
    (notDry : options.isDry = false) {matrix : Matrix}
    (asked : options.matrix invocation.host.engine = .ok matrix) {paths : List Path}
    (writes : ((invocation.campaign options).clamped matrix).WritesAmong paths)
    (can : workspace.files.CanWriteIn (.ofText options.outputDirectory) paths) :
    let campaign := (invocation.campaign options).clamped matrix
    let trials := campaign.scheduled matrix workspace.session
    ∃ left last, workspace.session.GoesOn (trials.flatMap (·.launches campaign)) left.session ∧
      campaign.Stores (campaign.documentsOf trials) left.files ∧
      (∃ progress, left.session.output = progress ++ (documentRule ++ "\n") ++
        ((campaign.documentsOf trials).results.render ++ "\n")) ∧
      (∀ path ∈ paths, left.files.Accepts path) ∧
      let analysed := (invocation.analysis options campaign.settings
        campaign.analysedPath).run.run.run left
      invocation.run.run workspace =
          (.ofResult analysed.1, { analysed.2 with session := last }) ∧
        analysed.2.session.GoesOn [] last ∧ last.output = analysed.2.session.output := by
  intro campaign trials
  rw [← invocation.outputDirectory_campaign options matrix] at can
  obtain ⟨document, left, goesOn, leaves, accepts, performs⟩ :=
    exists_run_perform invocation workspace notDry asked writes can
  obtain ⟨rfl, stores⟩ :=
    Campaign.stores_of_leaves (invocation.slash_notMem_campaign options matrix) leaves
  obtain ⟨last, ran, prints, output⟩ := exists_run_eq accepted workspace
  rw [performs] at ran prints output
  have shown := leaves.shown
  rw [Campaign.documentText_eq] at shown
  exact ⟨left, last, goesOn, stores, shown, accepts, ran, prints.goesOn, output⟩

/-- How an invocation ends that is not dry is settled by its document, if its report can be left as
well. -/
theorem ending_of_campaign (invocation : Invocation) (workspace : Workspace)
    (accepted : readOptions invocation.arguments = .ok options)
    (notDry : options.isDry = false) (noPage : options.pagePath? = none) {matrix : Matrix}
    (asked : options.matrix invocation.host.engine = .ok matrix) :
    let campaign := (invocation.campaign options).clamped matrix
    let trials := campaign.scheduled matrix workspace.session
    workspace.files.CanWriteIn (.ofText options.outputDirectory)
        (campaign.settings.reportPath :: campaign.writtenPaths) →
      (invocation.run.run workspace).1 = .ofResult (discard
        ((invocation.analysis options campaign.settings campaign.analysedPath).reported
          (campaign.documentText trials campaign.collectsFailures).toUTF8)) := by
  intro campaign trials can
  have writes : campaign.WritesAmong (campaign.settings.reportPath :: campaign.writtenPaths) :=
    campaign.writesAmong_writtenPaths.mono (List.subset_cons_self _ _)
  obtain ⟨left, last, -, stores, -, accepts, ran, -⟩ :=
    exists_run_campaign accepted notDry asked writes can
  let analysis := invocation.analysis options campaign.settings campaign.analysedPath
  have accepts : left.files.Accepts analysis.report := by
    simp only [analysis, Invocation.analysis]
    exact accepts _ List.mem_cons_self
  rw [ran, analysis.result_of_noPage noPage stores.read_analysedPath accepts]

end Invocation

/-- Measurements outlive their analysis, and the analysis can be made again. Whatever becomes of an
invocation that runs a campaign and makes no page, the documents of what came of the scheduled
trials stand in its files in the end. If it succeeds, it has printed a report last and saved it.
Whoever has the analysed document analysed later, for failures exactly when they were collected
and at the same level, is given that report again, as long as the document still reads as it was
left. -/
theorem run_keeps_measurements (invocation : Invocation) (workspace : Workspace)
    {options : Options} (accepted : readOptions invocation.arguments = .ok options)
    (notDry : options.isDry = false) (noPage : options.pagePath? = none) {matrix : Matrix}
    (asked : options.matrix invocation.host.engine = .ok matrix)
    (can : workspace.files.CanWriteIn (.ofText options.outputDirectory)
      (invocation.campaign options).writtenPaths) :
    let campaign := (invocation.campaign options).clamped matrix
    let trials := campaign.scheduled matrix workspace.session
    let documents := campaign.documentsOf trials
    let ending := (invocation.run.run workspace).1
    let after := (invocation.run.run workspace).2
    workspace.session.GoesOn (trials.flatMap (·.launches campaign)) after.session ∧
    campaign.Stores documents after.files ∧
    .ofText campaign.analysedPath.text = campaign.analysedPath ∧
    (ending = .exit successCode → ∃ progress report,
      after.HasReport (progress ++ (documentRule ++ "\n") ++
        (documents.results.render ++ "\n")) report
        campaign.settings.reportPath ∧
      ∀ (again : Invocation) (others : Options) (later : Workspace),
        again.Reanalyses others invocation.host campaign.analysedPath campaign.collectsFailures
          options.level later.files →
        later.files.read campaign.analysedPath = after.files.read campaign.analysedPath →
        (again.run.run later).1 = .exit successCode ∧
          (again.run.run later).2.HasReport later.session.output report
            (others.settings again.workDirectory again.moment).reportPath) := by
  intro campaign trials documents ending after
  have stamped := invocation.slash_notMem_campaign options matrix
  have collects : campaign.settings.resolutionFails = campaign.collectsFailures :=
    Campaign.resolutionFails_settled _
  obtain ⟨left, last, goesOn, stores, ⟨progress, shown⟩, -, ran, silent, output⟩ :=
    Invocation.exists_run_campaign accepted notDry asked (Campaign.writesAmong_writtenPaths _) can
  let analysis := invocation.analysis options campaign.settings campaign.analysedPath
  have report : analysis.report = campaign.settings.reportPath := by
    simp only [analysis, Invocation.analysis]
  let content := (campaign.documentText trials campaign.collectsFailures).toUTF8
  have stored : left.files.read analysis.document = .ok content := stores.read_analysedPath
  have kept := stores.analysed analysis stamped noPage report stored
  have analysed := Quiet.analysisFor invocation options campaign.settings campaign.analysedPath left
  simp only [ending, after, ran]
  refine ⟨(goesOn.silently analysed.session).silently silent, kept,
    campaign.ofText_analysedPath ?_, fun succeeds => ?_⟩
  · rw [invocation.outputDirectory_campaign]
    exact Path.isPlain_ofText _
  · obtain ⟨text, reported, hasReport⟩ := analysis.exists_hasReport noPage stored
      (Ending.eq_ok_of_ofResult succeeds)
    refine ⟨progress, text, ⟨?_, report ▸ hasReport.saved⟩, fun again others later asks same => ?_⟩
    · exact output.trans (hasReport.printed.trans (by rw [shown]))
    · obtain ⟨document, given, denotes⟩ := asks.document
      have storedLater : later.files.read (.ofText document) = .ok content := by
        rw [denotes, same]
        exact kept.read_analysedPath
      refine Invocation.run_of_reported asks.accepted given asks.noPage storedLater ?_
        asks.canLeave
      rw [← reported]
      exact analysis.reported_eq (again.analysisOf others document) noPage asks.noPage
        (asks.failures.trans collects.symm) asks.level asks.host content

/-- The first mode is built, and run for its failures. -/
def measuringInvocation : Invocation where
  arguments := ["--backend", "script", "--resolution-fails", "--first-n-configs", "1"]
  workDirectory := "/src"
  moment := ⟨2024, 1, 2, 3, 4, 5⟩

def measuringOptions : Options where
  firstModes := 1
  resolutionFails := true
  backend := some .script

def measuringCampaign : Campaign :=
  (measuringInvocation.campaign measuringOptions).clamped ⟨Mode.templates⟩

/-- The run reports a sample, and a failure behind it. -/
def measuringWorkspace : Workspace := {
  session := {
    coming := [.printing 0 [], .printing 143 [(.output, "XMLXMLXML\n"),
      (.output, Sample.line ⟨"RUNTIME", 950, 600, 35⟩ ++ "\n"), (.output, "LMXLMXLMX\n"),
      (.output, "<R2RResolutionFailed>First</R2RResolutionFailed>\n")]] } }

theorem scheduled_measuringWorkspace :
    measuringCampaign.scheduled ⟨Mode.templates⟩ measuringWorkspace.session = [
      { mode := { name := "baseline", readyToRun := true }
        build := some { exitCode := 0 }
        measured := [some {
          exitCode := 143
          lines := ["XMLXMLXML", Sample.line ⟨"RUNTIME", 950, 600, 35⟩, "LMXLMXLMX",
            "<R2RResolutionFailed>First</R2RResolutionFailed>"] }] }] := by
  decide +kernel

theorem isTold_measuringWorkspace : measuringCampaign.IsTold (fun _ => [⟨"RUNTIME", 950, 600, 35⟩])
    (measuringCampaign.scheduled ⟨Mode.templates⟩ measuringWorkspace.session) := by
  have plain : ∀ mode ∈ Mode.templates, mode.name.toList.all isXmlChar = true := by decide
  refine Campaign.isTold_scheduled (by decide) (by decide) (by decide) ?_
    (fun mode member => List.all_eq_true.mp (plain mode member)) ?_
  · exact lt_of_lt_of_le (by decide : (1 : Int) < 10) (le_self_pow₀ (by decide) (by decide))
  · rw [scheduled_measuringWorkspace]
    refine List.forall_mem_singleton.mpr ⟨?_, ?_, ?_⟩
    · exact List.forall_mem_singleton.mpr (prints_line [⟨"RUNTIME", 950, 600, 35⟩])
    · refine List.forall_mem_singleton.mpr (List.forall_mem_singleton.mpr ?_)
      exact ⟨by decide, by decide, by decide, by decide⟩
    · refine List.forall_mem_singleton.mpr (List.forall_mem_singleton.mpr ?_)
      exact List.all_iff_forall_prop.mp (by decide)

theorem canWriteIn_measuringCampaign :
    FileTree.CanWriteIn (.ofText measuringOptions.outputDirectory)
      (measuringCampaign.settings.reportPath :: measuringCampaign.writtenPaths) {} := by
  refine FileTree.canWriteIn_of_free ?_
  simp only [String.contains_char_eq]
  decide +kernel

/-- The failures are to be analysed again within the same minute. -/
def againInvocation : Invocation where
  arguments := ["r2rfails-0102-0304.xml", "--resolution-fails"]
  workDirectory := "/src"
  moment := ⟨2024, 1, 2, 3, 4, 50⟩

def againOptions : Options where
  resultsFile := some "r2rfails-0102-0304.xml"
  resolutionFails := true

theorem run_keeps_measurements_measuringInvocation :
    readOptions measuringInvocation.arguments = .ok measuringOptions ∧
    measuringOptions.isDry = false ∧ measuringOptions.pagePath? = none ∧
    measuringOptions.matrix .plain = .ok ⟨Mode.templates⟩ ∧
    FileTree.CanWriteIn (.ofText measuringOptions.outputDirectory)
      measuringCampaign.writtenPaths {} ∧
    let ending := (measuringInvocation.run.run measuringWorkspace).1
    let after := (measuringInvocation.run.run measuringWorkspace).2
    ending = .exit successCode ∧ ∃ progress report, after.session.output = progress ++ report ∧
      (againInvocation.run.run { files := after.files }).1 = .exit successCode ∧
      (againInvocation.run.run { files := after.files }).2.session.output = report := by
  have accepted : readOptions measuringInvocation.arguments = .ok measuringOptions := by rfl
  have matrix : measuringOptions.matrix .plain = .ok ⟨Mode.templates⟩ := by rfl
  have can := canWriteIn_measuringCampaign.mono (List.subset_cons_self _ _)
  let analysis := measuringInvocation.analysis measuringOptions measuringCampaign.settings
    measuringCampaign.analysedPath
  let content := (measuringCampaign.documentText
    (measuringCampaign.scheduled ⟨Mode.templates⟩ measuringWorkspace.session) true).toUTF8
  obtain ⟨found, reported⟩ : ∃ report, analysis.reported content = .ok report := by
    have read : readContent analysis.host.parser content = .ok _ :=
      readContent_toUTF8 (readDocument_trials isTold_measuringWorkspace true)
    rw [Analysis.reported, read]
    exact ⟨_, rfl⟩
  have succeeds : (measuringInvocation.run.run measuringWorkspace).1 = .exit successCode :=
    (measuringInvocation.ending_of_campaign measuringWorkspace accepted (by decide) rfl matrix
      canWriteIn_measuringCampaign).trans (congrArg
        (fun result => Ending.ofResult (discard result)) reported)
  obtain ⟨-, -, -, reports⟩ := run_keeps_measurements measuringInvocation measuringWorkspace
    accepted (by decide) rfl matrix can
  obtain ⟨progress, report, hasReport, again⟩ := reports succeeds
  have asks : againInvocation.Reanalyses againOptions {} measuringCampaign.analysedPath
      measuringCampaign.collectsFailures measuringOptions.level
      (measuringInvocation.run.run measuringWorkspace).2.files := by
    refine ⟨by rfl, rfl, ⟨_, rfl, by decide +kernel⟩, by decide, rfl, rfl, ?_⟩
    refine ⟨_, FileTree.makeDirectory_here _, List.forall_mem_singleton.mpr ?_⟩
    exact FileTree.accepts_of_read hasReport.saved
  obtain ⟨succeedsAgain, hasReportAgain⟩ := again _ _
    { files := (measuringInvocation.run.run measuringWorkspace).2.files } asks rfl
  exact ⟨accepted, by decide, rfl, matrix, can, succeeds, _, report, hasReport.printed,
    succeedsAgain, hasReportAgain.printed.trans (String.empty_append)⟩

end ColdStart
