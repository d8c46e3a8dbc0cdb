/-
This file says how an invocation ends that analyses a document. As long as its
files can be used, only the numbers in the document decide: what cannot be read is
reported, and so nothing else goes wrong unless the figures of the report or of the
page are too large for a double. Such figures are not reported, although each of
the times they are made of was read without complaint.
-/

import ColdStart.Proofs.Document.RoundTrip
import ColdStart.Proofs.Invocation.Quiet
import ColdStart.Proofs.Report.Range
import ColdStart.Proofs.Traversal

namespace ColdStart

open Workspace

/-! ### Analyses -/

/-- An analysis can leave its files: the report, and the page, for which a directory may have to be
made. -/
structure Analysis.CanLeave (analysis : Analysis) (files : FileTree) : Prop where
  report : files.Accepts analysis.report
  page : ∀ path ∈ analysis.page?, ∃ grown, files.makeDirectory path.parent = .ok grown ∧
    grown.Accepts path ∧ grown.Accepts analysis.report

/-- The text of the report of an analysis, for which the page has to be made as well if one is asked
for. -/
def Analysis.rendered (analysis : Analysis) (records : List Record) :
    Except NumberFault String := do
  if analysis.ofFailures then return renderFailures records
  else
    let modes := records.map ModeStatistics.ofRecord
    let text ← renderReport modes analysis.level analysis.host.test
    if analysis.page?.isSome then
      discard (renderPage modes defaultTitle analysis.moment.text analysis.level analysis.host.test)
    return text

namespace Analysis

variable {analysis : Analysis} {workspace : Workspace}

/-- A page that can be made is left, and the report can be left next to it in any case. -/
theorem exists_run_leavePage (modes : List ModeStatistics) {path : Path} {grown : FileTree}
    (made : workspace.files.makeDirectory path.parent = .ok grown)
    (accepts : grown.Accepts path) (reportAccepted : grown.Accepts analysis.report) :
    ∃ after, (analysis.leavePage modes path).run.run workspace =
        ((discard (renderPage modes defaultTitle analysis.moment.text analysis.level
          analysis.host.test)).mapError Fault.number, after) ∧
      after.files.Accepts analysis.report := by
  rw [leavePage, run_bind_ok (run_makeDirectory made), run_bind, run_orEnd_eq]
  cases renderPage modes defaultTitle analysis.moment.text analysis.level analysis.host.test with
  | error fault => exact ⟨_, rfl, reportAccepted⟩
  | ok page =>
    obtain ⟨files, wrote, given⟩ := accepts.run_writeFile page workspace.session
    exact ⟨_, run_bind_ok given, reportAccepted.behind_write wrote⟩

/-- What comes of the text of the report is what can be rendered, and the report can be left. -/
theorem exists_run_reportText (records : List Record)
    (canLeave : analysis.CanLeave workspace.files) :
    ∃ after, (analysis.reportText records).run.run workspace =
        ((analysis.rendered records).mapError Fault.number, after) ∧
      after.files.Accepts analysis.report := by
  cases failures : analysis.ofFailures with
  | true =>
    simp only [reportText, rendered, failures, ↓reduceIte]
    exact ⟨workspace, rfl, canLeave.report⟩
  | false =>
    simp only [reportText, rendered, failures, Bool.false_eq_true, ↓reduceIte]
    rw [run_bind, run_orEnd_eq]
    cases renderReport (records.map ModeStatistics.ofRecord) analysis.level analysis.host.test with
    | error fault => exact ⟨workspace, rfl, canLeave.report⟩
    | ok text =>
      cases page : analysis.page? with
      | none => exact ⟨workspace, rfl, canLeave.report⟩
      | some path =>
        obtain ⟨grown, made, accepts, reportAccepted⟩ := canLeave.page path page
        obtain ⟨after, left, accepted⟩ := exists_run_leavePage
          (records.map ModeStatistics.ofRecord) made accepts reportAccepted
        refine ⟨after, ?_, accepted⟩
        -- The text was made before the page, and is given only if the page is left.
        change (analysis.leavePage _ path >>= fun _ => pure text).run.run workspace = _
        rw [run_bind, left]
        cases renderPage (records.map ModeStatistics.ofRecord) defaultTitle analysis.moment.text
          analysis.level analysis.host.test <;> rfl

/-- How an analysis ends is settled by what it reads and by what can be rendered. -/
theorem run_eq {content : ByteArray} (stored : workspace.files.read analysis.document = .ok content)
    (canLeave : analysis.CanLeave workspace.files) :
    (analysis.run.run.run workspace).1 = (do
      let records ← readContent analysis.host.parser content
      discard ((analysis.rendered records).mapError Fault.number)) := by
  rw [Analysis.run, run_bind, run_loadDocument_eq _ stored]
  cases readContent analysis.host.parser content with
  | error fault => rfl
  | ok records =>
    obtain ⟨between, rendered, accepts⟩ := exists_run_reportText records canLeave
    change ((analysis.reportText records >>= _).run.run workspace).1 =
      discard ((analysis.rendered records).mapError Fault.number)
    rw [run_bind, rendered]
    cases analysis.rendered records with
    | error fault => rfl
    | ok text =>
      obtain ⟨files, -, given⟩ :=
        accepts.run_writeFile text ((Session.printText text).run between.session).2
      change ((inSession (Session.printText text) >>= fun _ =>
        writeFile analysis.report text).run.run between).1 = _
      rw [run_bind_ok (run_inSession _ between), given]
      rfl

/-! ### Figures -/

/-- The mean times of the records fit the doubles: those of every mode have shares of those of the
first, and if there is a page they are doubles themselves. For a report of failures they do not
matter. -/
def Fits (analysis : Analysis) (records : List Record) : Prop :=
  analysis.ofFailures = true ∨
    HasSummary (records.map ModeStatistics.ofRecord) ∧
      (analysis.page?.isSome = true → ∀ mode ∈ records.map ModeStatistics.ofRecord,
        ∀ value ∈ (PhaseDeltas.ofStatistics mode).values, value.natAbs < Binary64.limit)

instance (analysis : Analysis) (records : List Record) : Decidable (analysis.Fits records) :=
  inferInstanceAs (Decidable (_ ∨ _ ∧ (_ → _)))

/-- With a report, a page only needs the mean times to be doubles. -/
theorem isShown_iff {modes : List ModeStatistics} (summary : HasSummary modes)
    {first mode : ModeStatistics} (isFirst : first ∈ modes.head?) (member : mode ∈ modes) :
    mode.IsShown first ↔
      ∀ value ∈ (PhaseDeltas.ofStatistics mode).values, value.natAbs < Binary64.limit := by
  have shares := summary first isFirst mode member
  rw [PhaseDeltas.HasShares, PhaseDeltas.values, PhaseDeltas.values, List.forall₂_cons] at shares
  exact and_iff_right shares.1

theorem forall_isShown_iff {modes : List ModeStatistics} (summary : HasSummary modes) :
    (∀ first ∈ modes.head?, ∀ mode ∈ modes, mode.IsShown first) ↔
      ∀ mode ∈ modes, ∀ value ∈ (PhaseDeltas.ofStatistics mode).values,
        value.natAbs < Binary64.limit := by
  cases modes with
  | nil => simp
  | cons first others =>
    simp only [List.head?_cons, Option.mem_some_iff, forall_eq']
    exact forall₂_congr fun mode member => isShown_iff summary rfl member

/-- A report and a page are rendered if the mean times fit. -/
theorem givenIf_rendered (analysis : Analysis) {records : List Record}
    (inRange : ∀ record ∈ records, record.InRange) :
    GivenIf (analysis.Fits records) (analysis.rendered records) := by
  have modesInRange : ∀ mode ∈ records.map ModeStatistics.ofRecord, mode.InRange :=
    List.forall_mem_map.mpr fun record member => (inRange record member).ofRecord
  cases failures : analysis.ofFailures with
  | true =>
    simp only [rendered, failures, ↓reduceIte]
    exact .given (.inl failures) _
  | false =>
    simp only [rendered, failures, Bool.false_eq_true, ↓reduceIte]
    have page (text : String) : GivenIf
        (analysis.page?.isSome = true → ∀ first ∈ (records.map ModeStatistics.ofRecord).head?,
          ∀ mode ∈ records.map ModeStatistics.ofRecord, mode.IsShown first)
        (if analysis.page?.isSome then do
          discard (renderPage (records.map ModeStatistics.ofRecord) defaultTitle
            analysis.moment.text analysis.level analysis.host.test)
          return text
        else return text) := by
      split
      · next asked =>
        exact (((givenIf_renderPage _ _ _ modesInRange).map _).before fun _ => .pure text).congr
          (imp_iff_right asked).symm
      · next notAsked => exact .given (fun asked => absurd asked notAsked) text
    refine ((givenIf_renderReport analysis.level modesInRange).bind page).congr ?_
    rw [Fits, failures]
    simp only [Bool.false_eq_true, false_or]
    exact and_congr_right fun summary => forall_congr' fun _ => forall_isShown_iff summary

end Analysis

/-! ### Invocations -/

/-- What is given if a condition holds makes for success, and numbers that are too large break the
invocation off. -/
theorem Ending.ofResult_of_givenIf {Value : Type} {condition : Prop}
    {result : Except NumberFault Value} (here : GivenIf condition result) :
    (condition → Ending.ofResult (discard (result.mapError Fault.number)) = .exit successCode) ∧
      (¬ condition → ∃ fault : NumberFault, fault.IsOverflow ∧
        Ending.ofResult (discard (result.mapError Fault.number)) = .brokenOff (.number fault)) := by
  cases here with
  | given holds value => exact ⟨fun _ => rfl, fun fails => absurd holds fails⟩
  | tooLarge fails overflow =>
    refine ⟨fun holds => absurd holds fails, fun _ => ⟨_, overflow, ?_⟩⟩
    rcases overflow with rfl | rfl
    · rfl
    · rfl

namespace Invocation

variable {invocation : Invocation} {workspace : Workspace} {options : Options}

/-- The analysis of a document that the options name. -/
def analysisOf (invocation : Invocation) (options : Options) (document : String) : Analysis :=
  invocation.analysis options (options.settings invocation.workDirectory invocation.moment)
    (.ofText document)

/-- An analysis is performed in the directory that is made for what it leaves. -/
theorem perform_eq {document : String} {content : ByteArray} {made : FileTree}
    (asked : nonempty? options.resultsFile = some document)
    (stored : workspace.files.read (.ofText document) = .ok content)
    (makes : workspace.files.makeDirectory (.ofText options.outputDirectory) = .ok made)
    (canLeave : (invocation.analysisOf options document).CanLeave made) :
    ((invocation.perform options).run.run workspace).1 = (do
      let records ← readContent invocation.host.parser content
      discard (((invocation.analysisOf options document).rendered records).mapError
        Fault.number)) := by
  rw [perform, asked]
  change ((Workspace.makeDirectory (.ofText options.outputDirectory) >>= fun _ =>
    (invocation.analysisOf options document).run).run.run workspace).1 = _
  rw [run_bind_ok (run_makeDirectory makes)]
  -- The document still reads as before, as nothing but directories was made.
  exact Analysis.run_eq ((FileTree.onlyMakes_makeDirectory makes).read stored) canLeave

/-- What cannot be read is reported. -/
theorem isReported_of_readContent {parse : XmlParser} {content : ByteArray} {fault : Fault}
    (refused : readContent parse content = .error fault) : fault.isReported = true := by
  rcases (bind_eq_error_iff _ _ _).mp refused with undecoded | ⟨text, -, unread⟩
  · obtain ⟨cause, -, rfl⟩ := (mapError_eq_error_iff _ _ _).mp undecoded
    rfl
  · obtain ⟨cause, -, rfl⟩ := (mapError_eq_error_iff _ _ _).mp unread
    rfl

theorem inRange_of_readContent {parse : XmlParser} {content : ByteArray} {records : List Record}
    (read : readContent parse content = .ok records) : ∀ record ∈ records, record.InRange := by
  obtain ⟨text, -, read⟩ := (bind_eq_ok_iff _ _ _).mp read
  exact inRange_of_readDocument ((mapError_eq_ok_iff _ _ _).mp read)

/-- The analysis of a stored document, however it is parsed, ends with the code for success or for
a fault, unless the mean times in it do not fit the doubles. Then it breaks off with a fault that is
not reported. -/
theorem ending_of_stored (invocation : Invocation) (workspace : Workspace) {options : Options}
    {document : String} {content : ByteArray} {made : FileTree}
    (accepted : readOptions invocation.arguments = .ok options)
    (asked : nonempty? options.resultsFile = some document)
    (stored : workspace.files.read (.ofText document) = .ok content)
    (makes : workspace.files.makeDirectory (.ofText options.outputDirectory) = .ok made)
    (canLeave : (invocation.analysisOf options document).CanLeave made) :
    let ending := (invocation.run.run workspace).1
    let read := readContent invocation.host.parser content
    (∀ fault, read = .error fault → ending = .exit faultCode) ∧
      ∀ records, read = .ok records →
        ((invocation.analysisOf options document).Fits records → ending = .exit successCode) ∧
        (¬ (invocation.analysisOf options document).Fits records →
          ∃ fault : NumberFault, fault.IsOverflow ∧ ending = .brokenOff (.number fault)) := by
  intro ending read
  have performed := perform_eq asked stored makes canLeave
  have ends : ending = .ofResult (do
      let records ← read
      discard (((invocation.analysisOf options document).rendered records).mapError
        Fault.number)) := by
    rw [← performed]
    exact ending_run accepted workspace
  rw [ends]
  constructor
  · intro fault refused
    rw [refused]
    exact if_pos (isReported_of_readContent refused)
  · intro records given
    rw [given]
    exact Ending.ofResult_of_givenIf (Analysis.givenIf_rendered _ (inRange_of_readContent given))

end Invocation

/-! ### Stored documents -/

/-- A stored document is to be analysed, with a page. -/
def storedInvocation : Invocation where
  arguments := ["results.xml", "--html", "page.html"]
  workDirectory := "/src"
  moment := ⟨2024, 1, 2, 3, 4, 5⟩

def storedOptions : Options where
  resultsFile := some "results.xml"
  page := some "page.html"

/-- Nothing but a document is stored. -/
def storing (document : String) : FileTree :=
  FileTree.put {} ["results.xml"] (.file document.toUTF8)

theorem readOptions_storedInvocation :
    readOptions storedInvocation.arguments = .ok storedOptions := by rfl

theorem write_storing (document : String) :
    FileTree.write {} (.ofText "results.xml") document.toUTF8 = .ok (storing document) := by
  have located : FileTree.locate {} (.ofText "results.xml") = .ok (["results.xml"], none) := by
    decide +kernel
  refine (FileTree.guarded_eq_ok_iff _ _ _).mpr ⟨?_, ?_⟩
  · rw [String.contains_char_eq]
    decide
  · rw [located]
    rfl

theorem canLeave_storing (document : String) :
    (storedInvocation.analysisOf storedOptions "results.xml").CanLeave (storing document) := by
  have free : ∀ path ∈ [(storedInvocation.analysisOf storedOptions "results.xml").report,
      .ofText "page.html"], path.text.contains '\x00' = false ∧
        FileTree.locate {} path = .ok (path.steps, none) := by
    simp only [String.contains_char_eq]
    decide +kernel
  have accepts : ∀ path ∈ [(storedInvocation.analysisOf storedOptions "results.xml").report,
      .ofText "page.html"], (storing document).Accepts path := by
    intro path member
    obtain ⟨plain, located⟩ := free path member
    exact (FileTree.accepts_of_free plain located).behind_write (write_storing document)
  obtain ⟨report, page⟩ := List.forall_mem_cons.mp accepts
  refine ⟨report, fun path isPage => ?_⟩
  obtain rfl : path = .ofText "page.html" := (Option.mem_some_iff.mp isPage).symm
  exact ⟨_, FileTree.makeDirectory_here _, page _ List.mem_cons_self, report⟩

theorem readContent_toUTF8 {parse : XmlParser} {document : String} {records : List Record}
    (read : readDocumentWith parse document = .ok records) :
    readContent parse document.toUTF8 = .ok records := by
  rw [readContent, decodeUtf8_toUTF8]
  exact (mapError_eq_ok_iff _ _ _).mpr read

/-- A document of the first mode, with the lines that say what was measured. -/
def baselineDocument (fragment : List String) : String :=
  ([{ mode := { name := "baseline" }, fragment }].foldl DocumentWriter.add
    ({} : DocumentWriter)).render

/-- The runtime took 950 milliseconds. -/
def shortDocument : String := baselineDocument [Sample.line ⟨runtimePhase, 950, 600, 35⟩]

def shortRecord : Record where
  mode := { name := "baseline" }
  samples := [⟨runtimePhase, 950, 600, 35⟩]

theorem readDocument_shortDocument : readDocument shortDocument = .ok [shortRecord] := by
  refine readDocument_render_eq [({
    mode := { name := "baseline" }
    fragment := [Sample.line ⟨runtimePhase, 950, 600, 35⟩] }, [⟨runtimePhase, 950, 600, 35⟩])] ?_
  refine List.forall_mem_singleton.mpr ⟨List.all_eq_true.mp (by decide), prints_line [_], ?_, ?_,
    List.forall_mem_nil _⟩
  · exact List.forall_mem_singleton.mpr ⟨by decide, by decide, by decide, by decide⟩
  · exact Nat.pow_pos (by decide)

theorem ending_of_stored_shortDocument :
    readOptions storedInvocation.arguments = .ok storedOptions ∧
    nonempty? storedOptions.resultsFile = some "results.xml" ∧
    (storing shortDocument).read (.ofText "results.xml") = .ok shortDocument.toUTF8 ∧
    (storing shortDocument).makeDirectory (.ofText storedOptions.outputDirectory) =
      .ok (storing shortDocument) ∧
    (storedInvocation.analysisOf storedOptions "results.xml").CanLeave (storing shortDocument) ∧
    (storedInvocation.run.run { files := storing shortDocument }).1 = .exit successCode := by
  have asked : nonempty? storedOptions.resultsFile = some "results.xml" := by decide
  have stored := FileTree.read_of_write (write_storing shortDocument)
  have ends := Invocation.ending_of_stored storedInvocation { files := storing shortDocument }
    readOptions_storedInvocation asked stored (FileTree.makeDirectory_here _)
      (canLeave_storing shortDocument)
  have fits : (storedInvocation.analysisOf storedOptions "results.xml").Fits [shortRecord] := by
    decide +kernel
  exact ⟨readOptions_storedInvocation, asked, stored, FileTree.makeDirectory_here _,
    canLeave_storing shortDocument,
    (ends.2 _ (readContent_toUTF8 readDocument_shortDocument)).1 fits⟩

/-- The runtime took 1e307 milliseconds. -/
def longDocument : String := baselineDocument [
  "<Timing Phase=\"RUNTIME\">",
  "<TotalTimeMsec>1e307</TotalTimeMsec>",
  "<UserTimeMsec>0</UserTimeMsec>",
  "<SystemTimeMsec>0</SystemTimeMsec>",
  "</Timing>"]

def longRecord : Record where
  mode := { name := "baseline" }
  samples := [⟨runtimePhase, 8016673440035891 * 2 ^ 967, 0, 0⟩]

theorem readDocument_longDocument : readDocument longDocument = .ok [longRecord] := by
  rw [readDocument, readDocumentWith, XmlParser.plain, XmlNode.read?, longDocument,
    baselineDocument, toList_render]
  decide +kernel

/-- A document is read without complaint, and still its analysis breaks off: the time up to the host
is so far below zero that it has no share of the least baseline. -/
theorem brokenOff_of_longDocument :
    readDocument longDocument = .ok [longRecord] ∧
    (storing longDocument).read (.ofText "results.xml") = .ok longDocument.toUTF8 ∧
    (storedInvocation.analysisOf storedOptions "results.xml").CanLeave (storing longDocument) ∧
    (storedInvocation.run.run { files := storing longDocument }).1 =
      .brokenOff (.number .quotientTooLarge) := by
  have asked : nonempty? storedOptions.resultsFile = some "results.xml" := by decide
  have stored := FileTree.read_of_write (write_storing longDocument)
  have canLeave := canLeave_storing longDocument
  refine ⟨readDocument_longDocument, stored, canLeave, ?_⟩
  have rendered : (storedInvocation.analysisOf storedOptions "results.xml").rendered [longRecord] =
      .error .quotientTooLarge := by
    decide +kernel
  have read : readContent storedInvocation.host.parser longDocument.toUTF8 = .ok [longRecord] :=
    readContent_toUTF8 readDocument_longDocument
  have performed : ((storedInvocation.perform storedOptions).run.run
      { files := storing longDocument }).1 = .error (.number .quotientTooLarge) := by
    rw [Invocation.perform_eq asked stored (FileTree.makeDirectory_here _) canLeave, read]
    change discard (((storedInvocation.analysisOf storedOptions "results.xml").rendered
      [longRecord]).mapError Fault.number) = _
    rw [rendered]
    rfl
  rw [Invocation.ending_run readOptions_storedInvocation _, performed]
  rfl

end ColdStart
