/-
This file is about documents that cannot be read. All of a document is read before anything
is made of it, and whatever is wrong with its content is reported. So nothing is shown and
nothing is left of such a document but the report of what is wrong with it, and the directory
that was made before it was opened.
-/

import ColdStart.Proofs.Invocation.Ending

namespace ColdStart

open Workspace

namespace FileTree.OnlyMakes

variable {before after : FileTree}

/-- The files are those of before, where directories were made. -/
theorem get?_eq_file_iff (makes : before.OnlyMakes after) (place : Place) (content : ByteArray) :
    after.get? place = some (.file content) ↔ before.get? place = some (.file content) := by
  constructor
  · intro there
    rcases makes place with same | ⟨-, made⟩
    · exact same ▸ there
    · rw [made] at there
      cases there
  · exact makes.keeps

end FileTree.OnlyMakes

namespace Analysis

/-- An analysis ends with the fault of its document before anything is done. -/
theorem run_of_readContent_error {analysis : Analysis} {workspace : Workspace} {content : ByteArray}
    {fault : Fault} (stored : workspace.files.read analysis.document = .ok content)
    (unreadable : readContent analysis.host.parser content = .error fault) :
    analysis.run.run.run workspace = (.error fault, workspace) := by
  rw [Analysis.run]
  refine run_bind_error ?_
  rw [run_loadDocument_eq _ stored, unreadable]

end Analysis

/-- What is wrong with a text is wrong with the file that holds it. -/
theorem readContent_of_refused {parse : XmlParser} {document : String} {fault : DocumentFault}
    (refused : readDocumentWith parse document = .error fault) :
    readContent parse document.toUTF8 = .error (.document fault) := by
  rw [readContent, decodeUtf8_toUTF8]
  exact (mapError_eq_error_iff _ _ _).mpr ⟨fault, refused, rfl⟩

namespace Invocation

variable {invocation : Invocation} {workspace : Workspace} {options : Options}

/-- A fault is reported on a line of the error stream behind what was done up to then. -/
theorem run_of_error (accepted : readOptions invocation.arguments = .ok options) {fault : Fault}
    {after : Workspace}
    (ended : (invocation.perform options).run.run workspace = (.error fault, after))
    (reported : fault.isReported = true) :
    invocation.run.run workspace =
      (.exit faultCode, { after with
        session.errors := after.session.errors ++ ("Error: " ++ fault.message) ++ "\n" }) := by
  rw [run_eq accepted, ended]
  simp only [reported, if_true]
  rw [printing, String.append_empty, ← String.append_assoc]

/-- Only the directory for what an analysis leaves is made when its document cannot be read. -/
theorem perform_of_unreadable {document : String} {content : ByteArray} {made : FileTree}
    {fault : Fault} (asked : nonempty? options.resultsFile = some document)
    (stored : workspace.files.read (.ofText document) = .ok content)
    (unreadable : readContent invocation.host.parser content = .error fault)
    (makes : workspace.files.makeDirectory (.ofText options.outputDirectory) = .ok made) :
    (invocation.perform options).run.run workspace =
      (.error fault, { workspace with files := made }) := by
  rw [perform, asked]
  change (makeDirectory (.ofText options.outputDirectory) >>= fun _ =>
    (invocation.analysisOf options document).run).run.run workspace = _
  rw [run_bind_ok (run_makeDirectory makes)]
  -- The document still reads as before, as nothing but directories was made.
  exact Analysis.run_of_readContent_error
    ((FileTree.onlyMakes_makeDirectory makes).read stored) unreadable

/-- An invocation that is to analyse an unreadable document reports what is wrong with it, on one
line of the error stream, with the reason of the parser if that refuses it. Nothing else is printed
or logged, nothing is launched, and no file is written: directories may have been made, but every
file is one of before, and as it was. -/
theorem run_of_unreadable (invocation : Invocation) (workspace : Workspace) {options : Options}
    {document : String} {content : ByteArray} {made : FileTree} {fault : Fault}
    (accepted : readOptions invocation.arguments = .ok options)
    (asked : nonempty? options.resultsFile = some document)
    (stored : workspace.files.read (.ofText document) = .ok content)
    (unreadable : readContent invocation.host.parser content = .error fault)
    (makes : workspace.files.makeDirectory (.ofText options.outputDirectory) = .ok made) :
    invocation.run.run workspace =
        (.exit faultCode, {
          files := made
          session := { workspace.session with
            errors := workspace.session.errors ++ ("Error: " ++ fault.message) ++ "\n" } }) ∧
      workspace.files.OnlyMakes made ∧
      ∀ place content, made.get? place = some (.file content) ↔
        workspace.files.get? place = some (.file content) := by
  have onlyMakes := FileTree.onlyMakes_makeDirectory makes
  exact ⟨run_of_error accepted (perform_of_unreadable asked stored unreadable makes)
    (isReported_of_readContent unreadable), onlyMakes, onlyMakes.get?_eq_file_iff⟩

end Invocation

/-! ### A document with an infinite time -/

/-- Of a stored document the failures are asked for, a page, another level, and a directory of its
own for what is left. -/
def unreadableInvocation : Invocation where
  arguments := ["results.xml", "--resolution-fails", "--html", "page.html", "--alpha", "0.01",
    "--output-dir", "out"]
  workDirectory := "/src"
  moment := ⟨2024, 1, 2, 3, 4, 5⟩

def unreadableOptions : Options where
  resultsFile := some "results.xml"
  resolutionFails := true
  page := some "page.html"
  level := .ofRatio false 1 100
  outputDirectory := "out"

/-- The runtime took more milliseconds than a double holds. -/
def infiniteDocument : String := baselineDocument [
  "<Timing Phase=\"RUNTIME\">",
  "<TotalTimeMsec>1e999</TotalTimeMsec>",
  "<UserTimeMsec>0</UserTimeMsec>",
  "<SystemTimeMsec>0</SystemTimeMsec>",
  "</Timing>"]

theorem readDocument_infiniteDocument :
    readDocument infiniteDocument = .error (.badTime "TotalTimeMsec" (some "1e999")) := by
  rw [readDocument, readDocumentWith, XmlParser.plain, XmlNode.read?, infiniteDocument,
    baselineDocument, toList_render]
  decide +kernel

/-- A document is stored beside the page of an earlier analysis. -/
def storingPageAnd (document : String) : FileTree :=
  (FileTree.put {} ["page.html"] (.file "<html>".toUTF8)).put ["results.xml"]
    (.file document.toUTF8)

theorem read_storingPageAnd (document : String) :
    (storingPageAnd document).read (.ofText "results.xml") = .ok document.toUTF8 := by
  refine (FileTree.read_eq_ok_iff _ _ _).mpr ⟨?_, ["results.xml"], ?_⟩
  · rw [String.contains_char_eq]
    decide
  · rfl

theorem makeDirectory_storingPageAnd (document : String) :
    (storingPageAnd document).makeDirectory (.ofText "out") =
      .ok ((storingPageAnd document).put ["out"] .directory) := by
  have plain : (Path.ofText "out").text.contains '\x00' = false := by
    rw [String.contains_char_eq]
    decide
  have added : FileTree.guarded (.ofText "out") ((storingPageAnd document).addDirectory
      (.ofText "out")) = .ok ((storingPageAnd document).put ["out"] .directory) :=
    (FileTree.guarded_eq_ok_iff _ _ _).mpr ⟨plain, rfl⟩
  have steps : (Path.ofText "out").steps.length = 0 + 1 := by decide +kernel
  have whole : { Path.ofText "out" with steps := (Path.ofText "out").steps.take (0 + 1) } =
      Path.ofText "out" := by decide +kernel
  rw [FileTree.makeDirectory, steps, FileTree.addDirectories, whole, added]

/-- The directory is made, and the report of the time is all that is printed: the page of before is
as it was. -/
theorem run_of_unreadable_infiniteDocument :
    readOptions unreadableInvocation.arguments = .ok unreadableOptions ∧
    nonempty? unreadableOptions.resultsFile = some "results.xml" ∧
    (storingPageAnd infiniteDocument).read (.ofText "results.xml") = .ok infiniteDocument.toUTF8 ∧
    (storingPageAnd infiniteDocument).makeDirectory (.ofText "out") =
      .ok ((storingPageAnd infiniteDocument).put ["out"] .directory) ∧
    unreadableInvocation.run.run { files := storingPageAnd infiniteDocument } =
      (.exit faultCode, {
        files := (storingPageAnd infiniteDocument).put ["out"] .directory
        session := {
          errors := "Error: <TotalTimeMsec> must be numeric, got '1e999'\n" } }) := by
  have accepted : readOptions unreadableInvocation.arguments = .ok unreadableOptions := by rfl
  have asked : nonempty? unreadableOptions.resultsFile = some "results.xml" := by decide
  have stored := read_storingPageAnd infiniteDocument
  have makes := makeDirectory_storingPageAnd infiniteDocument
  have line : "" ++ ("Error: " ++ (Fault.document
      (.badTime "TotalTimeMsec" (some "1e999"))).message) ++ "\n" =
      "Error: <TotalTimeMsec> must be numeric, got '1e999'\n" := by decide +kernel
  have ends := (Invocation.run_of_unreadable unreadableInvocation
    { files := storingPageAnd infiniteDocument } accepted asked stored
    (readContent_of_refused readDocument_infiniteDocument) makes).1
  refine ⟨accepted, asked, stored, makes, ?_⟩
  rw [ends, ← line]

end ColdStart
