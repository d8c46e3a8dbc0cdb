/-
This file reads results documents. Every element of a mode counts, wherever it
stands in the document, outer ones before those inside them. What is missing or
not of its type is refused at the first such place in reading order: the name,
the toggles, the results, the dropped count, and then the results one by one.
-/

import ColdStart.Document.Record
import ColdStart.Number.Quantity
import ColdStart.Number.Reading
import ColdStart.Xml.Reader

namespace ColdStart

/-! ### Values -/

/-- A toggle's state from its text: a word in any case, with blanks around it. No letter beyond
ASCII has a letter of either word as its small form. -/
def readFlag (text : Option String) (tag : String) : Except DocumentFault Bool :=
  let word := String.ofList ((trim (text.getD "").toList).map Char.toLower)
  if word = "true" then .ok true
  else if word = "false" then .ok false
  else .error (.badFlag tag text)

/-- Milliseconds from their text: a decimal numeral, its fraction dropped. -/
def readTime (text : Option String) (tag : String) : Except DocumentFault Int :=
  match (readBinary64? (trim (text.getD "").toList)).map Binary64.toWhole with
  | some (.ok whole) => .ok whole
  | _ => .error (.badTime tag text)

/-- The first child with a tag, which the owner must have. -/
def XmlNode.required (node : XmlNode) (tag owner : String) : Except DocumentFault XmlNode :=
  match node.child? tag with
  | some child => .ok child
  | none => .error (.missingElement owner tag)

/-- What the text of the first child with a tag says. -/
def XmlNode.readChild {Value : Type} (node : XmlNode) (owner tag : String)
    (read : Option String → String → Except DocumentFault Value) : Except DocumentFault Value := do
  let child ← node.required tag owner
  read child.text tag

/-! ### Modes and samples -/

/-- How a mode's element is called when something is missing in it. -/
def modeOwner (name : String) : String := "<BuildAndRun Name=\"" ++ name ++ "\">"

/-- One toggle of a mode's element. -/
def XmlNode.readToggle (node : XmlNode) (name : String) (toggle : Toggle) :
    Except DocumentFault (Toggle × Bool) := do
  return (toggle, ← node.readChild (modeOwner name) toggle.tag readFlag)

/-- The mode of an element. -/
def XmlNode.readMode (node : XmlNode) : Except DocumentFault Mode := do
  match node.attribute? "Name" with
  | none => throw .missingName
  | some name =>
    let flags ← Toggle.all.mapM (node.readToggle name)
    return Mode.ofToggles name fun toggle => (flags.lookup toggle).getD false

/-- How a sample's element is called when something is missing in it. -/
def sampleOwner (phase : String) : String := "<Timing Phase=\"" ++ phase ++ "\">"

/-- The tag of the time that passed in all. -/
def totalTag : String := "TotalTimeMsec"

/-- The tag of the time spent on the program. -/
def userTag : String := "UserTimeMsec"

/-- The tag of the time spent on the program's behalf. -/
def systemTag : String := "SystemTimeMsec"

/-- The sample of an element, given the phases that may occur. -/
def XmlNode.readSample (node : XmlNode) (phases : List String) : Except DocumentFault Sample := do
  match node.attribute? "Phase" with
  | none => throw .missingPhase
  | some phase =>
    if !phases.contains phase then throw (.unknownPhase phase)
    else
      let total ← node.readChild (sampleOwner phase) totalTag readTime
      let user ← node.readChild (sampleOwner phase) userTag readTime
      let system ← node.readChild (sampleOwner phase) systemTag readTime
      return { phase, total, user, system }

/-! ### Records -/

/-- The texts of all children of an element of failures. -/
def XmlNode.failureTexts (node : XmlNode) : List String :=
  node.children.map fun child => child.text.getD ""

/-- The record with what one child of the results adds to it. -/
def Record.addResult (record : Record) (child : XmlNode) : Except DocumentFault Record := do
  if child.tag = "Timing" then
    return { record with samples := record.samples ++ [← child.readSample knownPhases] }
  else if child.tag = "R2RFails" then
    return { record with failures := record.failures.insertAll child.failureTexts }
  else return record

/-- The dropped count of the results; none is zero. -/
def XmlNode.readDropped (results : XmlNode) : Except DocumentFault Int :=
  let text := (results.attribute? "Dropped").getD "0"
  match readInteger? text.toList with
  | some dropped => .ok dropped
  | none => .error (.badDropped text)

/-- The record of a mode's element. -/
def XmlNode.readRecord (node : XmlNode) : Except DocumentFault Record := do
  let mode ← node.readMode
  let results ← node.required "Results" (modeOwner mode.name)
  let dropped ← results.readDropped
  results.children.foldlM Record.addResult { mode, dropped }

/-- The elements of modes in a document, in order. -/
def XmlNode.modeNodes (root : XmlNode) : List XmlNode :=
  root.preorder.filter fun node => node.tag = "BuildAndRun"

/-- The records of a document, in order, as a given parser reads it. -/
def readDocumentWith (parse : XmlParser) (text : String) : Except DocumentFault (List Record) :=
  match parse text with
  | .error reason => .error (.notWellFormed reason)
  | .ok root => root.modeNodes.mapM XmlNode.readRecord

/-- The records of a document, in order. -/
def readDocument (text : String) : Except DocumentFault (List Record) :=
  readDocumentWith .plain text

end ColdStart
