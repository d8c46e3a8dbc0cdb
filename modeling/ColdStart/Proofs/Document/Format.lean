/-
This file says what a results document is, and what is wrong with one that is
refused, without reading it. A document holds one record for every element of a
mode, wherever it stands; a record is described field by field. A refusal is the
first fault in reading order: that of the first bad element, and in it the name,
the toggles in order, the results, the dropped count and the samples in order.
-/

import ColdStart.Document.Reader
import ColdStart.Proofs.Traversal

namespace ColdStart

/-! ### What a text says -/

/-- A text says whether a toggle is on: it is the word for it, in letters of any case and with
any blanks around it. -/
def SaysFlag (text : Option String) (on : Bool) : Prop :=
  (trim (text.getD "").toList).map Char.toLower = (if on then "true" else "false").toList

/-- A text says a time: it is a numeral of a finite double, of which this is the whole part. -/
def SaysTime (text : Option String) (time : Int) : Prop :=
  ∃ double, readBinary64? (trim (text.getD "").toList) = some double ∧
    double.truncate? = some time

namespace XmlNode

/-! ### Places in a document -/

/-- An element is another, or stands inside it at any depth. -/
inductive Within (inner : XmlNode) : XmlNode → Prop where
  | self : Within inner inner
  | deeper {child outer : XmlNode} (isChild : child ∈ outer.children)
      (inside : Within inner child) : Within inner outer

/-- The first child with a tag has a text that says a value. -/
def Holds {Value : Type} (node : XmlNode) (tag : String)
    (meaning : Option String → Value → Prop) (value : Value) : Prop :=
  ∃ child, node.child? tag = some child ∧ meaning child.text value

/-- What is wrong when an element does not hold a value: it has no child with the tag, or the
text of the first one says nothing. -/
inductive ChildFault {Value : Type} (node : XmlNode) (owner tag : String)
    (meaning : Option String → Value → Prop) (senseless : Option String → DocumentFault) :
    DocumentFault → Prop where
  | missing (absent : node.child? tag = none) :
      ChildFault node owner tag meaning senseless (.missingElement owner tag)
  | silent (child : XmlNode) (found : node.child? tag = some child)
      (nothing : ∀ value, ¬ meaning child.text value) :
      ChildFault node owner tag meaning senseless (senseless child.text)

/-! ### Samples -/

/-- The tags of the times of a sample, in the order in which they are read. -/
def timeTags : List String := [totalTag, userTag, systemTag]

/-- An element is that of a sample. -/
structure IsSample (phases : List String) (node : XmlNode) (sample : Sample) : Prop where
  phase : node.attribute? "Phase" = some sample.phase
  known : sample.phase ∈ phases
  total : node.Holds totalTag SaysTime sample.total
  user : node.Holds userTag SaysTime sample.user
  system : node.Holds systemTag SaysTime sample.system

/-- What is wrong with an element that is no sample's. -/
inductive SampleFault (phases : List String) (node : XmlNode) : DocumentFault → Prop where
  | noPhase (absent : node.attribute? "Phase" = none) : SampleFault phases node .missingPhase
  | strangePhase (phase : String) (given : node.attribute? "Phase" = some phase)
      (unknown : phase ∉ phases) : SampleFault phases node (.unknownPhase phase)
  | time (phase : String) (fault : DocumentFault)
      (given : node.attribute? "Phase" = some phase) (known : phase ∈ phases)
      (first : FirstFault (fun tag => ∃ time, node.Holds tag SaysTime time)
        (fun tag => node.ChildFault (sampleOwner phase) tag SaysTime (.badTime tag))
        timeTags fault) : SampleFault phases node fault

/-! ### Modes -/

/-- An element names a mode and says how its toggles stand. -/
structure IsMode (node : XmlNode) (mode : Mode) : Prop where
  name : node.attribute? "Name" = some mode.name
  flags : ∀ toggle : Toggle, node.Holds toggle.tag SaysFlag (mode.has toggle)

/-- What is wrong with an element that says no mode. -/
inductive ModeFault (node : XmlNode) : DocumentFault → Prop where
  | noName (absent : node.attribute? "Name" = none) : ModeFault node .missingName
  | flag (name : String) (fault : DocumentFault) (given : node.attribute? "Name" = some name)
      (first : FirstFault (fun toggle => ∃ on, node.Holds toggle.tag SaysFlag on)
        (fun toggle => node.ChildFault (modeOwner name) toggle.tag SaysFlag
          (.badFlag toggle.tag))
        Toggle.all fault) : ModeFault node fault

/-! ### Results -/

/-- The results say how many runs were dropped; when they do not, none was. -/
def SaysDropped (results : XmlNode) (dropped : Int) : Prop :=
  results.attribute? "Dropped" = none ∧ dropped = 0 ∨
    ∃ text, results.attribute? "Dropped" = some text ∧ readInteger? text.toList = some dropped

/-- The children of the results that are samples. -/
def timings (results : XmlNode) : List XmlNode :=
  results.children.filter fun child => child.tag = "Timing"

/-- A failure is the text of some child of some list of failures among the results. -/
def ReportsFailure (results : XmlNode) (failure : String) : Prop :=
  ∃ block ∈ results.children, block.tag = "R2RFails" ∧
    ∃ entry ∈ block.children, entry.text.getD "" = failure

/-- The results hold what a record says beside its mode: the samples in order, and the failures
as a set. -/
structure IsResults (results : XmlNode) (record : Record) : Prop where
  dropped : results.SaysDropped record.dropped
  samples : List.Forall₂ (IsSample knownPhases) results.timings record.samples
  failures : ∀ failure, failure ∈ record.failures ↔ results.ReportsFailure failure

/-- What is wrong with results that hold nothing. -/
inductive ResultsFault (results : XmlNode) : DocumentFault → Prop where
  | dropped (text : String) (given : results.attribute? "Dropped" = some text)
      (noInteger : readInteger? text.toList = none) : ResultsFault results (.badDropped text)
  | sample (dropped : Int) (fault : DocumentFault) (counted : results.SaysDropped dropped)
      (first : FirstFault (fun child => ∃ sample, child.IsSample knownPhases sample)
        (fun child => child.SampleFault knownPhases) results.timings fault) :
      ResultsFault results fault

/-! ### Records and documents -/

/-- An element is that of a record. -/
structure IsRecord (node : XmlNode) (record : Record) : Prop where
  mode : node.IsMode record.mode
  results : ∃ results, node.child? "Results" = some results ∧ results.IsResults record

/-- What is wrong with an element that is no record's. -/
inductive RecordFault (node : XmlNode) : DocumentFault → Prop where
  | mode (fault : DocumentFault) (first : node.ModeFault fault) : RecordFault node fault
  | noResults (mode : Mode) (isMode : node.IsMode mode)
      (absent : node.child? "Results" = none) :
      RecordFault node (.missingElement (modeOwner mode.name) "Results")
  | results (mode : Mode) (results : XmlNode) (fault : DocumentFault) (isMode : node.IsMode mode)
      (found : node.child? "Results" = some results) (first : results.ResultsFault fault) :
      RecordFault node fault

end XmlNode

/-- What is wrong with a text that is no results document: it is not well formed, for the reason
that the parser gives, or the first element of a mode that is no record's has a fault. -/
inductive DocumentRefused (parse : XmlParser) (text : String) : DocumentFault → Prop where
  | notWellFormed (reason : String) (unreadable : parse text = .error reason) :
      DocumentRefused parse text (.notWellFormed reason)
  | record (root : XmlNode) (fault : DocumentFault) (wellFormed : parse text = .ok root)
      (first : FirstFault (fun node => ∃ record, node.IsRecord record) XmlNode.RecordFault
        root.modeNodes fault) : DocumentRefused parse text fault

end ColdStart
