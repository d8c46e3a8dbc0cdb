/-
This file shows that a document reads back as what was written. The lines of a
block spell one element, which is that of the block's record, and no other element
of a mode stands inside it; so the document has one record for every block, in
order. The fragment of a block is not checked when it is written: that its lines
print samples is asked of whoever gives them.
-/

import ColdStart.Proofs.Document.Printing

namespace ColdStart

/-! ### Lines -/

/-- The characters of lines, each with its line end. -/
def charactersOf (lines : List String) : List Char :=
  lines.flatMap fun line => line.toList ++ ['\n']

theorem charactersOf_append (front back : List String) :
    charactersOf (front ++ back) = charactersOf front ++ charactersOf back :=
  List.flatMap_append

theorem charactersOf_flatMap {Item : Type} (items : List Item) (written : Item → List String) :
    charactersOf (items.flatMap written) = items.flatMap fun item => charactersOf (written item) :=
  List.flatMap_assoc

theorem toList_joinLines (first : String) (rest : List String) :
    (joinLines (first :: rest) ++ "\n").toList = charactersOf (first :: rest) := by
  induction rest generalizing first with
  | nil => simp [joinLines, charactersOf, String.intercalate_singleton]
  | cons second others inductionHypothesis =>
    have later := inductionHypothesis second
    rw [joinLines] at later ⊢
    rw [String.intercalate_cons_cons, String.append_assoc, String.append_assoc,
      String.toList_append, String.toList_append, later]
    simp [charactersOf]

/-- The lines of a fragment are still its pieces with gaps between them when they are indented and
set apart. -/
theorem spaced_fragment {lines : List String} {samples : List Sample}
    (prints : Prints lines samples) :
    Spaced (samples.flatMap Sample.pieces) (charactersOf (lines.flatMap fragmentLines)) := by
  obtain ⟨groups, onLines, whole⟩ := prints
  rw [← whole, charactersOf_flatMap]
  clear whole
  -- A sample may go on from line to line, so the induction is on the lines.
  induction onLines with
  | nil => exact .done
  | @cons line group lines groups onLine _ inductionHypothesis =>
    have indented : Spaced group (charactersOf ["    " ++ line]) := by
      have gaps : Spaced [] "    ".toList := .of_gaps (by decide)
      have spaced := (gaps.append onLine).append .newline
      rw [List.nil_append, List.append_nil, ← String.toList_append] at spaced
      simpa [charactersOf] using spaced
    rw [List.flatten_cons, List.flatMap_cons]
    refine Spaced.append ?_ inductionHypothesis
    rw [fragmentLines]
    split
    · exact .gap '\n' (by decide) indented
    · exact indented

/-- A line that is an element without children between gaps. -/
theorem spells_line {indent line : String} {name written text : List Char}
    (isName : isXmlLocalName name) (gaps : Spaced [] indent.toList)
    (spells : Spells written text [])
    (shape : line.toList = indent.toList ++ (openingTag name ++ (written ++ closingTag name))) :
    ∃ node, IsElement node name [] text [] ∧ SpellsNodes (line.toList ++ ['\n']) [node] := by
  obtain ⟨node, isElement, spelled⟩ := spells_element (opens_plain name isName) spells
  refine ⟨node, isElement, ?_⟩
  have around := SpellsNodes.withGaps gaps ⟨[], spelled⟩ .newline
  rwa [shape, List.append_assoc]

/-! ### Modes -/

/-- An element that says the state of a toggle, with no element inside it. -/
structure IsToggle (mode : Mode) (toggle : Toggle) (node : XmlNode) : Prop where
  tag : node.tag = toggle.tag
  flag : SaysFlag node.text (mode.has toggle)
  children : node.children = []

theorem saysFlag_boolWord {text : Option String} {on : Bool}
    (isText : text.getD "" = boolWord on) : SaysFlag text on := by
  rw [SaysFlag, isText]
  cases on <;> decide

/-- The line for a toggle. -/
def toggleLine (mode : Mode) (toggle : Toggle) : String :=
  "  <" ++ toggle.tag ++ ">" ++ boolWord (mode.has toggle) ++ "</" ++ toggle.tag ++ ">"

theorem spells_toggle (mode : Mode) (toggle : Toggle) :
    ∃ node, IsToggle mode toggle node ∧
      SpellsNodes ((toggleLine mode toggle).toList ++ ['\n']) [node] := by
  have isName : isXmlLocalName toggle.tag.toList = true := by
    cases toggle <;> decide
  have gaps : Spaced [] "  ".toList := .of_gaps (by decide)
  have spells : Spells (boolWord (mode.has toggle)).toList
      (boolWord (mode.has toggle)).toList [] := by
    refine spells_plainText (List.all_iff_forall_prop.mp ?_)
    cases mode.has toggle <;> decide
  have shape : (toggleLine mode toggle).toList = "  ".toList ++
      (openingTag toggle.tag.toList ++
        ((boolWord (mode.has toggle)).toList ++ closingTag toggle.tag.toList)) := by
    simp [toggleLine, openingTag, closingTag]
  obtain ⟨node, isElement, spelled⟩ := spells_line isName gaps spells shape
  refine ⟨node, ⟨?_, saysFlag_boolWord ?_, isElement.children⟩, spelled⟩
  · rw [isElement.tag, String.ofList_toList]
  · rw [isElement.text, String.ofList_toList]

theorem toggle_tag_injective {first second : Toggle} (same : first.tag = second.tag) :
    first = second := by
  revert same
  cases first <;> cases second <;> decide

/-- Among the elements of toggles the first with a toggle's tag is that of the toggle. -/
theorem find?_toggle {mode : Mode} {toggles : List Toggle} {nodes : List XmlNode}
    (areToggles : List.Forall₂ (IsToggle mode) toggles nodes) {toggle : Toggle}
    (member : toggle ∈ toggles) (others : List XmlNode) :
    ∃ node, IsToggle mode toggle node ∧
      (nodes ++ others).find? (fun child => child.tag = toggle.tag) = some node := by
  induction areToggles with
  | nil => cases member
  | @cons first node toggles nodes isToggle _ inductionHypothesis =>
    by_cases same : first = toggle
    · subst same
      exact ⟨node, isToggle, by simp [isToggle.tag]⟩
    · have later : toggle ∈ toggles := (List.mem_cons.mp member).resolve_left (Ne.symm same)
      obtain ⟨found, isFound, finds⟩ := inductionHypothesis later
      refine ⟨found, isFound, ?_⟩
      have different : node.tag ≠ toggle.tag := fun equal =>
        same (toggle_tag_injective (isToggle.tag.symm.trans equal))
      rw [List.cons_append, List.find?_cons_of_neg (by simpa using different), finds]

/-! ### Failures -/

/-- An element that names the failures of a run, with no element of a mode inside it. -/
structure IsFailures (identifiers : List String) (node : XmlNode) : Prop where
  tag : node.tag = "R2RFails"
  texts : node.failureTexts = identifiers
  modeless : node.modeNodes = []

/-- What holds of the elements that are meant holds of all that were spelled. -/
theorem forall_mem_of_forall₂ {Item : Type} {meant : Item → XmlNode → Prop} {items : List Item}
    {nodes : List XmlNode} (areMeant : List.Forall₂ meant items nodes) {good : XmlNode → Prop}
    (each : ∀ item node, meant item node → good node) : ∀ node ∈ nodes, good node := by
  intro node member
  obtain ⟨item, -, isMeant⟩ := exists_of_forall₂_of_mem areMeant member
  exact each item node isMeant

/-- An element that names a failure, with no element of a mode inside it. -/
structure IsFailure (identifier : String) (node : XmlNode) : Prop where
  text : node.text.getD "" = identifier
  modeless : node.modeNodes = []

theorem spells_failureLine {identifier : String}
    (lasting : ∀ character ∈ identifier.toList, Lasts character) :
    ∃ node, IsFailure identifier node ∧
      SpellsNodes ((failureLine identifier).toList ++ ['\n']) [node] := by
  have gaps : Spaced [] "      ".toList := .of_gaps (by decide)
  have opening : "      <R2RResolutionFailed>".toList =
      "      ".toList ++ openingTag "R2RResolutionFailed".toList := by decide
  have closing : "</R2RResolutionFailed>".toList =
      closingTag "R2RResolutionFailed".toList := by decide
  have isName : isXmlLocalName "R2RResolutionFailed".toList = true := by decide
  have shape : (failureLine identifier).toList = "      ".toList ++
      (openingTag "R2RResolutionFailed".toList ++
        ((escapeContent identifier).toList ++ closingTag "R2RResolutionFailed".toList)) := by
    unfold failureLine
    rw [String.toList_append, String.toList_append, opening, closing]
    simp only [List.append_assoc]
  obtain ⟨node, isElement, spelled⟩ :=
    spells_line isName gaps (spells_escapeContent lasting) shape
  refine ⟨node, ⟨?_, ?_⟩, spelled⟩
  · rw [isElement.text, String.ofList_toList]
  · refine XmlNode.modeNodes_eq_nil (by rw [isElement.tag]; decide) ?_
    simp [isElement.children]

theorem spells_failures {identifiers : List String}
    (lasting : ∀ identifier ∈ identifiers, ∀ character ∈ identifier.toList, Lasts character) :
    ∃ node, IsFailures identifiers node ∧
      SpellsNodes (charactersOf (failureLines identifiers)) [node] := by
  obtain ⟨nodes, areFailures, spellsAll⟩ := spellsNodes_flatMap
    fun identifier member => spells_failureLine (lasting identifier member)
  have indent : Spaced [] "    ".toList := .of_gaps (by decide)
  have apart : Spaced [] "\n    ".toList := .of_gaps (by decide)
  obtain ⟨node, text, isElement, spelled⟩ :=
    (SpellsNodes.withGaps .newline spellsAll indent).element
      (opens_plain "R2RFails".toList (by decide))
  refine ⟨node, ⟨?_, ?_, ?_⟩, ?_⟩
  · rw [isElement.tag, String.ofList_toList]
  · have texts : List.Forall₂ (· = ·) identifiers (nodes.map fun child => child.text.getD "") :=
      List.forall₂_map_right_iff.mpr (areFailures.imp fun _ _ isFailure => isFailure.text.symm)
    rw [List.forall₂_eq_eq_eq] at texts
    rw [XmlNode.failureTexts, isElement.children, ← texts]
  · refine XmlNode.modeNodes_eq_nil (by rw [isElement.tag]; decide) ?_
    rw [isElement.children]
    exact forall_mem_of_forall₂ areFailures fun _ _ isFailure => isFailure.modeless
  · have opening : charactersOf ["", "    <R2RFails>"] =
        "\n    ".toList ++ (openingTag "R2RFails".toList ++ ['\n']) := by decide
    have closing : charactersOf ["    </R2RFails>"] =
        "    ".toList ++ (closingTag "R2RFails".toList ++ ['\n']) := by decide
    have around := SpellsNodes.withGaps apart spelled .newline
    rw [failureLines, charactersOf_append, charactersOf_append, opening, closing, charactersOf,
      List.flatMap_map]
    simpa only [List.append_assoc] using around

/-! ### Opening tags -/

theorem opens_mode {name : String}
    (allowed : ∀ character ∈ name.toList, isXmlChar character = true) :
    Opens ("<BuildAndRun Name=" ++ quoteAttribute name ++ ">").toList "BuildAndRun".toList
      [⟨"Name".toList, name.toList⟩] := by
  have opens := opens_quoted "BuildAndRun".toList "Name".toList (by decide) (by decide)
    (by decide) allowed
  simpa using opens

/-- Nothing stands for a character of a numeral in an attribute value. -/
theorem attributeEscape?_numeral {character : Char}
    (numeral : character.isDigit ∨ character = '-') :
    attributeEscape? false character = none ∧ character ≠ '"' := by
  constructor
  · cases escaped : attributeEscape? false character with
    | none => rfl
    | some replacement =>
      rw [attributeEscape?.eq_def] at escaped
      split at escaped
      iterate 4 exact absurd numeral (by decide)
      rw [contentEscape?.eq_def] at escaped
      split at escaped
      iterate 3 exact absurd numeral (by decide)
      cases escaped
  · rintro rfl
    exact absurd numeral (by decide)

theorem opens_results (dropped : Int) :
    Opens ("<Results Dropped=\"" ++ integerText dropped ++ "\">").toList "Results".toList
      [⟨"Dropped".toList, (integerText dropped).toList⟩] := by
  have quoted : quoteAttribute (integerText dropped) = "\"" ++ integerText dropped ++ "\"" :=
    quoteAttribute_plain fun character member => attributeEscape?_numeral (mem_integerText member)
  have allowed : ∀ character ∈ (integerText dropped).toList, isXmlChar character = true :=
    fun character member => (plain_of_numeral (mem_integerText member)).1.1
  have opens := opens_quoted "Results".toList "Dropped".toList (by decide) (by decide)
    (by decide) allowed
  rw [quoted] at opens
  simpa using opens

/-! ### Blocks -/

/-- What a block must be given for its document to read back: a name that a document may hold, a
fragment whose lines print the samples, a dropped count that is not too long to be read, and
failures that are read as they stand. -/
structure BlockContent.IsFaithful (content : BlockContent) (samples : List Sample) : Prop where
  name : ∀ character ∈ content.mode.name.toList, isXmlChar character = true
  fragment : Prints content.fragment samples
  isExact : ∀ sample ∈ samples, sample.IsExact
  dropped : content.dropped.natAbs < 10 ^ integerDigitLimit
  failures : ∀ run ∈ content.failureRuns, ∀ identifier ∈ run, ∀ character ∈ identifier.toList,
    Lasts character

/-- The record of a block whose fragment prints some samples. -/
def BlockContent.record (content : BlockContent) (samples : List Sample) : Record := {
  mode := content.mode
  samples
  failures := .ofList content.failureRuns.flatten
  dropped := content.dropped }

/-- An element of results that holds what a record says beside its mode, with no element of a mode
inside it. -/
structure IsResultsOf (record : Record) (node : XmlNode) : Prop where
  tag : node.tag = "Results"
  isResults : node.IsResults record
  modeless : node.modeNodes = []

/-- Samples and lists of failures in an element make it one of results. -/
theorem isResults_of_children {content : BlockContent} {samples : List Sample} {node : XmlNode}
    (short : content.dropped.natAbs < 10 ^ integerDigitLimit)
    (given : node.attribute? "Dropped" = some (integerText content.dropped))
    {timings failures : List XmlNode} (areTimings : List.Forall₂ IsTiming samples timings)
    (areFailures : List.Forall₂ IsFailures content.failureRuns failures)
    (children : node.children = timings ++ failures) :
    node.IsResults (content.record samples) := by
  have tagTiming : ∀ child ∈ timings, child.tag = "Timing" :=
    forall_mem_of_forall₂ areTimings fun _ _ isTiming => isTiming.tag
  have tagFailures : ∀ child ∈ failures, child.tag = "R2RFails" :=
    forall_mem_of_forall₂ areFailures fun _ _ isFailures => isFailures.tag
  refine ⟨.inr ⟨_, given, readInteger?_integerText _ short⟩, ?_, ?_⟩
  · have onlyTimings : node.timings = timings := by
      rw [XmlNode.timings, children, List.filter_append, List.filter_eq_self.mpr,
        List.filter_eq_nil_iff.mpr, List.append_nil]
      · exact fun child member => by simp [tagFailures child member]
      · exact fun child member => by simp [tagTiming child member]
    rw [onlyTimings]
    exact (areTimings.imp fun _ _ isTiming => isTiming.isSample).flip
  · intro failure
    rw [BlockContent.record, FailureSet.mem_ofList, List.mem_flatten, XmlNode.ReportsFailure,
      children]
    constructor
    · rintro ⟨run, isRun, inRun⟩
      obtain ⟨block, isBlock, names⟩ := exists_of_forall₂_of_mem
        (List.Forall₂.flip (R := fun block run => IsFailures run block) areFailures) isRun
      rw [← names.texts, XmlNode.failureTexts, List.mem_map] at inRun
      exact ⟨block, List.mem_append_right _ isBlock, names.tag, inRun⟩
    · rintro ⟨block, isChild, tag, named⟩
      rcases List.mem_append.mp isChild with isTiming | isBlock
      · rw [tagTiming block isTiming] at tag
        exact absurd tag (by decide)
      · obtain ⟨run, isRun, names⟩ := exists_of_forall₂_of_mem areFailures isBlock
        refine ⟨run, isRun, ?_⟩
        rw [← names.texts, XmlNode.failureTexts, List.mem_map]
        exact named

/-- The lines of the results of a block, with their tags. -/
def resultsLines (content : BlockContent) : List String :=
  ["  <Results Dropped=\"" ++ integerText content.dropped ++ "\">"] ++
    (content.fragment.flatMap fragmentLines ++ content.failureRuns.flatMap failureLines) ++
    ["  </Results>"]

theorem spells_results {content : BlockContent} {samples : List Sample}
    (faithful : content.IsFaithful samples) :
    ∃ node, IsResultsOf (content.record samples) node ∧
      SpellsNodes (charactersOf (resultsLines content)) [node] := by
  obtain ⟨timings, areTimings, spellsTimings⟩ :=
    spells_samples faithful.isExact (spaced_fragment faithful.fragment)
  obtain ⟨failures, areFailures, spellsFailures⟩ := spellsNodes_flatMap
    fun run member => spells_failures (faithful.failures run member)
  have indent : Spaced [] "  ".toList := .of_gaps (by decide)
  obtain ⟨node, text, isElement, spelled⟩ :=
    (SpellsNodes.withGaps .newline (spellsTimings.append spellsFailures) indent).element
      (opens_results content.dropped)
  have given : node.attribute? "Dropped" = some (integerText content.dropped) := by
    rw [XmlNode.attribute?, isElement.attributes]
    simp [XmlAttribute.plain]
  refine ⟨node, ⟨?_, ?_, ?_⟩, ?_⟩
  · rw [isElement.tag, String.ofList_toList]
  · exact isResults_of_children faithful.dropped given areTimings areFailures isElement.children
  · refine XmlNode.modeNodes_eq_nil (by rw [isElement.tag]; decide) ?_
    rw [isElement.children, List.forall_mem_append]
    exact ⟨forall_mem_of_forall₂ areTimings fun _ _ isTiming => isTiming.modeless,
      forall_mem_of_forall₂ areFailures fun _ _ isFailures => isFailures.modeless⟩
  · have around := SpellsNodes.withGaps indent spelled .newline
    have opening : ("  <Results Dropped=\"" ++ integerText content.dropped ++ "\">").toList =
        "  ".toList ++ ("<Results Dropped=\"" ++ integerText content.dropped ++ "\">").toList := by
      simp
    have closing : charactersOf ["  </Results>"] =
        "  ".toList ++ (closingTag "Results".toList ++ ['\n']) := by decide
    unfold resultsLines
    rw [charactersOf_append, charactersOf_append, charactersOf_append, closing,
      charactersOf_flatMap content.failureRuns]
    rw [charactersOf, List.flatMap_singleton, opening]
    simpa only [List.append_assoc] using around

/-- The first of the elements of toggles and results with the tag of results is the latter. -/
theorem child?_results {mode : Mode} {node results : XmlNode} {toggles : List XmlNode}
    (areToggles : List.Forall₂ (IsToggle mode) Toggle.all toggles) (tag : results.tag = "Results")
    (children : node.children = toggles ++ [results]) : node.child? "Results" = some results := by
  rw [XmlNode.child?, children, List.find?_append, List.find?_eq_none.mpr, Option.none_or,
    List.find?_cons_of_pos (by simp [tag])]
  intro child member
  obtain ⟨toggle, -, isToggle⟩ := exists_of_forall₂_of_mem areToggles member
  have other : toggle.tag ≠ "Results" := by
    cases toggle <;> decide
  simp [isToggle.tag, other]

theorem IsToggle.modeless {mode : Mode} {toggle : Toggle} {node : XmlNode}
    (isToggle : IsToggle mode toggle node) : node.modeNodes = [] := by
  have other : toggle.tag ≠ "BuildAndRun" := by
    cases toggle <;> decide
  refine XmlNode.modeNodes_eq_nil (by rwa [isToggle.tag]) ?_
  simp [isToggle.children]

/-- An element of a record with no other element of a mode inside it. -/
structure IsBlock (record : Record) (node : XmlNode) : Prop where
  isRecord : node.IsRecord record
  modes : node.modeNodes = [node]

/-- A block is the opening tag of its mode, the toggles, the results and the closing tag. -/
theorem charactersOf_lines (content : BlockContent) :
    charactersOf content.lines =
      ['\n'] ++ (("<BuildAndRun Name=" ++ quoteAttribute content.mode.name ++ ">").toList ++
        (['\n'] ++ ((Toggle.all.flatMap fun toggle =>
          (toggleLine content.mode toggle).toList ++ ['\n']) ++
            (['\n'] ++ charactersOf (resultsLines content))) ++
          closingTag "BuildAndRun".toList) ++ ['\n']) := by
  have opening : modeLines content.mode =
      ["<BuildAndRun Name=" ++ quoteAttribute content.mode.name ++ ">"] ++
        Toggle.all.map (toggleLine content.mode) := rfl
  have closing : charactersOf ["</BuildAndRun>"] =
      closingTag "BuildAndRun".toList ++ ['\n'] := by decide
  have blank : charactersOf [""] = ['\n'] := by decide
  have whole : content.lines = [""] ++ (modeLines content.mode ++ ([""] ++
      (resultsLines content ++ ["</BuildAndRun>"]))) := by
    unfold BlockContent.lines resultsLines
    simp only [List.append_assoc, List.cons_append, List.nil_append]
  have toggles : charactersOf (Toggle.all.map (toggleLine content.mode)) =
      Toggle.all.flatMap fun toggle => (toggleLine content.mode toggle).toList ++ ['\n'] :=
    List.flatMap_map _ _ _
  rw [whole, charactersOf_append, charactersOf_append, charactersOf_append, charactersOf_append,
    opening, charactersOf_append, toggles, closing, blank]
  rw [charactersOf, List.flatMap_singleton]
  simp only [List.append_assoc]

theorem spells_block {content : BlockContent} {samples : List Sample}
    (faithful : content.IsFaithful samples) :
    ∃ node, IsBlock (content.record samples) node ∧
      SpellsNodes (charactersOf content.lines) [node] := by
  obtain ⟨toggles, areToggles, spellsToggles⟩ := spellsNodes_flatMap
    fun toggle (_ : toggle ∈ Toggle.all) => spells_toggle content.mode toggle
  obtain ⟨results, isResults, spellsResults⟩ := spells_results faithful
  have inside := SpellsNodes.withGaps .newline
    (spellsToggles.append (SpellsNodes.withGaps .newline spellsResults .done)) .done
  obtain ⟨node, text, isElement, spelled⟩ := inside.element (opens_mode faithful.name)
  have children : node.children = toggles ++ [results] := isElement.children
  have tag : node.tag = "BuildAndRun" := by rw [isElement.tag, String.ofList_toList]
  refine ⟨node, ⟨⟨⟨?_, fun toggle => ?_⟩, results, ?_, isResults.isResults⟩, ?_⟩, ?_⟩
  · rw [XmlNode.attribute?, isElement.attributes]
    simp [XmlAttribute.plain, BlockContent.record]
  · obtain ⟨child, isToggle, finds⟩ :=
      find?_toggle areToggles (XmlNode.mem_toggleAll toggle) [results]
    exact ⟨child, by rw [XmlNode.child?, children, finds], isToggle.flag⟩
  · exact child?_results areToggles isResults.tag children
  · have inside : ∀ child ∈ node.children, child.modeNodes = [] := by
      rw [children, List.forall_mem_append, List.forall_mem_singleton]
      exact ⟨forall_mem_of_forall₂ areToggles fun _ _ isToggle => isToggle.modeless,
        isResults.modeless⟩
    rw [XmlNode.modeNodes_eq, if_pos tag, List.flatMap_eq_nil_iff.mpr inside, List.append_nil]
  · have around := SpellsNodes.withGaps .newline spelled .newline
    rw [charactersOf_lines]
    simpa only [List.append_assoc, List.append_nil] using around

/-! ### Documents -/

theorem blocks_foldl_add (contents : List BlockContent) (writer : DocumentWriter) :
    (contents.foldl DocumentWriter.add writer).blocks =
      writer.blocks ++ contents.map BlockContent.lines := by
  induction contents generalizing writer with
  | nil => simp
  | cons content rest inductionHypothesis =>
    rw [List.foldl_cons, inductionHypothesis, DocumentWriter.add]
    simp

/-- The characters of a document are those of its blocks between the tags of the root. -/
theorem toList_render (contents : List BlockContent) :
    (contents.foldl DocumentWriter.add {}).render.toList =
      documentOf "Xml".toList (['\n'] ++ (contents.flatMap fun content =>
        charactersOf content.lines)) := by
  have opening : charactersOf ["<Xml>"] = openingTag "Xml".toList ++ ['\n'] := by decide
  have closing : charactersOf ["</Xml>"] = closingTag "Xml".toList ++ ['\n'] := by decide
  rw [DocumentWriter.render, blocks_foldl_add, List.nil_append, ← List.flatMap_def,
    List.append_assoc, List.singleton_append, toList_joinLines, ← List.singleton_append,
    charactersOf_append, charactersOf_append, opening, closing, charactersOf_flatMap, documentOf]
  simp only [List.append_assoc]

/-- The records of a document are those of its blocks. -/
theorem readDocument_render_eq (entries : List (BlockContent × List Sample))
    (faithful : ∀ entry ∈ entries, entry.1.IsFaithful entry.2) :
    readDocument ((entries.map Prod.fst).foldl DocumentWriter.add {}).render =
      .ok (entries.map fun entry => entry.1.record entry.2) := by
  obtain ⟨nodes, areBlocks, spellsBlocks⟩ := spellsNodes_flatMap
    fun entry member => spells_block (faithful entry member)
  obtain ⟨text, inside⟩ := SpellsNodes.withGaps .newline spellsBlocks .done
  obtain ⟨root, isElement, found⟩ := read?_documentOf "Xml".toList (by decide) inside
  have written : ((entries.map Prod.fst).foldl DocumentWriter.add {}).render =
      String.ofList (documentOf "Xml".toList (['\n'] ++ ((entries.flatMap fun entry =>
        charactersOf entry.1.lines) ++ []))) := by
    rw [← String.toList_inj, String.toList_ofList, toList_render, List.flatMap_map,
      List.append_nil]
  -- The root is none of a mode, and each block is one with no other inside it.
  have modes : root.modeNodes = nodes := by
    have each : ∀ node ∈ nodes, node.modeNodes = [node] :=
      forall_mem_of_forall₂ areBlocks fun _ _ isBlock => isBlock.modes
    rw [XmlNode.modeNodes_eq, isElement.tag, isElement.children, if_neg (by decide),
      List.nil_append, List.flatMap_congr each, List.flatMap_singleton']
  rw [readDocument, readDocumentWith_eq_ok_iff, written]
  refine ⟨root, plain_eq_ok_of_read? found, ?_⟩
  rw [modes, List.forall₂_map_right_iff]
  exact (areBlocks.imp fun _ _ isBlock => isBlock.isRecord).flip

/-- A record says what a block was given. The failures are those of all runs. -/
structure Record.Recounts (record : Record) (content : BlockContent) (samples : List Sample) :
    Prop where
  mode : record.mode = content.mode
  samples : record.samples = samples
  dropped : record.dropped = content.dropped
  failures : ∀ failure, failure ∈ record.failures ↔ ∃ run ∈ content.failureRuns, failure ∈ run

theorem recounts_record (content : BlockContent) (samples : List Sample) :
    (content.record samples).Recounts content samples where
  mode := rfl
  samples := rfl
  dropped := rfl
  failures failure := by
    rw [BlockContent.record, FailureSet.mem_ofList, List.mem_flatten]

/-- A document reads back as what was written: it has one record for every block that was added, in
order, and each says what its block was given. -/
theorem readDocument_render (entries : List (BlockContent × List Sample))
    (faithful : ∀ entry ∈ entries, entry.1.IsFaithful entry.2) :
    ∃ records,
      readDocument ((entries.map Prod.fst).foldl DocumentWriter.add {}).render = .ok records ∧
        List.Forall₂ (fun entry record => record.Recounts entry.1 entry.2) entries records := by
  refine ⟨_, readDocument_render_eq entries faithful, ?_⟩
  rw [List.forall₂_map_right_iff, List.forall₂_same]
  exact fun entry _ => recounts_record entry.1 entry.2

/-- Two blocks. One has all that has to be hidden in its name, a sample on one line, and a failure
that was reported twice; the other has samples that are spread over lines. -/
def mixedEntries : List (BlockContent × List Sample) := [
  ({ mode := { name := "a \"b\" & 'c' <d>\t\r\n e", appAvx2 := true, readyToRun := true }
     fragment := [Sample.line ⟨"RUNTIME", 950, -600, 0⟩]
     dropped := 3
     failureRuns := [["First", "Second<T> & more"], [], ["First"]] },
    [⟨"RUNTIME", 950, -600, 0⟩]),
  ({ mode := { name := "one 'quote'", tieredCompilation := true }
     fragment := [⟨"APP", 1, 2, 3⟩, ⟨"APPHOST-INIT", 9007199254740992, 5, 6⟩].flatMap Sample.spread
     dropped := -1 },
    [⟨"APP", 1, 2, 3⟩, ⟨"APPHOST-INIT", 9007199254740992, 5, 6⟩])]

theorem readDocument_render_mixedEntries :
    (∀ entry ∈ mixedEntries, entry.1.IsFaithful entry.2) ∧
    ∃ records,
      readDocument ((mixedEntries.map Prod.fst).foldl DocumentWriter.add {}).render =
          .ok records ∧
        List.Forall₂ (fun entry record => record.Recounts entry.1 entry.2) mixedEntries
          records := by
  have short : ∀ dropped : Int, dropped.natAbs < 10 → dropped.natAbs < 10 ^ integerDigitLimit :=
    fun dropped small => small.trans_le (Nat.le_self_pow (by decide) 10)
  have lasting : ∀ run ∈ [["First", "Second<T> & more"], [], ["First"]], ∀ identifier ∈ run,
      (identifier.toList.all fun character => Lasts character) = true := by decide
  have faithful : ∀ entry ∈ mixedEntries, entry.1.IsFaithful entry.2 := by
    refine List.forall_mem_cons.mpr ⟨?_, List.forall_mem_singleton.mpr ?_⟩
    · refine ⟨List.all_eq_true.mp (by decide), prints_line [⟨"RUNTIME", 950, -600, 0⟩], ?_,
        short 3 (by decide), fun run isRun identifier isNamed =>
          List.all_iff_forall_prop.mp (lasting run isRun identifier isNamed)⟩
      refine List.forall_mem_singleton.mpr ?_
      exact ⟨by decide, by decide, by decide, by decide⟩
    · refine ⟨List.all_eq_true.mp (by decide), prints_spread _, ?_, short (-1) (by decide),
        by decide⟩
      refine List.forall_mem_cons.mpr ⟨?_, List.forall_mem_singleton.mpr ?_⟩
      · exact ⟨by decide, by decide, by decide, by decide⟩
      · exact ⟨by decide, by decide, by decide, by decide⟩
  exact ⟨faithful, readDocument_render mixedEntries faithful⟩

end ColdStart
