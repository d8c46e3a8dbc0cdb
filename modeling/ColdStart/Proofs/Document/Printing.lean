/-
This file says which lines print timing samples, and shows that such lines spell
exactly the elements of these samples. A sample is printed in pieces, its tags and
its numerals. Any number of pieces may stand on a line, so a sample may take one
line or be spread over many, and there may be gaps between any two pieces.
-/

import ColdStart.Document.Writer
import ColdStart.Proofs.Document.Acceptance
import ColdStart.Proofs.Xml.Spelling

namespace ColdStart

/-! ### Pieces with gaps between them -/

/-- Whether a character may stand between two pieces. -/
def isGap (character : Char) : Bool :=
  character = ' ' || character = '\t' || character = '\n'

/-- Characters that are pieces in order, with any gaps before, between and behind them. -/
inductive Spaced : List String → List Char → Prop where
  | done : Spaced [] []
  | gap {pieces : List String} {characters : List Char} (character : Char)
      (inGap : isGap character = true) (rest : Spaced pieces characters) :
      Spaced pieces (character :: characters)
  | piece {pieces : List String} {characters : List Char} (first : String)
      (rest : Spaced pieces characters) : Spaced (first :: pieces) (first.toList ++ characters)

namespace Spaced

theorem append {pieces others : List String} {front back : List Char}
    (first : Spaced pieces front) (second : Spaced others back) :
    Spaced (pieces ++ others) (front ++ back) := by
  induction first with
  | done => exact second
  | gap character inGap _ inductionHypothesis => exact .gap character inGap inductionHypothesis
  | piece first _ inductionHypothesis =>
    rw [List.cons_append, List.append_assoc]
    exact .piece first inductionHypothesis

theorem of_gaps {gaps : List Char} (inGap : gaps.all isGap = true) : Spaced [] gaps := by
  induction gaps with
  | nil => exact .done
  | cons character rest inductionHypothesis =>
    obtain ⟨here, later⟩ := Bool.and_eq_true_iff.mp inGap
    exact .gap character here (inductionHypothesis later)

theorem newline : Spaced [] ['\n'] := .of_gaps (by decide)

theorem gaps {characters : List Char} (spaced : Spaced [] characters) :
    ∀ character ∈ characters, isGap character = true := by
  generalize none : ([] : List String) = pieces at spaced
  induction spaced with
  | done => exact fun character member => by cases member
  | gap first inGap _ inductionHypothesis =>
    exact List.forall_mem_cons.mpr ⟨inGap, inductionHypothesis none⟩
  | piece => cases none

/-- Characters that are the pieces of two lists are those of the first followed by those of the
second. -/
theorem split {pieces others : List String} {characters : List Char}
    (spaced : Spaced (pieces ++ others) characters) :
    ∃ front back, characters = front ++ back ∧ Spaced pieces front ∧ Spaced others back := by
  generalize both : pieces ++ others = all at spaced
  induction spaced generalizing pieces with
  | done =>
    obtain ⟨rfl, rfl⟩ := List.append_eq_nil_iff.mp both
    exact ⟨[], [], rfl, .done, .done⟩
  | gap character inGap _ inductionHypothesis =>
    obtain ⟨front, back, rfl, first, second⟩ := inductionHypothesis both
    exact ⟨character :: front, back, rfl, .gap character inGap first, second⟩
  | @piece laterPieces later first rest inductionHypothesis =>
    cases pieces with
    | nil =>
      subst both
      exact ⟨[], _, rfl, .done, .piece first rest⟩
    | cons head tail =>
      obtain ⟨rfl, tails⟩ := List.cons.inj both
      obtain ⟨front, back, rfl, first, second⟩ := inductionHypothesis tails
      exact ⟨head.toList ++ front, back, by simp, .piece head first, second⟩

/-- Behind some gaps stands the first piece. -/
theorem peel {first : String} {pieces : List String} {characters : List Char}
    (spaced : Spaced (first :: pieces) characters) :
    ∃ gaps rest, characters = gaps ++ (first.toList ++ rest) ∧ Spaced [] gaps ∧
      Spaced pieces rest := by
  generalize both : first :: pieces = all at spaced
  induction spaced with
  | done => cases both
  | gap character inGap _ inductionHypothesis =>
    obtain ⟨gaps, rest, rfl, before, behind⟩ := inductionHypothesis both
    exact ⟨character :: gaps, rest, rfl, .gap character inGap before, behind⟩
  | piece head rest _ =>
    obtain ⟨rfl, rfl⟩ := List.cons.inj both
    exact ⟨[], _, rfl, .done, rest⟩

/-- Pieces between two others stand between them, with the gaps around them. -/
theorem between {opening closing : String} (pieces : List String) {characters : List Char}
    (spaced : Spaced (opening :: (pieces ++ [closing])) characters) :
    ∃ before content after, Spaced [] before ∧ Spaced pieces content ∧ Spaced [] after ∧
      characters = before ++ ((opening.toList ++ (content ++ closing.toList)) ++ after) := by
  obtain ⟨before, rest, rfl, gapBefore, later⟩ := spaced.peel
  obtain ⟨front, back, rfl, inside, last⟩ := later.split
  obtain ⟨gap, after, rfl, gapInside, gapAfter⟩ := last.peel
  refine ⟨before, front ++ gap, after, gapBefore, ?_, gapAfter, by simp⟩
  have joined := inside.append gapInside
  rwa [List.append_nil] at joined

/-- Gaps are blanks, and are text. -/
theorem spells {gaps : List Char} (spaced : Spaced [] gaps) : Spells gaps gaps [] := by
  refine spells_plainText fun character member => ?_
  have inGap := spaced.gaps character member
  simp only [isGap, Bool.or_eq_true, decide_eq_true_eq] at inGap
  rcases inGap with (rfl | rfl) | rfl <;> decide

theorem isBlank {gaps : List Char} (spaced : Spaced [] gaps) :
    ∀ character ∈ gaps, ColdStart.isBlank character = true := by
  intro character member
  have inGap := spaced.gaps character member
  simp only [isGap, Bool.or_eq_true, decide_eq_true_eq] at inGap
  rcases inGap with (rfl | rfl) | rfl <;> decide

end Spaced

/-- Children are spelled with any gaps around them. -/
theorem SpellsNodes.withGaps {before characters after : List Char} {nodes : List XmlNode}
    (gapBefore : Spaced [] before) (spells : SpellsNodes characters nodes)
    (gapAfter : Spaced [] after) : SpellsNodes (before ++ (characters ++ after)) nodes := by
  have around := SpellsNodes.append ⟨_, gapBefore.spells⟩ (spells.append ⟨_, gapAfter.spells⟩)
  rwa [List.nil_append, List.append_nil] at around

/-! ### Samples in pieces -/

/-- The pieces that a time is printed in. -/
def timePieces (tag : String) (time : Int) : List String :=
  ["<" ++ tag ++ ">", integerText time, "</" ++ tag ++ ">"]

/-- The pieces that a sample is printed in. -/
def Sample.pieces (sample : Sample) : List String :=
  ("<Timing Phase=\"" ++ sample.phase ++ "\">") ::
    (timePieces totalTag sample.total ++ timePieces userTag sample.user ++
      timePieces systemTag sample.system ++ ["</Timing>"])

/-- Lines print samples: their pieces in order, with any number of them on a line. -/
def Prints (lines : List String) (samples : List Sample) : Prop :=
  ∃ groups : List (List String),
    List.Forall₂ (fun line pieces => Spaced pieces line.toList) lines groups ∧
      groups.flatten = samples.flatMap Sample.pieces

theorem Spaced.of_join (pieces : List String) : Spaced pieces (String.join pieces).toList := by
  induction pieces with
  | nil => exact .done
  | cons first rest inductionHypothesis =>
    rw [String.join_cons, String.toList_append]
    exact .piece first inductionHypothesis

/-- Pieces in order, each line a row of them without gaps, are lines that print the samples. -/
theorem prints_of_groups (groups : List (List String)) {samples : List Sample}
    (whole : groups.flatten = samples.flatMap Sample.pieces) :
    Prints (groups.map String.join) samples := by
  refine ⟨groups, ?_, whole⟩
  rw [List.forall₂_map_left_iff, List.forall₂_same]
  exact fun group _ => Spaced.of_join group

/-- A sample on one line. -/
def Sample.line (sample : Sample) : String := String.join sample.pieces

/-- A sample spread over lines: the tags around it and each time on a line of its own. -/
def Sample.spread (sample : Sample) : List String :=
  ["<Timing Phase=\"" ++ sample.phase ++ "\">", String.join (timePieces totalTag sample.total),
    String.join (timePieces userTag sample.user),
    String.join (timePieces systemTag sample.system), "</Timing>"]

/-- Samples on one line each are printed. -/
theorem prints_line (samples : List Sample) : Prints (samples.map Sample.line) samples := by
  have prints := prints_of_groups (samples.map Sample.pieces) List.flatMap_def.symm
  rwa [List.map_map] at prints

/-- Samples that are spread over lines are printed. -/
theorem prints_spread (samples : List Sample) : Prints (samples.flatMap Sample.spread) samples := by
  let groups (sample : Sample) : List (List String) :=
    [["<Timing Phase=\"" ++ sample.phase ++ "\">"], timePieces totalTag sample.total,
      timePieces userTag sample.user, timePieces systemTag sample.system, ["</Timing>"]]
  have whole : (samples.flatMap groups).flatten = samples.flatMap Sample.pieces := by
    rw [List.flatten_eq_flatMap, List.flatMap_assoc]
    rfl
  have prints := prints_of_groups _ whole
  rw [List.map_flatMap] at prints
  have lines : (fun sample => (groups sample).map String.join) = Sample.spread := by
    funext sample
    simp [groups, Sample.spread, String.join_cons]
  rwa [lines] at prints

theorem prints_nil : Prints [] [] := ⟨[], .nil, rfl⟩

theorem Prints.append {lines others : List String} {samples more : List Sample}
    (first : Prints lines samples) (second : Prints others more) :
    Prints (lines ++ others) (samples ++ more) := by
  obtain ⟨groups, onLines, whole⟩ := first
  obtain ⟨groupsOthers, onOthers, wholeOthers⟩ := second
  refine ⟨groups ++ groupsOthers, List.rel_append onLines onOthers, ?_⟩
  rw [List.flatten_append, whole, wholeOthers, List.flatMap_append]

/-- Fragments one behind the other print the samples of all. -/
theorem prints_flatMap {Item : Type} {items : List Item} {lines : Item → List String}
    {samples : Item → List Sample} (each : ∀ item ∈ items, Prints (lines item) (samples item)) :
    Prints (items.flatMap lines) (items.flatMap samples) := by
  induction items with
  | nil => exact prints_nil
  | cons item rest inductionHypothesis =>
    exact (each item List.mem_cons_self).append
      (inductionHypothesis fun other member => each other (List.mem_cons_of_mem _ member))

/-- A sample of a known phase whose times are integers that a double holds. -/
structure Sample.IsExact (sample : Sample) : Prop where
  phase : sample.phase ∈ knownPhases
  total : sample.total.natAbs ≤ 2 ^ 53
  user : sample.user.natAbs ≤ 2 ^ 53
  system : sample.system.natAbs ≤ 2 ^ 53

/-! ### What the pieces of a sample spell -/

theorem isXmlLocalName_timeTag : ∀ tag ∈ XmlNode.timeTags, isXmlLocalName tag.toList = true := by
  decide

/-- The characters of a numeral stand for themselves in text. -/
theorem plain_of_numeral {character : Char} (numeral : character.isDigit ∨ character = '-') :
    Lasts character ∧ character ≠ '<' ∧ character ≠ '&' ∧ character ≠ '>' := by
  rcases numeral with digit | rfl
  · obtain ⟨low, high⟩ := Char.isDigit_iff_toNat.mp digit
    have above : 48 ≤ character.toNat := low
    have below : character.toNat ≤ 57 := high
    refine ⟨lasts_of_code (by omega) (by omega), ?_, ?_, ?_⟩
    all_goals rintro rfl; exact absurd digit (by decide)
  · decide

/-- A numeral with gaps around it says its time. -/
theorem saysTime_of_spaced {time : Int} (small : time.natAbs ≤ 2 ^ 53) {characters : List Char}
    (spaced : Spaced [integerText time] characters) {text : Option String}
    (isText : text.getD "" = String.ofList characters) : SaysTime text time := by
  obtain ⟨before, after, rfl, gapBefore, gapAfter⟩ := spaced.peel
  obtain ⟨double, read, truncated⟩ := readBinary64?_integerText time small
  have keeps : ∀ character ∈ (integerText time).toList, isBlank character = false :=
    fun character member => isBlank_of_numeral (mem_integerText member)
  have trimmed : trim (text.getD "").toList = (integerText time).toList := by
    rw [isText, String.toList_ofList, ← List.append_assoc, trim]
    exact trimWhere_append gapBefore.isBlank gapAfter.isBlank
      (fun first member => keeps first (List.mem_of_mem_head? member))
      (fun final member => keeps final (List.mem_of_mem_getLast? member))
  exact ⟨double, by rw [trimmed, read], truncated⟩

/-- An element that holds a time and nothing else. -/
structure IsTime (tag : String) (time : Int) (node : XmlNode) : Prop where
  tag : node.tag = tag
  time : SaysTime node.text time
  children : node.children = []

theorem IsTime.modeless {tag : String} {time : Int} {node : XmlNode} (isTime : IsTime tag time node)
    (other : tag ≠ "BuildAndRun") : node.modeNodes = [] := by
  refine XmlNode.modeNodes_eq_nil (by rwa [isTime.tag]) ?_
  simp [isTime.children]

theorem spells_timePieces {tag : String} (isTag : tag ∈ XmlNode.timeTags) {time : Int}
    (small : time.natAbs ≤ 2 ^ 53) {characters : List Char}
    (spaced : Spaced (timePieces tag time) characters) :
    ∃ node, IsTime tag time node ∧ SpellsNodes characters [node] := by
  obtain ⟨before, content, after, gapBefore, inside, gapAfter, rfl⟩ :=
    Spaced.between [integerText time] spaced
  obtain ⟨left, right, rfl, gapLeft, gapRight⟩ := inside.peel
  have numeral : Spells (integerText time).toList (integerText time).toList [] :=
    spells_plainText fun character member => plain_of_numeral (mem_integerText member)
  have spells := gapLeft.spells.append (numeral.append gapRight.spells)
  have opening : ("<" ++ tag ++ ">").toList = openingTag tag.toList := by simp [openingTag]
  have closing : ("</" ++ tag ++ ">").toList = closingTag tag.toList := by simp [closingTag]
  obtain ⟨node, isElement, spelled⟩ :=
    spells_element (opens_plain _ (isXmlLocalName_timeTag tag isTag)) spells
  refine ⟨node, ⟨?_, saysTime_of_spaced small inside isElement.text, isElement.children⟩, ?_⟩
  · rw [isElement.tag, String.ofList_toList]
  · rw [opening, closing]
    exact SpellsNodes.withGaps gapBefore ⟨[], spelled⟩ gapAfter

/-- The first of some elements with a tag. -/
theorem holds_of_isTime {node child : XmlNode} {tag : String} {time : Int}
    (isTime : IsTime tag time child) (before : List XmlNode) {after : List XmlNode}
    (children : node.children = before ++ child :: after)
    (others : ∀ other ∈ before, other.tag ≠ tag) : node.Holds tag SaysTime time := by
  refine ⟨child, ?_, isTime.time⟩
  rw [XmlNode.child?, children, List.find?_append, List.find?_eq_none.mpr, Option.none_or,
    List.find?_cons_of_pos (by simp [isTime.tag])]
  exact fun other member => by simp [others other member]

theorem opens_timing {phase : String} (known : phase ∈ knownPhases) :
    Opens ("<Timing Phase=\"" ++ phase ++ "\">").toList "Timing".toList
      [⟨"Phase".toList, phase.toList⟩] := by
  have quoted : quoteAttribute phase = "\"" ++ phase ++ "\"" := by
    revert phase
    decide
  have allowed : phase.toList.all isXmlChar = true := by
    revert phase
    decide
  have opens := opens_quoted "Timing".toList "Phase".toList (by decide) (by decide) (by decide)
    (List.all_eq_true.mp allowed)
  rw [quoted] at opens
  simpa using opens

/-- An element of a sample that has no element of a mode inside it. -/
structure IsTiming (sample : Sample) (node : XmlNode) : Prop where
  tag : node.tag = "Timing"
  isSample : node.IsSample knownPhases sample
  modeless : node.modeNodes = []

/-- The pieces of a sample spell one element, which is that of the sample. -/
theorem spells_pieces {sample : Sample} (isExact : sample.IsExact) {characters : List Char}
    (spaced : Spaced sample.pieces characters) :
    ∃ node, IsTiming sample node ∧ SpellsNodes characters [node] := by
  obtain ⟨before, content, after, gapBefore, inside, gapAfter, rfl⟩ := Spaced.between _ spaced
  obtain ⟨front, systemPart, rfl, inFront, inSystem⟩ := inside.split
  obtain ⟨totalPart, userPart, rfl, inTotal, inUser⟩ := inFront.split
  obtain ⟨total, isTotal, spellsTotal⟩ := spells_timePieces (by decide) isExact.total inTotal
  obtain ⟨user, isUser, spellsUser⟩ := spells_timePieces (by decide) isExact.user inUser
  obtain ⟨system, isSystem, spellsSystem⟩ :=
    spells_timePieces (by decide) isExact.system inSystem
  obtain ⟨text, spells⟩ := (spellsTotal.append spellsUser).append spellsSystem
  obtain ⟨node, isElement, spelled⟩ := spells_element (opens_timing isExact.phase) spells
  have children : node.children = [total, user, system] := isElement.children
  have phase : node.attribute? "Phase" = some sample.phase := by
    rw [XmlNode.attribute?, isElement.attributes]
    simp [XmlAttribute.plain]
  have tag : node.tag = "Timing" := by rw [isElement.tag, String.ofList_toList]
  refine ⟨node, ⟨tag, ⟨phase, isExact.phase, ?_, ?_, ?_⟩, ?_⟩, ?_⟩
  · exact holds_of_isTime isTotal [] children (by simp)
  · refine holds_of_isTime isUser [total] children ?_
    simp only [List.forall_mem_singleton, isTotal.tag]
    decide
  · refine holds_of_isTime isSystem [total, user] children ?_
    simp only [List.forall_mem_cons, isTotal.tag, isUser.tag]
    decide
  · refine XmlNode.modeNodes_eq_nil (by rw [tag]; decide) ?_
    simp [children, isTotal.modeless (by decide), isUser.modeless (by decide),
      isSystem.modeless (by decide)]
  · exact SpellsNodes.withGaps gapBefore ⟨[], spelled⟩ gapAfter

/-- The pieces of samples spell the elements of the samples, in order. -/
theorem spells_samples {samples : List Sample} (isExact : ∀ sample ∈ samples, sample.IsExact)
    {characters : List Char} (spaced : Spaced (samples.flatMap Sample.pieces) characters) :
    ∃ nodes, List.Forall₂ IsTiming samples nodes ∧ SpellsNodes characters nodes := by
  induction samples generalizing characters with
  | nil => exact ⟨[], .nil, _, spaced.spells⟩
  | cons sample rest inductionHypothesis =>
    obtain ⟨front, back, rfl, first, others⟩ := Spaced.split spaced
    obtain ⟨node, isTiming, spells⟩ := spells_pieces (isExact sample List.mem_cons_self) first
    obtain ⟨nodes, areTimings, spellsOthers⟩ := inductionHypothesis
      (fun other member => isExact other (List.mem_cons_of_mem _ member)) others
    exact ⟨node :: nodes, .cons isTiming areTimings, spells.append spellsOthers⟩

end ColdStart
