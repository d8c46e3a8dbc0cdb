/-
This file reads a page back. A reader goes through the page character by character,
tells tags from text and collects the cells of each row of its tables; nothing else
about the page matters to it. Stretches of a page that begin and end in text can be read
one behind the other. What was escaped has no tags for the reader, and every reference in
it is resolved to the character that it hides.
-/

import ColdStart.Proofs.Text.Cutting
import ColdStart.Proofs.Xml.Escaping

namespace ColdStart

/-- Where characters are collected one by one, a text of them is collected. -/
theorem foldl_collect {State : Type} (step : State → Char → State) (reached : List Char → State)
    {characters : List Char}
    (collects : ∀ earlier, ∀ character ∈ characters,
      step (reached earlier) character = reached (earlier ++ [character]))
    (earlier : List Char) :
    characters.foldl step (reached earlier) = reached (earlier ++ characters) := by
  induction characters generalizing earlier with
  | nil => rw [List.foldl_nil, List.append_nil]
  | cons character rest inductionHypothesis =>
    have later := inductionHypothesis
      (fun earlier other member => collects earlier other (List.mem_cons_of_mem _ member))
      (earlier ++ [character])
    rw [List.foldl_cons, collects earlier character List.mem_cons_self, later, List.append_assoc,
      List.singleton_append]

/-! ### Reading a page -/

/-- Where a reader is: in text, in a tag or in a cell, with what it has read of these. -/
inductive PagePlace where
  | text
  | tag (read : List Char)
  | cell (read : List Char)

/-- What has been read of a page: the rows of its tables, the last one first, and the place. -/
structure PageReading where
  rows : List (List String)
  place : PagePlace

/-- The rows with one more cell in the last one. -/
def addCell (cell : String) : List (List String) → List (List String)
  | [] => []
  | row :: earlier => (row ++ [cell]) :: earlier

namespace PageReading

/-- What a tag that has been read leads to: a new row, a cell or text. -/
def enter (rows : List (List String)) (tag : List Char) : PageReading :=
  let element := tag.takeWhile (· ≠ ' ')
  if element = ['t', 'r'] then ⟨[] :: rows, .text⟩
  else if element = ['t', 'd'] then ⟨rows, .cell []⟩
  else ⟨rows, .text⟩

/-- Reads one more character. A cell ends with the next tag. -/
def step (reading : PageReading) (character : Char) : PageReading :=
  match reading.place with
  | .text => if character = '<' then ⟨reading.rows, .tag []⟩ else reading
  | .tag read =>
    if character = '>' then enter reading.rows read
    else ⟨reading.rows, .tag (read ++ [character])⟩
  | .cell read =>
    if character = '<' then ⟨addCell (String.ofList read) reading.rows, .tag []⟩
    else ⟨reading.rows, .cell (read ++ [character])⟩

/-- Reads on. -/
def read (reading : PageReading) (text : String) : PageReading := text.toList.foldl step reading

end PageReading

/-- The rows of the tables of a page, each with the texts of its cells. -/
def tableRows (page : String) : List (List String) :=
  (PageReading.read ⟨[], .text⟩ page).rows.reverse

namespace PageReading

variable {text : String}

theorem read_append (reading : PageReading) (front back : String) :
    reading.read (front ++ back) = (reading.read front).read back := by
  rw [read, String.toList_append, List.foldl_append]
  rfl

/-- Text has no effect. -/
theorem read_text (plain : '<' ∉ text.toList) (rows : List (List String)) :
    read ⟨rows, .text⟩ text = ⟨rows, .text⟩ :=
  foldl_collect step (fun _ => ⟨rows, .text⟩)
    (fun _ character member => if_neg fun same : character = '<' => plain (same ▸ member)) []

theorem read_tag (unended : '>' ∉ text.toList) (rows : List (List String)) (earlier : List Char) :
    read ⟨rows, .tag earlier⟩ text = ⟨rows, .tag (earlier ++ text.toList)⟩ :=
  foldl_collect step (fun read => ⟨rows, .tag read⟩)
    (fun _ character member => if_neg fun same : character = '>' => unended (same ▸ member)) earlier

theorem read_cell (plain : '<' ∉ text.toList) (rows : List (List String)) (earlier : List Char) :
    read ⟨rows, .cell earlier⟩ text = ⟨rows, .cell (earlier ++ text.toList)⟩ :=
  foldl_collect step (fun read => ⟨rows, .cell read⟩)
    (fun _ character member => if_neg fun same : character = '<' => plain (same ▸ member)) earlier

/-- A tag that ends with an attribute is entered, whatever the attribute is. -/
theorem read_attribute {opening value : String} {tag : List Char} {rows : List (List String)}
    (opens : read ⟨rows, .text⟩ opening = ⟨rows, .tag tag⟩) (unended : '>' ∉ value.toList) :
    read ⟨rows, .text⟩ (opening ++ value ++ "\">") =
      enter rows (tag ++ value.toList ++ ['"']) := by
  rw [read_append, read_append, opens, read_tag unended]
  rfl

end PageReading

/-! ### Stretches of a page -/

/-- A stretch of a page that is read from text to text and changes the rows. -/
def Reads (stretch : String) (change : List (List String) → List (List String)) : Prop :=
  ∀ rows, PageReading.read ⟨rows, .text⟩ stretch = ⟨change rows, .text⟩

namespace Reads

theorem append {front back : String} {first second : List (List String) → List (List String)}
    (readsFront : Reads front first) (readsBack : Reads back second) :
    Reads (front ++ back) (second ∘ first) := by
  intro rows
  rw [PageReading.read_append, readsFront, readsBack]
  rfl

theorem text {stretch : String} (plain : '<' ∉ stretch.toList) : Reads stretch id :=
  PageReading.read_text plain

/-- Joined lines are read one after the other. -/
theorem joinLines {lines : List String} {changes : List (List (List String) → List (List String))}
    (each : List.Forall₂ Reads lines changes) :
    Reads (ColdStart.joinLines lines) fun rows =>
      changes.foldl (fun reached change => change reached) rows := by
  induction each with
  | nil => exact fun rows => rfl
  | @cons line change rest changes here later inductionHypothesis =>
    cases later with
    | nil =>
      rw [ColdStart.joinLines, String.intercalate_singleton]
      exact here
    | @cons second otherChange others otherChanges _ _ =>
      rw [ColdStart.joinLines, String.intercalate_cons_cons]
      exact (here.append (text (by decide))).append inductionHypothesis

theorem join {parts : List String} (each : ∀ part ∈ parts, Reads part id) :
    Reads (String.join parts) id := by
  induction parts with
  | nil => exact fun _ => rfl
  | cons part rest inductionHypothesis =>
    obtain ⟨here, later⟩ := List.forall_mem_cons.mp each
    rw [String.join_cons]
    exact here.append (inductionHypothesis later)

/-- A cell holds any text without tags. -/
theorem cell {opening content : String}
    (opens : ∀ rows, PageReading.read ⟨rows, .text⟩ opening = ⟨rows, .cell []⟩)
    (plain : '<' ∉ content.toList) : Reads (opening ++ content ++ "</td>") (addCell content) := by
  intro rows
  rw [PageReading.read_append, PageReading.read_append, opens, PageReading.read_cell plain,
    List.nil_append]
  have closed : PageReading.read ⟨rows, .cell content.toList⟩ "</td>" =
      ⟨addCell (String.ofList content.toList) rows, .text⟩ := rfl
  rw [closed, String.ofList_toList]

end Reads

/-! ### Resolving references -/

/-- What stands behind an ampersand: a reference up to a semicolon, and text. -/
def resolvePiece (piece : List Char) : List Char :=
  match resolveReference? (piece.takeWhile (· ≠ ';')) with
  | some character => character :: (piece.dropWhile (· ≠ ';')).tail
  | none => '&' :: piece

/-- The characters of a page with every reference resolved. -/
def resolveAll (characters : List Char) : List Char :=
  match characters.splitOn '&' with
  | [] => []
  | front :: pieces => front ++ pieces.flatMap resolvePiece

/-- The text that a page shows. -/
def unescapePage (text : String) : String := String.ofList (resolveAll text.toList)

/-- Up to the first ampersand nothing is resolved. -/
theorem resolveAll_append {front : List Char} (plain : '&' ∉ front) (rest : List Char) :
    resolveAll (front ++ rest) = front ++ resolveAll rest := by
  rw [resolveAll, resolveAll, splitOn_append_of_notMem plain]
  cases pieces : rest.splitOn '&' with
  | nil => exact absurd pieces (List.splitOn_ne_nil _ _)
  | cons first others => simp

theorem resolvePiece_reference {inner : List Char} {character : Char} (unended : ';' ∉ inner)
    (resolves : resolveReference? inner = some character) (rest : List Char) :
    resolvePiece (inner ++ ';' :: rest) = character :: rest := by
  have kept : ∀ written ∈ inner, decide (written ≠ ';') = true := by
    intro written member
    exact decide_eq_true fun same => unended (same ▸ member)
  rw [resolvePiece, List.takeWhile_append_of_pos kept, List.dropWhile_append_of_pos kept]
  simp [resolves]

/-- A reference is resolved whatever follows it. -/
theorem resolveAll_reference {inner : List Char} {character : Char} (single : '&' ∉ inner)
    (unended : ';' ∉ inner) (resolves : resolveReference? inner = some character)
    (rest : List Char) :
    resolveAll ('&' :: inner ++ ';' :: rest) = character :: resolveAll rest := by
  have front : '&' ∉ inner ++ [';'] := by simpa using single
  have split : ('&' :: inner ++ ';' :: rest).splitOn '&' =
      [] :: (rest.splitOn '&').modifyHead (inner ++ [';'] ++ ·) := by
    rw [List.cons_append, List.splitOn_cons_eq_if_modifyHead, if_pos (by decide),
      List.append_cons, splitOn_append_of_notMem front]
  rw [resolveAll, resolveAll, split]
  cases pieces : rest.splitOn '&' with
  | nil => exact absurd pieces (List.splitOn_ne_nil _ _)
  | cons first others =>
    have resolved := resolvePiece_reference unended resolves first
    simp only [List.modifyHead_cons, ← List.append_cons, List.nil_append, List.flatMap_cons,
      resolved, List.cons_append]

/-! ### Escaped text -/

/-- The characters that markup is made of, apart from that of references. -/
def markupMarks : List Char := ['<', '>', '"', '\'']

/-- What stands for a character of a page is a reference to it. -/
theorem exists_reference_of_pageEscape {character : Char} {replacement : String}
    (escaped : pageEscape? character = some replacement) :
    ∃ inner, replacement.toList = '&' :: inner ++ [';'] ∧ '&' ∉ inner ∧ ';' ∉ inner ∧
      markupMarks.all (!inner.contains ·) ∧ resolveReference? inner = some character := by
  rw [pageEscape?.eq_def] at escaped
  split at escaped
  · cases escaped
    exact ⟨"quot".toList, by decide⟩
  · cases escaped
    exact ⟨"#x27".toList, by decide⟩
  · rw [contentEscape?.eq_def] at escaped
    split at escaped
    · cases escaped
      exact ⟨"amp".toList, by decide⟩
    · cases escaped
      exact ⟨"lt".toList, by decide⟩
    · cases escaped
      exact ⟨"gt".toList, by decide⟩
    · cases escaped

/-- A character that nothing stands for on a page is none that markup is made of. -/
theorem notMem_of_pageEscape {character : Char} (unescaped : pageEscape? character = none) :
    character ∉ '&' :: markupMarks := by
  have escaped : ∀ mark ∈ '&' :: markupMarks, pageEscape? mark ≠ none :=
    List.all_iff_forall_prop.mp (by decide)
  exact fun isMark => escaped character isMark unescaped

/-- What is written on a page for a character makes no tags and ends no value. -/
theorem notMem_writtenAs_pageEscape {mark : Char} (isMark : mark ∈ markupMarks)
    (character : Char) : mark ∉ writtenAs pageEscape? character := by
  rw [writtenAs]
  cases escaped : pageEscape? character with
  | none =>
    rw [Option.map_none, Option.getD_none, List.mem_singleton]
    rintro rfl
    exact notMem_of_pageEscape escaped (List.mem_cons_of_mem _ isMark)
  | some replacement =>
    obtain ⟨inner, written, -, -, plain, -⟩ := exists_reference_of_pageEscape escaped
    have different : ∀ mark ∈ markupMarks, mark ≠ '&' ∧ mark ≠ ';' :=
      List.all_iff_forall_prop.mp (by decide)
    have absent := List.all_eq_true.mp plain mark isMark
    rw [Option.map_some, Option.getD_some, written]
    simpa [different mark isMark] using absent

theorem notMem_escapePage {mark : Char} (isMark : mark ∈ markupMarks) (text : String) :
    mark ∉ (escapePage text).toList := by
  rw [escapePage, toList_escapeWith]
  intro member
  obtain ⟨character, -, inside⟩ := List.mem_flatMap.mp member
  exact notMem_writtenAs_pageEscape isMark character inside

/-- A page shows what was escaped. -/
theorem unescapePage_escapePage (text : String) : unescapePage (escapePage text) = text := by
  have characters : ∀ characters : List Char,
      resolveAll (characters.flatMap (writtenAs pageEscape?)) = characters := by
    intro characters
    induction characters with
    | nil => rfl
    | cons character rest inductionHypothesis =>
      rw [List.flatMap_cons, writtenAs]
      cases escaped : pageEscape? character with
      | none =>
        have plain : '&' ∉ [character] := by
          rw [List.mem_singleton]
          rintro rfl
          exact notMem_of_pageEscape escaped List.mem_cons_self
        rw [Option.map_none, Option.getD_none, resolveAll_append plain, inductionHypothesis,
          List.singleton_append]
      | some replacement =>
        obtain ⟨inner, written, single, unended, -, resolves⟩ :=
          exists_reference_of_pageEscape escaped
        rw [Option.map_some, Option.getD_some, written, List.append_assoc, List.singleton_append,
          resolveAll_reference single unended resolves, inductionHypothesis]
  rw [unescapePage, escapePage, toList_escapeWith, characters, String.ofList_toList]

example : (tableRows "<table><tr><td id=\"a\">x &lt; y</td><td>2ms</td></tr><tr></tr></table>").map
    (·.map unescapePage) = [["x < y", "2ms"], []] := by
  decide +kernel

end ColdStart
