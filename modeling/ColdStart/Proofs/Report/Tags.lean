/-
This file scans a page for its markup. A scanner goes through the page character by
character and tells the characters of its text from its tags. Unlike a reader of cells,
who takes what stands up to the next bracket for a tag, it knows attributes, with values
in quotes of either kind or without any. What it finds is put in order: the tags one
behind the other, and the cells of each row of the tables, with their attributes and their
text. A stretch of a page that begins and ends in text adds the same wherever it stands,
and a text without quotes is the whole value of the attribute it is put into.
-/

import ColdStart.Proofs.Report.Markup

namespace ColdStart

/-! ### Scanning -/

/-- The attributes of a tag and their values, as they are written. -/
abbrev Attributes := List (String × String)

/-- A tag. If it closes an element, its name begins with a slash. -/
structure Tag where
  name : String
  attributes : Attributes := []
  deriving DecidableEq, Repr

/-- The tag with one more attribute. -/
def Tag.add (tag : Tag) (key value : List Char) : Tag :=
  { tag with attributes := tag.attributes ++ [(String.ofList key, String.ofList value)] }

/-- What a page is made of. -/
inductive Token where
  | character (character : Char)
  | tag (tag : Tag)

/-- Where a scanner is: in text or in a tag, with what it has read of that. -/
inductive ScanPlace where
  | text
  | name (read : List Char)
  | inside (tag : Tag)
  | attributeName (tag : Tag) (read : List Char)
  | equals (tag : Tag) (key : List Char)
  | quoted (quote : Char) (tag : Tag) (key read : List Char)
  | bare (tag : Tag) (key read : List Char)

/-- What stands between the attributes of a tag. -/
def isTagBlank (character : Char) : Bool := [' ', '\n', '\t'].contains character

/-- Scans one more character, which may complete a token. -/
def ScanPlace.step (place : ScanPlace) (character : Char) : Option Token × ScanPlace :=
  match place with
  | .text =>
    if character = '<' then (none, .name []) else (some (.character character), .text)
  | .name read =>
    if character = '>' then (some (.tag ⟨String.ofList read, []⟩), .text)
    else if isTagBlank character then (none, .inside ⟨String.ofList read, []⟩)
    else (none, .name (read ++ [character]))
  | .inside tag =>
    if character = '>' then (some (.tag tag), .text)
    else if isTagBlank character then (none, .inside tag)
    else (none, .attributeName tag [character])
  | .attributeName tag read =>
    if character = '>' then (some (.tag (tag.add read [])), .text)
    else if isTagBlank character then (none, .inside (tag.add read []))
    else if character = '=' then (none, .equals tag read)
    else (none, .attributeName tag (read ++ [character]))
  | .equals tag key =>
    if character = '>' then (some (.tag (tag.add key [])), .text)
    else if isTagBlank character then (none, .equals tag key)
    else if character = '"' || character = '\'' then (none, .quoted character tag key [])
    else (none, .bare tag key [character])
  | .quoted quote tag key read =>
    if character = quote then (none, .inside (tag.add key read))
    else (none, .quoted quote tag key (read ++ [character]))
  | .bare tag key read =>
    if character = '>' then (some (.tag (tag.add key read)), .text)
    else if isTagBlank character then (none, .inside (tag.add key read))
    else (none, .bare tag key (read ++ [character]))

/-! ### What is found -/

/-- A cell of a table, with the attributes of its tag. -/
structure Cell where
  attributes : Attributes
  text : String
  deriving DecidableEq, Repr

/-- The rows with one more cell in the last one, which is the first of the list. -/
def Cell.addTo (cell : Cell) : List (List Cell) → List (List Cell)
  | [] => []
  | row :: earlier => (row ++ [cell]) :: earlier

/-- What has been found on a page, the last tag and the last row first, and the place. -/
structure PageScan where
  tags : List Tag := []
  rows : List (List Cell) := []
  /-- The cell that was begun, with what was read of its text. -/
  cell? : Option (Attributes × List Char) := none
  place : ScanPlace := .text

namespace PageScan

/-- Puts a token where it belongs. A cell ends with the next tag. -/
def take (scan : PageScan) : Token → PageScan
  | .character character =>
    { scan with cell? := scan.cell?.map fun cell => (cell.1, cell.2 ++ [character]) }
  | .tag tag =>
    let rows :=
      match scan.cell? with
      | some (attributes, read) => Cell.addTo ⟨attributes, String.ofList read⟩ scan.rows
      | none => scan.rows
    { scan with
      tags := tag :: scan.tags
      rows := if tag.name = "tr" then [] :: rows else rows
      cell? := if tag.name = "td" then some (tag.attributes, []) else none }

/-- Scans one more character. -/
def step (scan : PageScan) (character : Char) : PageScan :=
  match scan.place.step character with
  | (some token, place) => { scan.take token with place }
  | (none, place) => { scan with place }

/-- Scans on. -/
def scan (before : PageScan) (text : String) : PageScan := text.toList.foldl step before

theorem scan_append (before : PageScan) (front back : String) :
    before.scan (front ++ back) = (before.scan front).scan back := by
  rw [scan, String.toList_append, List.foldl_append]
  rfl

variable {text : String} (tags : List Tag) (rows : List (List Cell))

/-- Text outside of cells is left out. -/
theorem scan_text (plain : '<' ∉ text.toList) :
    scan ⟨tags, rows, none, .text⟩ text = ⟨tags, rows, none, .text⟩ := by
  refine foldl_collect step (fun _ => ⟨tags, rows, none, .text⟩) (fun _ character member => ?_) []
  have other : character ≠ '<' := fun same => plain (same ▸ member)
  rw [step, ScanPlace.step, if_neg other]
  rfl

/-- Text in a cell is that of the cell. -/
theorem scan_cell (plain : '<' ∉ text.toList) (attributes : Attributes) (earlier : List Char) :
    scan ⟨tags, rows, some (attributes, earlier), .text⟩ text =
      ⟨tags, rows, some (attributes, earlier ++ text.toList), .text⟩ := by
  refine foldl_collect step (fun read => ⟨tags, rows, some (attributes, read), .text⟩)
    (fun _ character member => ?_) earlier
  have other : character ≠ '<' := fun same => plain (same ▸ member)
  rw [step, ScanPlace.step, if_neg other]
  rfl

/-- Text in quotes is that of a value. -/
theorem scan_quoted {quote : Char} (unended : quote ∉ text.toList)
    (cell? : Option (Attributes × List Char)) (tag : Tag) (key earlier : List Char) :
    scan ⟨tags, rows, cell?, .quoted quote tag key earlier⟩ text =
      ⟨tags, rows, cell?, .quoted quote tag key (earlier ++ text.toList)⟩ := by
  refine foldl_collect step (fun read => ⟨tags, rows, cell?, .quoted quote tag key read⟩)
    (fun _ character member => ?_) earlier
  have other : character ≠ quote := fun same => unended (same ▸ member)
  rw [step, ScanPlace.step, if_neg other]

/-- A tag that ends with a value is scanned whole, whatever the value is. -/
theorem scan_value {before : PageScan} {opening value key earlier : String}
    {cell? : Option (Attributes × List Char)} {tag : Tag}
    (opens : before.scan opening =
      ⟨tags, rows, cell?, .quoted '"' tag key.toList earlier.toList⟩)
    (unended : '"' ∉ value.toList) :
    before.scan (opening ++ value ++ "\">") = take ⟨tags, rows, cell?, .text⟩
      (.tag { tag with attributes := tag.attributes ++ [(key, earlier ++ value)] }) := by
  have added : tag.add key.toList (earlier.toList ++ value.toList) =
      { tag with attributes := tag.attributes ++ [(key, earlier ++ value)] } := by
    rw [Tag.add, ← String.toList_append, String.ofList_toList, String.ofList_toList]
  rw [scan_append, scan_append, opens, scan_quoted _ _ unended, ← added]
  rfl

end PageScan

/-- The tags of a page. -/
def pageTags (page : String) : List Tag := (PageScan.scan {} page).tags.reverse

/-- The rows of the tables of a page, each with its cells. -/
def pageCells (page : String) : List (List Cell) := (PageScan.scan {} page).rows.reverse

/-! ### Stretches of a page -/

/-- What a stretch of a page adds to the tags, and how it changes the rows. -/
structure Passage where
  tags : List Tag := []
  change : List (List Cell) → List (List Cell) := id

namespace Passage

/-- Tags that change no rows. -/
def ofTags (tags : List Tag) : Passage := { tags }

/-- One passage after the other. -/
def append (first second : Passage) : Passage where
  tags := first.tags ++ second.tags
  change rows := second.change (first.change rows)

/-- All passages, one after the other. -/
def all (passages : List Passage) : Passage := passages.foldr append {}

/-- A cell with its tags. -/
def cell (cell : Cell) : Passage :=
  ⟨[⟨"td", cell.attributes⟩, ⟨"/td", []⟩], cell.addTo⟩

@[simp]
theorem append_nothing (passage : Passage) : passage.append {} = passage := by
  rw [append, List.append_nil]
  rfl

@[simp]
theorem tags_all (passages : List Passage) :
    (all passages).tags = passages.flatMap (·.tags) := by
  induction passages with
  | nil => rfl
  | cons passage rest inductionHypothesis =>
    rw [List.flatMap_cons, ← inductionHypothesis]
    rfl

end Passage

/-- A stretch of a page from text to text, outside of cells, is scanned as a passage. -/
def Marks (stretch : String) (passage : Passage) : Prop :=
  ∀ tags rows, PageScan.scan ⟨tags, rows, none, .text⟩ stretch =
    ⟨passage.tags.reverse ++ tags, passage.change rows, none, .text⟩

namespace Marks

theorem append {front back : String} {first second : Passage} (marksFront : Marks front first)
    (marksBack : Marks back second) : Marks (front ++ back) (first.append second) := by
  intro tags rows
  rw [PageScan.scan_append, marksFront, marksBack, Passage.append, List.reverse_append,
    List.append_assoc]

theorem text {stretch : String} (plain : '<' ∉ stretch.toList) : Marks stretch {} :=
  fun tags rows => PageScan.scan_text tags rows plain

/-- Text behind a stretch adds nothing. -/
theorem append_text {stretch behind : String} {passage : Passage} (marks : Marks stretch passage)
    (plain : '<' ∉ behind.toList) : Marks (stretch ++ behind) passage := by
  have both := marks.append (text plain)
  rwa [Passage.append_nothing] at both

/-- Joined lines are scanned one after the other. -/
theorem joinLines {lines : List String} {passages : List Passage}
    (each : List.Forall₂ Marks lines passages) :
    Marks (ColdStart.joinLines lines) (.all passages) := by
  induction each with
  | nil => exact fun tags rows => rfl
  | @cons line passage rest passages here later inductionHypothesis =>
    cases later with
    | nil =>
      rw [ColdStart.joinLines, String.intercalate_singleton, Passage.all, List.foldr_cons,
        List.foldr_nil, Passage.append_nothing]
      exact here
    | @cons second otherPassage others otherPassages _ _ =>
      rw [ColdStart.joinLines, String.intercalate_cons_cons]
      exact (here.append_text (by decide)).append inductionHypothesis

theorem join {parts : List String} {passages : List Passage}
    (each : List.Forall₂ Marks parts passages) : Marks (String.join parts) (.all passages) := by
  induction each with
  | nil => exact fun tags rows => rfl
  | cons here _ inductionHypothesis =>
    rw [String.join_cons]
    exact here.append inductionHypothesis

/-- Text in an element is left out. -/
theorem element {opening content closing : String} {before behind : Passage}
    (opens : Marks opening before) (plain : '<' ∉ content.toList) (closes : Marks closing behind) :
    Marks (opening ++ content ++ closing) (before.append behind) :=
  (opens.append_text plain).append closes

/-- A cell holds any text without tags. -/
theorem cell {opening content : String} {attributes : Attributes}
    (opens : ∀ tags rows, PageScan.scan ⟨tags, rows, none, .text⟩ opening =
      ⟨⟨"td", attributes⟩ :: tags, rows, some (attributes, []), .text⟩)
    (plain : '<' ∉ content.toList) :
    Marks (opening ++ content ++ "</td>") (.cell ⟨attributes, content⟩) := by
  intro tags rows
  rw [PageScan.scan_append, PageScan.scan_append, opens, PageScan.scan_cell _ _ plain,
    List.nil_append]
  have closed : PageScan.scan ⟨⟨"td", attributes⟩ :: tags, rows,
      some (attributes, content.toList), .text⟩ "</td>" =
      ⟨⟨"/td", []⟩ :: ⟨"td", attributes⟩ :: tags,
        Cell.addTo ⟨attributes, String.ofList content.toList⟩ rows, none, .text⟩ := rfl
  rw [closed, String.ofList_toList]
  rfl

/-- A whole page is scanned from its beginning. -/
theorem scan_eq {page : String} {passage : Passage} (marks : Marks page passage) :
    PageScan.scan {} page = ⟨passage.tags.reverse, passage.change [], none, .text⟩ := by
  have scanned := marks [] []
  rwa [List.append_nil] at scanned

end Marks

theorem pageTags_of_marks {page : String} {passage : Passage} (marks : Marks page passage) :
    pageTags page = passage.tags := by
  rw [pageTags, marks.scan_eq, List.reverse_reverse]

theorem pageCells_of_marks {page : String} {passage : Passage} (marks : Marks page passage) :
    pageCells page = (passage.change []).reverse := by
  rw [pageCells, marks.scan_eq]

example : pageTags "<p class=a title='x>\"y' hidden>t &lt; u<br></p>" =
    [⟨"p", [("class", "a"), ("title", "x>\"y"), ("hidden", "")]⟩, ⟨"br", []⟩, ⟨"/p", []⟩] := by
  decide +kernel

end ColdStart
