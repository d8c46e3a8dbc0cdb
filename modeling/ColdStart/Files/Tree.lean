/-
This file holds the files that an invocation finds and leaves. A path is walked
from the directory of the invocation, or from the root; every step but the last
must lead to a directory. Places above the directory of the invocation are
directories of which nothing else is known.
-/

import ColdStart.Files.Path
import ColdStart.Text.Quoted

namespace ColdStart

/-! ### Faults -/

/-- Why a file cannot be used. -/
inductive FileCause where
  | notFound
  | alreadyThere
  | notDirectory
  | isDirectory
  | nameTooLong
  deriving DecidableEq, Repr

/-- A file that cannot be used. -/
inductive FileFault where
  | refused (cause : FileCause) (path : Path)
  /-- The path has a null character, which no path may have. -/
  | nullCharacter
  deriving DecidableEq, Repr

/-- The number of the cause. -/
def FileCause.code : FileCause → Nat
  | notFound => 2
  | alreadyThere => 17
  | notDirectory => 20
  | isDirectory => 21
  | nameTooLong => 36

/-- The words for the cause. -/
def FileCause.words : FileCause → String
  | notFound => "No such file or directory"
  | alreadyThere => "File exists"
  | notDirectory => "Not a directory"
  | isDirectory => "Is a directory"
  | nameTooLong => "File name too long"

/-- The sentence that reports the fault. -/
def FileFault.message : FileFault → String
  | refused cause path =>
    "[Errno " ++ toString cause.code ++ "] " ++ cause.words ++ ": " ++ quoted path.text
  | nullCharacter => "embedded null byte"

/-! ### Places -/

/-- A place: the steps that lead to it from the directory of the invocation, steps to the parent
only in front; or, behind a slash, from the root. -/
abbrev Place := List String

/-- What is at a place. -/
inductive Entry where
  | directory
  | file (content : ByteArray)

/-- Files are the same when their bytes are. -/
instance : DecidableEq Entry
  | .directory, .directory => isTrue rfl
  | .directory, .file _ => isFalse nofun
  | .file _, .directory => isFalse nofun
  | .file content, .file other =>
    decidable_of_iff (content.data = other.data) (by rw [Entry.file.injEq, ByteArray.ext_iff])

/-- The places that are known, with what is there. -/
structure FileTree where
  entries : List (Place × Entry) := []
  deriving DecidableEq

/-- The place above. -/
def Place.above (place : Place) : Place :=
  if place = ["/"] then place
  else if place.all (· = "..") then place ++ [".."]
  else place.dropLast

/-- Whether a place is always a directory: where the invocation is, what is above it, and the
root. -/
def Place.isGiven (place : Place) : Bool := place = ["/"] || place.all (· = "..")

/-- The place at which a path begins. -/
def PathStart.place : PathStart → Place
  | here => []
  | root | doubleRoot => ["/"]

/-- The greatest length of a name, in bytes. -/
def greatestName : Nat := 255

/-- The greatest length of a path, in bytes. -/
def greatestPath : Nat := 4095

namespace FileTree

/-- What is at a place, if anything. -/
def get? (tree : FileTree) (place : Place) : Option Entry :=
  if Place.isGiven place then some .directory else tree.entries.lookup place

/-- The tree with another entry at a place. -/
def put (tree : FileTree) (place : Place) (entry : Entry) : FileTree :=
  ⟨(place, entry) :: tree.entries.filter fun known => known.1 != place⟩

/-- What was put at a place is there. -/
theorem get?_put_self (tree : FileTree) (place : Place) (entry : Entry)
    (free : Place.isGiven place = false) :
    (tree.put place entry).get? place = some entry := by
  simp [put, get?, free]

/-- Other places stay as they are. -/
theorem get?_put_other (tree : FileTree) (place other : Place) (entry : Entry)
    (different : other ≠ place) :
    (tree.put place entry).get? other = tree.get? other := by
  have kept (entries : List (Place × Entry)) :
      (entries.filter fun known => known.1 != place).lookup other = entries.lookup other := by
    induction entries with
    | nil => rfl
    | cons known rest inductionHypothesis =>
      obtain ⟨name, content⟩ := known
      by_cases same : name = place
      · subst same
        simp [List.lookup_cons, inductionHypothesis, beq_false_of_ne different]
      · simp only [List.filter_cons, bne_iff_ne, ne_eq, same, not_false_eq_true, if_true,
          List.lookup_cons, inductionHypothesis]
  simp [put, get?, List.lookup_cons, kept, beq_false_of_ne different]

/-- The place to which one step leads, and what is there. -/
def step (tree : FileTree) (place : Place) (name : String) :
    Except FileCause (Place × Option Entry) :=
  if name = ".." then .ok (Place.above place, some .directory)
  else if greatestName < name.utf8ByteSize then .error .nameTooLong
  else .ok (place ++ [name], tree.get? (place ++ [name]))

/-- The place to which steps lead, and what is there. -/
def walk (tree : FileTree) (place : Place) : List String → Except FileCause (Place × Option Entry)
  | [] => .ok (place, tree.get? place)
  | [name] => tree.step place name
  | name :: rest =>
    match tree.step place name with
    | .error cause => .error cause
    | .ok (next, some .directory) => tree.walk next rest
    | .ok (_, some (.file _)) => .error .notDirectory
    | .ok (_, none) => .error .notFound

/-- The place to which a path leads, and what is there. -/
def locate (tree : FileTree) (path : Path) : Except FileCause (Place × Option Entry) :=
  if greatestPath < path.text.utf8ByteSize then .error .nameTooLong
  else tree.walk path.start.place path.steps

/-! ### Using files -/

/-- Refuses a path with a null character, and names the path that is refused. -/
def guarded {α : Type} (path : Path) (result : Except FileCause α) : Except FileFault α :=
  if path.text.contains '\x00' then .error .nullCharacter
  else
    match result with
    | .ok value => .ok value
    | .error cause => .error (.refused cause path)

/-- Whether there is anything at the end of a path. A path that leads nowhere has nothing. -/
def contains (tree : FileTree) (path : Path) : Except FileFault Bool :=
  match guarded path (tree.locate path) with
  | .ok (_, found?) => .ok found?.isSome
  | .error .nullCharacter | .error (.refused .notFound _) | .error (.refused .notDirectory _) =>
    .ok false
  | .error fault => .error fault

/-- The content of a file. -/
def read (tree : FileTree) (path : Path) : Except FileFault ByteArray :=
  guarded path do
    match ← tree.locate path with
    | (_, some (.file content)) => .ok content
    | (_, some .directory) => .error .isDirectory
    | (_, none) => .error .notFound

/-- The tree after a file was written, whether it was there or not. -/
def write (tree : FileTree) (path : Path) (content : ByteArray) : Except FileFault FileTree :=
  guarded path do
    match ← tree.locate path with
    | (_, some .directory) => .error .isDirectory
    | (place, _) => .ok (tree.put place (.file content))

/-- The tree with one more directory; one that is there is left as it is. -/
def addDirectory (tree : FileTree) (path : Path) : Except FileCause FileTree := do
  match ← tree.locate path with
  | (_, some .directory) => .ok tree
  | (_, some (.file _)) => .error .alreadyThere
  | (place, none) => .ok (tree.put place .directory)

/-- The tree with a directory of so many steps of a path, and with what is missing on the way
to it. -/
def addDirectories (tree : FileTree) (path : Path) : Nat → Except FileFault FileTree
  | 0 => guarded path (tree.addDirectory { path with steps := [] })
  | count + 1 =>
    let target := { path with steps := path.steps.take (count + 1) }
    match guarded target (tree.addDirectory target) with
    | .error (.refused .notFound _) => do
      let grown ← tree.addDirectories path count
      guarded target (grown.addDirectory target)
    | result => result

/-- The tree with the directory at the end of a path, and with what is missing on the way to it. -/
def makeDirectory (tree : FileTree) (path : Path) : Except FileFault FileTree :=
  tree.addDirectories path path.steps.length

end FileTree

end ColdStart
