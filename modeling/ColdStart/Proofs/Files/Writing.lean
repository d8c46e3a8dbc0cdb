/-
This file shows what writing a file does to the files there are: the path that was
written reads back, and every other file still reads as before, unless its path
leads to the same place. A write puts a file where no directory was, so whatever
was a directory on the way to another place still is one, and every path leads to
the place it led to.
-/

import ColdStart.Files.Tree
import Mathlib.Data.List.Basic

namespace ColdStart

namespace FileTree

variable {tree before after : FileTree} {place target : Place} {content : ByteArray}

/-! ### Walking again -/

/-- Every directory of a tree is one in another. -/
def KeepsDirectories (before after : FileTree) : Prop :=
  ∀ place, before.get? place = some .directory → after.get? place = some .directory

theorem KeepsDirectories.refl (tree : FileTree) : tree.KeepsDirectories tree := fun _ there => there

theorem KeepsDirectories.trans {between : FileTree} (first : before.KeepsDirectories between)
    (second : between.KeepsDirectories after) : before.KeepsDirectories after :=
  fun place there => second place (first place there)

/-- What is found where something was found: a directory if that was one, and else what is there
now. -/
def foundAgain (after : FileTree) (found : Place × Option Entry) : Place × Option Entry :=
  (found.1, if found.2 = some .directory then some .directory else after.get? found.1)

theorem foundAgain_of_ne {found : Place × Option Entry}
    (notDirectory : found.2 ≠ some .directory) :
    after.foundAgain found = (found.1, after.get? found.1) := by
  rw [foundAgain, if_neg notDirectory]

theorem foundAgain_get? (keeps : before.KeepsDirectories after) (place : Place) :
    after.foundAgain (place, before.get? place) = (place, after.get? place) := by
  rw [foundAgain]
  split
  · next there => rw [keeps place there]
  · rfl

theorem step_again (keeps : before.KeepsDirectories after) (name : String)
    {found : Place × Option Entry} (stepped : before.step place name = .ok found) :
    after.step place name = .ok (after.foundAgain found) := by
  rw [step] at stepped ⊢
  by_cases parent : name = ".."
  · rw [if_pos parent] at stepped ⊢
    cases stepped
    rfl
  · rw [if_neg parent] at stepped ⊢
    by_cases long : greatestName < name.utf8ByteSize
    · rw [if_pos long] at stepped
      cases stepped
    · rw [if_neg long] at stepped ⊢
      cases stepped
      rw [foundAgain_get? keeps]

theorem walk_again (keeps : before.KeepsDirectories after) (steps : List String)
    {place : Place} {found : Place × Option Entry} (walked : before.walk place steps = .ok found) :
    after.walk place steps = .ok (after.foundAgain found) := by
  induction steps generalizing place with
  | nil =>
    rw [walk] at walked ⊢
    cases walked
    rw [foundAgain_get? keeps]
  | cons name rest inductionHypothesis =>
    cases rest with
    | nil => exact step_again keeps name walked
    | cons next others =>
      rw [walk] at walked ⊢
      · cases stepped : before.step place name with
        | error cause =>
          rw [stepped] at walked
          cases walked
        | ok reached =>
          obtain ⟨between, found?⟩ := reached
          rw [stepped] at walked
          rw [step_again keeps name stepped]
          -- Only a directory is walked through, and a directory is still there.
          match found?, walked with
          | some .directory, walked => exact inductionHypothesis walked
          | some (.file _), walked => cases walked
          | none, walked => cases walked
      · exact fun impossible => by cases impossible
      · exact fun impossible => by cases impossible

/-- A path leads to the same place as before. -/
theorem locate_again (keeps : before.KeepsDirectories after) {path : Path}
    {found : Place × Option Entry} (located : before.locate path = .ok found) :
    after.locate path = .ok (after.foundAgain found) := by
  rw [locate] at located ⊢
  split at located
  · cases located
  · next short =>
    rw [if_neg short]
    exact walk_again keeps path.steps located

/-- What a walk finds is there, unless it is a directory. -/
theorem get?_of_walk (steps : List String) {place : Place} {found : Place × Option Entry}
    (walked : tree.walk place steps = .ok found) (notDirectory : found.2 ≠ some .directory) :
    tree.get? found.1 = found.2 := by
  induction steps generalizing place with
  | nil =>
    rw [walk] at walked
    cases walked
    rfl
  | cons name rest inductionHypothesis =>
    cases rest with
    | nil =>
      rw [walk, step] at walked
      split at walked
      · cases walked
        exact absurd rfl notDirectory
      · split at walked
        · cases walked
        · cases walked
          rfl
    | cons next others =>
      rw [walk] at walked
      · split at walked
        · cases walked
        · exact inductionHypothesis walked
        · cases walked
        · cases walked
      · exact fun impossible => by cases impossible

theorem get?_of_locate {path : Path} {found : Place × Option Entry}
    (located : tree.locate path = .ok found) (notDirectory : found.2 ≠ some .directory) :
    tree.get? found.1 = found.2 := by
  rw [locate] at located
  split at located
  · cases located
  · exact get?_of_walk path.steps located notDirectory

/-! ### Putting something where no directory is -/

theorem isGiven_of_get? (notDirectory : tree.get? target ≠ some .directory) :
    Place.isGiven target = false := by
  rw [get?] at notDirectory
  by_cases given : Place.isGiven target = true
  · rw [if_pos given] at notDirectory
    exact absurd rfl notDirectory
  · exact Bool.eq_false_iff.mpr given

theorem get?_put (notDirectory : tree.get? target ≠ some .directory) (entry : Entry)
    (place : Place) :
    (tree.put target entry).get? place =
      if place = target then some entry else tree.get? place := by
  split
  · next same =>
    subst same
    exact get?_put_self _ _ _ (isGiven_of_get? notDirectory)
  · next different => exact get?_put_other _ _ _ _ different

theorem keepsDirectories_put (notDirectory : tree.get? target ≠ some .directory) (entry : Entry) :
    tree.KeepsDirectories (tree.put target entry) := by
  intro place there
  have other : place ≠ target := by
    rintro rfl
    exact notDirectory there
  rw [get?_put notDirectory, if_neg other, there]

/-! ### Writing and reading -/

theorem guarded_eq_ok_iff {Value : Type} (path : Path) (result : Except FileCause Value)
    (value : Value) :
    guarded path result = .ok value ↔
      path.text.contains '\x00' = false ∧ result = .ok value := by
  unfold guarded
  split
  · next null => simp [null]
  · next plain => cases result <;> simp [plain]

theorem read_eq_ok_iff (tree : FileTree) (path : Path) (content : ByteArray) :
    tree.read path = .ok content ↔
      path.text.contains '\x00' = false ∧
        ∃ place, tree.locate path = .ok (place, some (.file content)) := by
  rw [read, guarded_eq_ok_iff]
  refine and_congr_right fun _ => ?_
  cases tree.locate path with
  | error cause => simp [bind, Except.bind]
  | ok found =>
    obtain ⟨place, entry?⟩ := found
    simp only [bind, Except.bind, Except.ok.injEq, Prod.mk.injEq]
    match entry? with
    | some (.file other) => simp [eq_comm]
    | some .directory => simp
    | none => simp

/-- A write puts a file where a path leads, and there was no directory. -/
theorem write_eq_ok {path : Path} {after : FileTree}
    (written : tree.write path content = .ok after) :
    path.text.contains '\x00' = false ∧ ∃ found : Place × Option Entry,
      tree.locate path = .ok found ∧ found.2 ≠ some .directory ∧
        tree.get? found.1 ≠ some .directory ∧ after = tree.put found.1 (.file content) := by
  rw [write, guarded_eq_ok_iff] at written
  obtain ⟨plain, put⟩ := written
  refine ⟨plain, ?_⟩
  cases located : tree.locate path with
  | error cause =>
    rw [located] at put
    cases put
  | ok found =>
    obtain ⟨place, entry?⟩ := found
    rw [located] at put
    have notDirectory : entry? ≠ some .directory := by
      rintro rfl
      cases put
    have there : tree.get? place = entry? := get?_of_locate located notDirectory
    refine ⟨(place, entry?), rfl, notDirectory, there ▸ notDirectory, ?_⟩
    match entry?, put with
    | some (.file _), put => exact (Except.ok.inj put).symm
    | none, put => exact (Except.ok.inj put).symm

/-- A path can be written to, whatever the content. -/
def Accepts (tree : FileTree) (path : Path) : Prop :=
  ∀ content, ∃ after, tree.write path content = .ok after

/-- A path can be written to when it leads somewhere and there is no directory. -/
theorem accepts_of_locate {path : Path} {found : Place × Option Entry}
    (plain : path.text.contains '\x00' = false) (located : tree.locate path = .ok found)
    (notDirectory : found.2 ≠ some .directory) : tree.Accepts path := by
  intro content
  refine ⟨tree.put found.1 (.file content), ?_⟩
  rw [write, guarded_eq_ok_iff]
  refine ⟨plain, ?_⟩
  obtain ⟨place, entry?⟩ := found
  rw [located]
  match entry?, notDirectory with
  | some (.file _), _ => rfl
  | none, _ => rfl

/-- A path can be written to when it leads to a place where nothing is. -/
theorem accepts_of_free {path : Path} (plain : path.text.contains '\x00' = false)
    (free : tree.locate path = .ok (place, none)) : tree.Accepts path :=
  accepts_of_locate plain free (by simp)

/-- What reads can be written to. -/
theorem accepts_of_read {path : Path} (reads : tree.read path = .ok content) :
    tree.Accepts path := by
  obtain ⟨plain, place, located⟩ := (read_eq_ok_iff tree path content).mp reads
  exact accepts_of_locate plain located (by simp)

/-- The directory of the invocation is there. -/
theorem makeDirectory_here (tree : FileTree) : tree.makeDirectory {} = .ok tree := by
  refine (guarded_eq_ok_iff _ _ _).mpr ⟨?_, rfl⟩
  rw [String.contains_char_eq]
  decide

/-- A path can still be written to when something was written. -/
theorem Accepts.behind_write {path other : Path} {after : FileTree} (accepts : tree.Accepts other)
    (written : tree.write path content = .ok after) : after.Accepts other := by
  obtain ⟨-, found, -, -, notThere, rfl⟩ := write_eq_ok written
  obtain ⟨_, otherWritten⟩ := accepts content
  obtain ⟨plain, otherFound, located, notDirectory, -⟩ := write_eq_ok otherWritten
  refine accepts_of_locate plain
    (locate_again (keepsDirectories_put notThere (.file content)) located) ?_
  have here := get?_of_locate located notDirectory
  rw [foundAgain_of_ne notDirectory, get?_put notThere]
  split
  · exact fun equal => by cases equal
  · exact here ▸ notDirectory

/-- A file that was written reads back. -/
theorem read_of_write {path : Path} {after : FileTree}
    (written : tree.write path content = .ok after) : after.read path = .ok content := by
  obtain ⟨plain, found, located, notDirectory, notThere, rfl⟩ := write_eq_ok written
  refine (read_eq_ok_iff _ path content).mpr ⟨plain, found.1, ?_⟩
  rw [locate_again (keepsDirectories_put notThere _) located, foundAgain_of_ne notDirectory,
    get?_put notThere, if_pos rfl]

/-- What a file reads behind a write is decided by where the two paths lead. -/
theorem exists_read_behind_write {path other : Path} {after : FileTree} {old : ByteArray}
    (written : tree.write path content = .ok after) (before : tree.read other = .ok old) :
    ∃ found otherFound, tree.locate path = .ok found ∧ tree.locate other = .ok otherFound ∧
      after.read other = .ok (if otherFound.1 = found.1 then content else old) := by
  obtain ⟨-, found, foundThere, -, notThere, rfl⟩ := write_eq_ok written
  obtain ⟨plain, place, located⟩ := (read_eq_ok_iff tree other old).mp before
  have there : tree.get? place = some (.file old) := get?_of_locate located (by simp)
  have behind : (tree.put found.1 (.file content)).locate other =
      .ok (place, (tree.put found.1 (.file content)).get? place) := by
    rw [locate_again (keepsDirectories_put notThere _) located, foundAgain_of_ne (by simp)]
  rw [get?_put notThere, there] at behind
  refine ⟨found, _, foundThere, located, (read_eq_ok_iff _ other _).mpr ⟨plain, place, ?_⟩⟩
  rw [behind]
  split <;> rfl

/-- A file still reads as before when another path was written, unless that led to the same
place. -/
theorem read_behind_write {path other : Path} {after : FileTree} {old : ByteArray}
    (written : tree.write path content = .ok after) (before : tree.read other = .ok old) :
    after.read other = .ok old ∨ after.read other = .ok content := by
  obtain ⟨found, otherFound, -, -, reads⟩ := exists_read_behind_write written before
  split at reads
  · exact .inr reads
  · exact .inl reads

/-- What reads is there. -/
theorem contains_of_read {path : Path} (reads : tree.read path = .ok content) :
    tree.contains path = .ok true := by
  obtain ⟨plain, place, located⟩ := (read_eq_ok_iff tree path content).mp reads
  rw [contains, (guarded_eq_ok_iff path _ _).mpr ⟨plain, located⟩]
  rfl

end FileTree

end ColdStart
