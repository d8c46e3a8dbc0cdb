/-
This file follows files through several changes. Files are written and directories
are made, and nothing is ever taken away, so a path keeps leading to where it led.
What stands at the end is therefore accounted for: every file was there at first,
or it is where one of the written paths leads.
-/

import ColdStart.Proofs.Files.Writing
import ColdStart.Proofs.Traversal

namespace ColdStart

namespace FileTree

variable {before after : FileTree} {place : Place} {paths : List Path}

/-- Nothing but the files at the ends of these paths was written. Directories may have been
made. -/
structure OnlyWrites (paths : List Path) (before after : FileTree) : Prop where
  directories : before.KeepsDirectories after
  files : ∀ place content, after.get? place = some (.file content) →
    before.get? place = some (.file content) ∨
      ∃ path ∈ paths, after.locate path = .ok (place, some (.file content))

theorem OnlyWrites.refl (paths : List Path) (tree : FileTree) : OnlyWrites paths tree tree :=
  ⟨.refl tree, fun _ _ there => .inl there⟩

theorem OnlyWrites.trans {between : FileTree} (first : OnlyWrites paths before between)
    (second : OnlyWrites paths between after) : OnlyWrites paths before after where
  directories := first.directories.trans second.directories
  files place content there := by
    rcases second.files place content there with between | written
    · rcases first.files place content between with before | ⟨path, isWritten, located⟩
      · exact .inl before
      · -- The path still leads to its place, where the file still is.
        have again := locate_again second.directories located
        rw [foundAgain_of_ne (by simp), there] at again
        exact .inr ⟨path, isWritten, again⟩
    · exact .inr written

/-- A write is at the end of its path. -/
theorem onlyWrites_write {path : Path} (isWritten : path ∈ paths) {content : ByteArray}
    (written : before.write path content = .ok after) : OnlyWrites paths before after := by
  obtain ⟨-, found, located, notDirectory, notThere, rfl⟩ := write_eq_ok written
  have keeps := keepsDirectories_put notThere (.file content)
  refine ⟨keeps, fun place other there => ?_⟩
  rw [get?_put notThere] at there
  split at there
  · next same =>
    obtain rfl : content = other := by simpa using there
    have again := locate_again keeps located
    rw [foundAgain_of_ne notDirectory, get?_put notThere, if_pos rfl] at again
    rw [same]
    exact .inr ⟨path, isWritten, again⟩
  · exact .inl there

/-! ### Making directories -/

theorem guarded_of_eq_ok {Value : Type} {path : Path} {result : Except FileCause Value}
    {value : Value} (allowed : guarded path result = .ok value) : result = .ok value :=
  ((guarded_eq_ok_iff path result value).mp allowed).2

/-- What was there stays, and where nothing was a directory may be now. -/
def OnlyMakes (before after : FileTree) : Prop :=
  ∀ place, after.get? place = before.get? place ∨
    before.get? place = none ∧ after.get? place = some .directory

namespace OnlyMakes

theorem trans {between : FileTree} (first : before.OnlyMakes between)
    (second : between.OnlyMakes after) : before.OnlyMakes after := by
  intro place
  rcases second place with same | ⟨nothing, made⟩
  · rw [same]
    exact first place
  · rcases first place with same | ⟨-, other⟩
    · exact .inr ⟨same ▸ nothing, made⟩
    · rw [other] at nothing
      cases nothing

theorem keeps (makes : before.OnlyMakes after) {entry : Entry}
    (there : before.get? place = some entry) : after.get? place = some entry := by
  rcases makes place with same | ⟨nothing, -⟩
  · rw [same, there]
  · rw [there] at nothing
    cases nothing

theorem onlyWrites (makes : before.OnlyMakes after) : OnlyWrites paths before after where
  directories _ there := makes.keeps there
  files place content there := by
    rcases makes place with same | ⟨-, made⟩
    · exact .inl (same ▸ there)
    · rw [made] at there
      cases there

/-- A file still reads as before. -/
theorem read (makes : before.OnlyMakes after) {path : Path} {content : ByteArray}
    (reads : before.read path = .ok content) : after.read path = .ok content := by
  obtain ⟨plain, place, located⟩ := (read_eq_ok_iff _ _ _).mp reads
  refine (read_eq_ok_iff _ _ _).mpr ⟨plain, place, ?_⟩
  rw [locate_again (fun _ there => makes.keeps there) located, foundAgain_of_ne (by simp),
    makes.keeps (get?_of_locate located (by simp))]

end OnlyMakes

theorem onlyMakes_addDirectory {path : Path} (added : before.addDirectory path = .ok after) :
    before.OnlyMakes after := by
  obtain ⟨⟨place, entry?⟩, located, added⟩ := (bind_eq_ok_iff _ _ _).mp added
  match entry?, located, added with
  | some .directory, _, added =>
    cases added
    exact fun _ => .inl rfl
  | some (.file _), _, added => cases added
  | none, located, added =>
    cases added
    have nothing : before.get? place = none := get?_of_locate located (by simp)
    intro other
    rw [get?_put (by simp [nothing])]
    split
    · next same => exact .inr ⟨same ▸ nothing, rfl⟩
    · exact .inl rfl

theorem onlyMakes_addDirectories {path : Path} (count : Nat) {after : FileTree}
    (added : before.addDirectories path count = .ok after) : before.OnlyMakes after := by
  induction count generalizing after with
  | zero => exact onlyMakes_addDirectory (guarded_of_eq_ok added)
  | succ count inductionHypothesis =>
    rw [addDirectories] at added
    split at added
    · obtain ⟨grown, above, added⟩ := (bind_eq_ok_iff _ _ _).mp added
      exact (inductionHypothesis above).trans (onlyMakes_addDirectory (guarded_of_eq_ok added))
    · exact onlyMakes_addDirectory (guarded_of_eq_ok added)

theorem onlyMakes_makeDirectory {path : Path} (made : before.makeDirectory path = .ok after) :
    before.OnlyMakes after :=
  onlyMakes_addDirectories _ made

end FileTree

end ColdStart
