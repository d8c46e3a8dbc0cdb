/-
This file tells places apart by their names. A path that ends with a plain name
leads to a place of that name, whatever the directories on the way, so paths with
different last names never lead to the same place. The files that an invocation
leaves have names of their own, and the report has none of theirs.
-/

import ColdStart.Moment
import ColdStart.Proofs.Files.Writing
import ColdStart.Proofs.Number.Decimal
import ColdStart.Settings

namespace ColdStart

/-! ### Names -/

/-- A text that is one step of a path, down to something in a directory. -/
structure IsName (name : String) : Prop where
  oneStep : '/' ∉ name.toList
  isStep : name ≠ "" ∧ name ≠ "."
  down : name ≠ ".."

theorem fieldsAt_of_notMem {separator : Char} {text : List Char} (whole : separator ∉ text) :
    fieldsAt separator text = [text] := by
  induction text with
  | nil => rfl
  | cons first rest inductionHypothesis =>
    obtain ⟨other, later⟩ : separator ≠ first ∧ separator ∉ rest := by simpa using whole
    rw [fieldsAt, if_neg (Ne.symm other), inductionHypothesis later]

theorem ofText_of_isName {name : String} (isName : IsName name) :
    Path.ofText name = { steps := [name] } := by
  have start : PathStart.ofChars name.toList = .here := by
    rw [PathStart.ofChars.eq_4]
    all_goals
      intros
      exact isName.oneStep (by simp [*])
  rw [Path.ofText, start, fieldsAt_of_notMem isName.oneStep, List.map_singleton,
    String.ofList_toList]
  simp [isName.isStep]

/-- A path ends with a name. -/
structure Path.IsNamed (path : Path) (name : String) : Prop where
  isName : IsName name
  last : path.steps.getLast? = some name

namespace FileTree

variable {tree : FileTree} {path other : Path} {name otherName : String}
  {found otherFound : Place × Option Entry}

/-- The last step of a walk is taken from somewhere. -/
theorem step_of_walk_concat {place : Place} {steps : List String}
    (walked : tree.walk place (steps ++ [name]) = .ok found) :
    ∃ between, tree.step between name = .ok found := by
  induction steps generalizing place with
  | nil => exact ⟨place, walked⟩
  | cons first rest inductionHypothesis =>
    have more : rest ++ [name] ≠ [] := by simp
    rw [List.cons_append, walk.eq_3 _ _ _ _ more] at walked
    split at walked
    · cases walked
    · exact inductionHypothesis walked
    · cases walked
    · cases walked

/-- A path that ends with a name leads to a place of that name. -/
theorem getLast?_of_locate (named : path.IsNamed name) (located : tree.locate path = .ok found) :
    found.1.getLast? = some name := by
  obtain ⟨before, steps⟩ := List.getLast?_eq_some_iff.mp named.last
  rw [locate] at located
  split at located
  · cases located
  · rw [steps] at located
    obtain ⟨between, stepped⟩ := step_of_walk_concat located
    rw [step, if_neg named.isName.down] at stepped
    split at stepped
    · cases stepped
    · cases stepped
      exact List.getLast?_concat

/-- Paths that end with different names lead to different places. -/
theorem place_ne (named : path.IsNamed name) (otherNamed : other.IsNamed otherName)
    (different : otherName ≠ name) (located : tree.locate path = .ok found)
    (otherLocated : tree.locate other = .ok otherFound) : otherFound.1 ≠ found.1 := by
  intro same
  have last := getLast?_of_locate otherNamed otherLocated
  rw [same, getLast?_of_locate named located] at last
  exact different (Option.some.inj last).symm

/-- A file still reads as before when a path that ends with another name was written. -/
theorem read_behind_write_of_isNamed {content old : ByteArray} {after : FileTree}
    (named : path.IsNamed name) (otherNamed : other.IsNamed otherName)
    (different : otherName ≠ name) (written : tree.write path content = .ok after)
    (before : tree.read other = .ok old) : after.read other = .ok old := by
  obtain ⟨found, otherFound, located, otherLocated, reads⟩ :=
    exists_read_behind_write written before
  rwa [if_neg (place_ne named otherNamed different located otherLocated)] at reads

end FileTree

/-! ### The files that are left -/

theorem slash_notMem_paddedNumber (width number : Nat) :
    '/' ∉ (paddedNumber width number).toList := by
  intro member
  rw [paddedNumber, String.toList_ofList, List.mem_append] at member
  rcases member with zero | digit
  · exact absurd (List.eq_of_mem_replicate zero) (by decide)
  · exact absurd (isDigit_of_mem_decimal digit) (by decide)

theorem slash_notMem_stamp (moment : Moment) : '/' ∉ moment.stamp.toList := by
  simp [Moment.stamp, slash_notMem_paddedNumber]

namespace Settings

/-- The name of a file that is left. -/
def leftName (settings : Settings) (front extension : String) : String :=
  front ++ settings.timestamp ++ extension

/-- What is in front and behind the time stamp makes a name. -/
structure Frames (front extension : String) : Prop where
  oneStep : '/' ∉ front.toList ∧ '/' ∉ extension.toList
  long : 2 < front.toList.length

theorem isName_leftName {settings : Settings} (stamped : '/' ∉ settings.timestamp.toList)
    {front extension : String} (frames : Frames front extension) :
    IsName (settings.leftName front extension) := by
  have long : 2 < (settings.leftName front extension).toList.length := by
    have front := frames.long
    simp only [leftName, String.toList_append, List.length_append]
    omega
  refine ⟨?_, ⟨?_, ?_⟩, ?_⟩
  · simp [leftName, frames.oneStep, stamped]
  all_goals
    intro equal
    rw [equal] at long
    exact absurd long (by decide)

theorem isNamed_leftFile {settings : Settings} (stamped : '/' ∉ settings.timestamp.toList)
    {front extension : String} (frames : Frames front extension) :
    (settings.leftFile front extension).IsNamed (settings.leftName front extension) where
  isName := isName_leftName stamped frames
  last := by
    have name := ofText_of_isName (isName_leftName stamped frames)
    rw [leftName] at name
    rw [leftFile, name, Path.join, leftName]
    exact List.getLast?_concat

/-- A name loses what stands from its last point on. -/
theorem stem_append {base extension : String} (someBase : base ≠ "")
    (someExtension : extension ≠ "") (noPoint : '.' ∉ extension.toList) :
    Path.stem (base ++ "." ++ extension) = base := by
  have kept : ∀ character ∈ extension.toList.reverse, (character != '.') = true := by
    intro character member
    rw [bne_iff_ne]
    rintro rfl
    exact noPoint (List.mem_reverse.mp member)
  have text : (base ++ "." ++ extension).toList.reverse =
      extension.toList.reverse ++ '.' :: base.toList.reverse := by
    simp
  have behind : (extension.toList.reverse ++ '.' :: base.toList.reverse).takeWhile (· != '.') =
      extension.toList.reverse := by
    rw [List.takeWhile_append_of_pos kept, List.takeWhile_cons_of_neg (by simp), List.append_nil]
  rw [Path.stem, text, behind, List.drop_left, List.drop_one, List.tail_cons]
  simp [someBase, someExtension]

/-- The report is named like the results, with an extension of its own. -/
theorem isNamed_reportPath {settings : Settings} (stamped : '/' ∉ settings.timestamp.toList) :
    settings.reportPath.IsNamed (settings.leftName "results-" ".txt") where
  isName := isName_leftName stamped ⟨by decide, by decide⟩
  last := by
    have named : settings.resultsPath.IsNamed (settings.leftName "results-" ".xml") :=
      isNamed_leftFile stamped ⟨by decide, by decide⟩
    have stem : Path.stem (settings.leftName "results-" ".xml") =
        "results-" ++ settings.timestamp := by
      have joined : settings.leftName "results-" ".xml" =
          "results-" ++ settings.timestamp ++ "." ++ "xml" := by
        have cut : ".xml" = "." ++ "xml" := by decide
        rw [leftName, cut, ← String.append_assoc]
      rw [joined, stem_append _ (by decide) (by decide)]
      intro empty
      have long := congrArg String.length empty
      simp at long
    rw [reportPath, Path.withExtension, named.last]
    simp only [stem, List.getLast?_concat]
    rw [leftName]

/-- A file with another extension does not have the name of the report. -/
theorem leftName_ne_report (settings : Settings) (front : String) {extension : String}
    {final : Char} (last : extension.toList.getLast? = some final) (other : final ≠ 't') :
    settings.leftName front extension ≠ settings.leftName "results-" ".txt" := by
  intro equal
  have finals := congrArg (fun name => name.toList.getLast?) equal
  simp only [leftName, String.toList_append, List.getLast?_append, last] at finals
  exact other (by simpa using finals)

/-- The results do not have the name of the failures: what stands in front is not as long. -/
theorem leftName_results_ne_failures (settings : Settings) :
    settings.leftName "results-" ".xml" ≠ settings.leftName "r2rfails-" ".xml" := by
  intro equal
  have lengths := congrArg String.length equal
  simp only [leftName, String.length_append] at lengths
  exact absurd (Nat.add_right_cancel (Nat.add_right_cancel lengths)) (by decide)

end Settings

end ColdStart
