/-
This file says which identifier of an image is found in the output of its build. A line
announces an image when it holds the mark of one, and among the last ten lines the latest
such line settles the matter: the word behind its first mark is the identifier. There is
none if nothing but blanks follows, even when lines before it announced another image.
What was printed before the last ten lines is never looked at.
-/

import ColdStart.Backend
import ColdStart.Proofs.Text.Finding

namespace ColdStart

/-! ### The last lines -/

/-- The last lines are those with fewer lines behind them than are taken. -/
theorem lastLines_append {count : Nat} (earlier : List String) {line : String}
    {later : List String} (few : later.length < count) : ∃ front,
      Backend.lastLines count (earlier ++ line :: later) = front ++ line :: later := by
  refine ⟨earlier.drop ((earlier ++ line :: later).length - count), ?_⟩
  rw [Backend.lastLines, List.drop_append_of_le_length]
  simp only [List.length_append, List.length_cons]
  omega

/-- What stands before the last lines does not matter. -/
theorem lastLines_append_of_le {count : Nat} (before : List String) {last : List String}
    (enough : count ≤ last.length) :
    Backend.lastLines count (before ++ last) = Backend.lastLines count last := by
  rw [Backend.lastLines, Backend.lastLines, List.length_append, Nat.add_sub_assoc enough,
    List.drop_append]
  simp

theorem lastLines_suffix (count : Nat) (lines : List String) :
    Backend.lastLines count lines <:+ lines := List.drop_suffix _ _

theorem length_lastLines_le (count : Nat) (lines : List String) :
    (Backend.lastLines count lines).length ≤ count := by
  rw [Backend.lastLines, List.length_drop]
  omega

section

variable {Value : Type} (find? : String → Option Value)

/-- A search from the end finds what it finds in the latest line in which it finds anything. -/
theorem findSome?_reverse_eq_some_iff (lines : List String) (value : Value) :
    lines.reverse.findSome? find? = some value ↔
      ∃ earlier line later, lines = earlier ++ line :: later ∧ find? line = some value ∧
        ∀ other ∈ later, find? other = none := by
  rw [List.findSome?_eq_some_iff]
  constructor
  · rintro ⟨later, line, earlier, whole, found, missed⟩
    refine ⟨earlier.reverse, line, later.reverse, ?_, found, by simpa using missed⟩
    rw [← List.reverse_reverse lines, whole]
    simp
  · rintro ⟨earlier, line, later, rfl, found, missed⟩
    exact ⟨later.reverse, line, earlier.reverse, by simp, found, by simpa using missed⟩

/-- A search from the end among the last lines finds a line with few lines behind it. -/
theorem findSome?_lastLines_eq_some_iff (count : Nat) (lines : List String) (value : Value) :
    (Backend.lastLines count lines).reverse.findSome? find? = some value ↔
      ∃ earlier line later, lines = earlier ++ line :: later ∧ later.length < count ∧
        find? line = some value ∧ ∀ other ∈ later, find? other = none := by
  rw [findSome?_reverse_eq_some_iff]
  constructor
  · rintro ⟨earlier, line, later, whole, found, missed⟩
    obtain ⟨before, parted⟩ := lastLines_suffix count lines
    have short := length_lastLines_le count lines
    rw [whole] at parted short
    refine ⟨before ++ earlier, line, later, ?_, ?_, found, missed⟩
    · rw [← parted, List.append_assoc]
    · simp only [List.length_append, List.length_cons] at short
      omega
  · rintro ⟨earlier, line, later, rfl, few, found, missed⟩
    obtain ⟨front, same⟩ := lastLines_append earlier few
    exact ⟨front, line, later, same, found, missed⟩

end

/-! ### Announcements -/

/-- A line announces an image: it holds the mark of one. -/
def Announces (line : String) : Prop := imageMark.toList <:+: line.toList

/-- A line is the latest among the last ten that announces an image. -/
def IsLatestAnnouncement (line : String) (lines : List String) : Prop :=
  Announces line ∧ ∃ earlier later, lines = earlier ++ line :: later ∧ later.length < 10 ∧
    ∀ other ∈ later, ¬ Announces other

/-- A text follows the first mark of a line. -/
def FollowsMark (behind : List Char) (line : String) : Prop :=
  ∃ before, IsCutAtFirst imageMark.toList line.toList before behind

theorem FollowsMark.announces {behind : List Char} {line : String}
    (follows : FollowsMark behind line) : Announces line := by
  obtain ⟨before, cut⟩ := follows
  exact ⟨before, behind, cut.whole.symm⟩

/-- What follows the first mark of a line, if it has one. -/
def behindMark? (line : String) : Option (List Char) :=
  (splitFirst? imageMark.toList line.toList).map (·.2)

theorem behindMark?_eq_some_iff {line : String} {behind : List Char} :
    behindMark? line = some behind ↔ FollowsMark behind line := by
  simp only [behindMark?, FollowsMark, Option.map_eq_some_iff, Prod.exists, splitFirst?_eq_some_iff,
    exists_eq_right]

theorem behindMark?_eq_none_iff {line : String} :
    behindMark? line = none ↔ ¬ Announces line := by
  rw [behindMark?, Option.map_eq_none_iff, splitFirst?_eq_none_iff, Announces]

/-- What is searched for the identifier follows the first mark of the latest announcement. -/
theorem findSome?_behindMark?_eq_some_iff (lines : List String) (behind : List Char) :
    (Backend.lastLines imageScanLines lines).reverse.findSome? behindMark? = some behind ↔
      ∃ line, IsLatestAnnouncement line lines ∧ FollowsMark behind line := by
  rw [findSome?_lastLines_eq_some_iff]
  simp only [behindMark?_eq_some_iff, behindMark?_eq_none_iff]
  constructor
  · rintro ⟨earlier, line, later, whole, few, follows, silent⟩
    exact ⟨line, ⟨follows.announces, earlier, later, whole, few, silent⟩, follows⟩
  · rintro ⟨line, ⟨-, earlier, later, whole, few, silent⟩, follows⟩
    exact ⟨earlier, line, later, whole, few, follows, silent⟩

namespace Backend

theorem imageIdentifier?_eq (lines : List String) : imageIdentifier? lines =
    (((lastLines imageScanLines lines).reverse.findSome? behindMark?).bind firstWord?).map
      String.ofList := rfl

theorem imageIdentifier?_eq_some_iff (lines : List String) (identifier : String) :
    imageIdentifier? lines = some identifier ↔
      ∃ line behind, IsLatestAnnouncement line lines ∧ FollowsMark behind line ∧
        BeginsWith identifier.toList behind := by
  rw [imageIdentifier?_eq, Option.map_eq_some_iff]
  simp only [Option.bind_eq_some_iff, findSome?_behindMark?_eq_some_iff, firstWord?_eq_some_iff]
  constructor
  · rintro ⟨word, ⟨behind, ⟨line, latest, follows⟩, begins⟩, rfl⟩
    exact ⟨line, behind, latest, follows, by rwa [String.toList_ofList]⟩
  · rintro ⟨line, behind, latest, follows, begins⟩
    exact ⟨identifier.toList, ⟨behind, ⟨line, latest, follows⟩, begins⟩, String.ofList_toList⟩

/-- What stands before the last ten lines is not looked at. -/
theorem imageIdentifier?_append (before : List String) {last : List String}
    (enough : imageScanLines ≤ last.length) :
    imageIdentifier? (before ++ last) = imageIdentifier? last := by
  rw [imageIdentifier?_eq, imageIdentifier?_eq, lastLines_append_of_le before enough]

theorem artifact?_docker_eq_some_iff (build : Transcript) (identifier : String) :
    docker.artifact? build = some identifier ↔
      build.exitCode = 0 ∧ imageIdentifier? build.lines = some identifier := by
  rw [artifact?]
  by_cases succeeded : build.exitCode = 0
  · simp [succeeded]
  · simp [succeeded]

/-- The identifier of an image is the first word behind the first mark of the latest
announcement. A container build gives one exactly if it succeeded, one of its last ten lines
announces an image, and something other than blanks follows the first mark of the latest such
line. The identifier is then the longest run without blanks that comes next, so it is not empty
and holds no blank. Lines before the last ten change nothing. -/
theorem artifact?_docker_isAnnounced (build : Transcript) :
    (∀ identifier, docker.artifact? build = some identifier ↔ build.exitCode = 0 ∧
      ∃ line behind, IsLatestAnnouncement line build.lines ∧ FollowsMark behind line ∧
        BeginsWith identifier.toList behind) ∧
    ((∃ identifier, docker.artifact? build = some identifier) ↔ build.exitCode = 0 ∧
      ∃ line behind, IsLatestAnnouncement line build.lines ∧ FollowsMark behind line ∧
        ∃ character ∈ behind, isBlank character = false) ∧
    ∀ before last : List String, 10 ≤ last.length →
      docker.artifact? { build with lines := before ++ last } =
        docker.artifact? { build with lines := last } := by
  have announced : ∀ identifier, docker.artifact? build = some identifier ↔ build.exitCode = 0 ∧
      ∃ line behind, IsLatestAnnouncement line build.lines ∧ FollowsMark behind line ∧
        BeginsWith identifier.toList behind := fun identifier => by
    rw [artifact?_docker_eq_some_iff, imageIdentifier?_eq_some_iff]
  refine ⟨announced, ?_, fun before last enough => ?_⟩
  · simp only [announced, ← exists_beginsWith_iff]
    constructor
    · rintro ⟨identifier, succeeded, line, behind, latest, follows, begins⟩
      exact ⟨succeeded, line, behind, latest, follows, identifier.toList, begins⟩
    · rintro ⟨succeeded, line, behind, latest, follows, word, begins⟩
      refine ⟨String.ofList word, succeeded, line, behind, latest, follows, ?_⟩
      rwa [String.toList_ofList]
  · refine Option.ext fun identifier => ?_
    rw [artifact?_docker_eq_some_iff, artifact?_docker_eq_some_iff,
      imageIdentifier?_append before enough]

example : docker.artifact? { exitCode := 0, lines := [
    "#8 writing image sha256:first done",
    "#9 writing image sha256:\u00a0 0123abcd\u2003writing image sha256:last done",
    "#9 done"] } = some "0123abcd" := by
  decide

end Backend

end ColdStart
