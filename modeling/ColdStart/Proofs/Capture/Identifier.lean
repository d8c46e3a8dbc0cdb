/-
This file says which lines name a failure. A name stands between the first opening in a
line and the last closing, whatever it holds: openings, closings and other brackets as well.
Only the first character of an opening or a closing is a bracket that opens. So a closing
that begins behind the beginning of an opening stands behind all of it, and comparing where
the two begin is enough to cut out what is between them.
-/

import ColdStart.Capture
import ColdStart.Proofs.Text.Finding

namespace ColdStart

/-! ### Openings and closings -/

/-- A text that begins with a mark stands behind all of another one when it begins behind the
beginning of that, as long as the rest of the other does not have the mark. -/
theorem prefix_of_later {mark first : Char} {back rest text before behind upTo past : List Char}
    (apart : mark ∉ rest) (here : text = before ++ first :: rest ++ behind)
    (there : text = upTo ++ mark :: back ++ past) (later : before.length < upTo.length) :
    before ++ first :: rest <+: upTo := by
  have begins : before ++ first :: rest <+: text := ⟨behind, here.symm⟩
  have ends : upTo <+: text := ⟨mark :: back ++ past, by rw [there, List.append_assoc]⟩
  rcases List.prefix_or_prefix_of_prefix begins ends with isPrefix | ⟨cut, overlap⟩
  · exact isPrefix
  cases cut with
  | nil => exact ⟨[], by rw [← overlap, List.append_nil, List.append_nil]⟩
  | cons head cut =>
    -- What is cut off the other text begins with the mark and lies within its rest.
    obtain rfl : head = mark := by
      have same : upTo ++ head :: (cut ++ behind) = upTo ++ mark :: (back ++ past) := by
        simpa [← overlap] using here.symm.trans there
      exact (List.cons.inj (List.append_cancel_left same)).1
    have front : before ++ [first] <+: before ++ first :: rest := ⟨rest, by simp⟩
    obtain ⟨inner, rfl⟩ := List.prefix_of_prefix_length_le front ⟨_, overlap⟩
      (by rwa [List.length_append])
    have isRest : inner ++ head :: cut = rest := by simpa using overlap
    exact absurd (by simp [← isRest]) apart

/-- A closing that begins behind the beginning of an opening stands behind all of it. -/
theorem opening_prefix_of_later {line front behind upTo past : List Char}
    (opened : line = front ++ failureOpening.toList ++ behind)
    (closed : line = upTo ++ failureClosing.toList ++ past) (later : front.length < upTo.length) :
    front ++ failureOpening.toList <+: upTo := by
  have apart : '<' ∉ "R2RResolutionFailed>".toList := by decide
  exact prefix_of_later apart opened closed later

/-! ### Names of failures -/

/-- A line names a failure: the name stands between the first opening and the last closing. -/
structure NamesFailure (line front identifier back : String) : Prop where
  opened : IsCutAtFirst failureOpening.toList line.toList front.toList
    (identifier ++ failureClosing ++ back).toList
  closed : IsCutAtLast failureClosing.toList line.toList
    (front ++ failureOpening ++ identifier).toList back.toList

theorem failureIdentifier?_eq_some_iff {line identifier : String} :
    failureIdentifier? line = some identifier ↔
      ∃ front back, NamesFailure line front identifier back := by
  simp only [failureIdentifier?, Option.bind_eq_bind, Option.bind_eq_some_iff, Prod.exists,
    Option.pure_def, Option.some_inj, splitFirst?_eq_some_iff, splitLast?_eq_some_iff]
  constructor
  · rintro ⟨front, behind, opened, name, back, closed, rfl⟩
    refine ⟨.ofList front, .ofList back, ?_, ?_⟩
    · simpa only [String.toList_append, String.toList_ofList, ← closed.whole] using opened
    · simpa only [String.toList_append, String.toList_ofList, opened.whole] using
        isCutAtLast_append_iff.mpr closed
  · rintro ⟨front, back, opened, closed⟩
    refine ⟨_, _, opened, identifier.toList, back.toList, ?_, String.ofList_toList⟩
    have upTo : (front ++ failureOpening ++ identifier).toList =
        front.toList ++ failureOpening.toList ++ identifier.toList := by
      simp only [String.toList_append]
    rw [opened.whole, upTo] at closed
    exact isCutAtLast_append_iff.mp closed

/-- Where the first opening and the last closing of a line begin settles whether it names a failure.
If the closing begins behind the beginning of the opening, it stands behind all of the opening, and
the name is what is between them. Otherwise there is none. -/
theorem failureIdentifier?_of_cuts {line : String} {front behind upTo past : List Char}
    (opened : IsCutAtFirst failureOpening.toList line.toList front behind)
    (closed : IsCutAtLast failureClosing.toList line.toList upTo past) :
    if front.length < upTo.length then
      front ++ failureOpening.toList <+: upTo ∧
        failureIdentifier? line =
          some (.ofList (upTo.drop (front ++ failureOpening.toList).length))
    else failureIdentifier? line = none := by
  split
  · next later =>
    obtain ⟨name, rfl⟩ := opening_prefix_of_later opened.whole closed.whole later
    refine ⟨List.prefix_append _ _, ?_⟩
    rw [List.drop_left, failureIdentifier?_eq_some_iff]
    have isBehind : behind = name ++ failureClosing.toList ++ past := by
      have both := opened.whole.symm.trans closed.whole
      simpa only [List.append_assoc, List.append_cancel_left_eq] using both
    refine ⟨.ofList front, .ofList past, ?_, ?_⟩
    · simpa only [String.toList_append, String.toList_ofList, ← isBehind] using opened
    · simpa only [String.toList_append, String.toList_ofList] using closed
  · next notLater =>
    rw [Option.eq_none_iff_forall_ne_some]
    intro identifier named
    obtain ⟨otherFront, back, names⟩ := failureIdentifier?_eq_some_iff.mp named
    have sameOpening := (splitFirst?_eq_some_iff.mpr opened).symm.trans
      (splitFirst?_eq_some_iff.mpr names.opened)
    have sameClosing := (splitLast?_eq_some_iff.mpr closed).symm.trans
      (splitLast?_eq_some_iff.mpr names.closed)
    obtain ⟨rfl, -⟩ := Prod.mk.inj (Option.some_inj.mp sameOpening)
    obtain ⟨rfl, -⟩ := Prod.mk.inj (Option.some_inj.mp sameClosing)
    have long : 0 < failureOpening.toList.length := by decide
    rw [String.toList_append, String.toList_append, List.length_append, List.length_append]
      at notLater
    omega

/-- Names of failures are told by their marks. A line names a failure exactly if it has a first
opening and, behind that, a last closing, and the name is what stands between the two. Where they
begin is compared, but they never overlap. So a name is read between its marks, whatever it holds
itself, as long as no opening begins in front of them and no closing behind. -/
theorem failureIdentifier?_isEnclosed (line : String) :
    (∀ identifier, failureIdentifier? line = some identifier ↔
      ∃ front back, NamesFailure line front identifier back) ∧
    (∀ front behind upTo past,
      IsCutAtFirst failureOpening.toList line.toList front behind →
      IsCutAtLast failureClosing.toList line.toList upTo past →
        if front.length < upTo.length then
          front ++ failureOpening.toList <+: upTo ∧
            failureIdentifier? line =
              some (.ofList (upTo.drop (front ++ failureOpening.toList).length))
        else failureIdentifier? line = none) ∧
    ∀ front identifier back : String,
      line = front ++ failureOpening ++ identifier ++ failureClosing ++ back →
      IsCutAtFirst failureOpening.toList (front ++ failureOpening).toList front.toList [] →
      IsCutAtLast failureClosing.toList (failureClosing ++ back).toList [] back.toList →
        failureIdentifier? line = some identifier := by
  refine ⟨fun identifier => failureIdentifier?_eq_some_iff, fun _ _ _ _ opened closed =>
    failureIdentifier?_of_cuts opened closed, ?_⟩
  rintro front identifier back rfl firstOpening lastClosing
  rw [String.toList_append] at firstOpening lastClosing
  refine failureIdentifier?_eq_some_iff.mpr ⟨front, back, ?_, ?_⟩
  · have opened := firstOpening.append (identifier ++ failureClosing ++ back).toList
    simpa only [String.toList_append, List.append_assoc] using opened
  · have closed : IsCutAtLast failureClosing.toList
        ((front ++ failureOpening ++ identifier).toList ++ (failureClosing.toList ++ back.toList))
        ((front ++ failureOpening ++ identifier).toList ++ []) back.toList :=
      isCutAtLast_append_iff.mpr lastClosing
    simpa only [String.toList_append, List.append_assoc, List.append_nil] using closed

/-- A name may hold the marks of another one. -/
theorem failureIdentifier?_isEnclosed_nestedMarks :
    let name := failureClosing ++ ", " ++ failureOpening
    let line := "at " ++ failureOpening ++ name ++ failureClosing ++ " x"
    IsCutAtFirst failureOpening.toList ("at " ++ failureOpening).toList "at ".toList [] ∧
      IsCutAtLast failureClosing.toList (failureClosing ++ " x").toList [] " x".toList ∧
      failureIdentifier? line = some name := by
  intro name line
  have opened : IsCutAtFirst failureOpening.toList ("at " ++ failureOpening).toList
      "at ".toList [] := splitFirst?_eq_some_iff.mp (by decide +kernel)
  have closed : IsCutAtLast failureClosing.toList (failureClosing ++ " x").toList []
      " x".toList := splitLast?_eq_some_iff.mp (by decide +kernel)
  exact ⟨opened, closed,
    (failureIdentifier?_isEnclosed line).2.2 "at " name " x" rfl opened closed⟩

end ColdStart
