/-
This file says what is found in a text. Another text is found where it occurs first, and
not at all when it does not occur. One that has a mark is found by it, from the front and
from the end, as long as the mark does not occur elsewhere. The first word is what stands
between the blanks at the front and the next blank, and only blanks have none.
-/

import ColdStart.Proofs.Text.Trimming
import ColdStart.Text.Search

namespace ColdStart

/-! ### First occurrences -/

/-- A text falls into what stands before and behind the first occurrence of another one. -/
structure IsCutAtFirst (wanted text before behind : List Char) : Prop where
  whole : text = before ++ wanted ++ behind
  first : ∀ front back, text = front ++ wanted ++ back → before.length ≤ front.length

theorem stripFront?_eq_some_iff {expected text rest : List Char} :
    stripFront? expected text = some rest ↔ text = expected ++ rest := by
  induction expected generalizing text with
  | nil => rw [stripFront?, Option.some_inj, List.nil_append]
  | cons wanted expected inductionHypothesis =>
    cases text with
    | nil => simp [stripFront?]
    | cons character text =>
      rw [stripFront?, List.cons_append, List.cons.injEq]
      split
      · next same => rw [inductionHypothesis, and_iff_right same]
      · next other => exact iff_of_false (by simp) fun both => other both.1

theorem stripFront?_eq_none_iff {expected text : List Char} :
    stripFront? expected text = none ↔ ¬ expected <+: text := by
  rw [Option.eq_none_iff_forall_ne_some, List.IsPrefix, not_exists]
  simp only [ne_eq, stripFront?_eq_some_iff, eq_comm]

/-- A text is cut at its very front when it begins with what is wanted. -/
theorem isCutAtFirst_prefix_iff {wanted text rest before behind : List Char}
    (begins : text = wanted ++ rest) :
    IsCutAtFirst wanted text before behind ↔ before = [] ∧ behind = rest := by
  constructor
  · rintro ⟨whole, first⟩
    have none : before.length = 0 := Nat.le_zero.mp (first [] rest begins)
    obtain rfl : before = [] := List.eq_nil_of_length_eq_zero none
    exact ⟨rfl, List.append_cancel_left (whole.symm.trans begins)⟩
  · rintro ⟨rfl, rfl⟩
    exact ⟨begins, fun front back _ => Nat.zero_le _⟩

/-- A text that does not begin with what is wanted is cut where the rest of it is. -/
theorem isCutAtFirst_cons_iff {wanted rest before behind : List Char} {character : Char}
    (other : ¬ wanted <+: character :: rest) :
    IsCutAtFirst wanted (character :: rest) before behind ↔
      ∃ later, before = character :: later ∧ IsCutAtFirst wanted rest later behind := by
  constructor
  · rintro ⟨whole, first⟩
    cases before with
    | nil => exact absurd ⟨behind, whole.symm⟩ other
    | cons head later =>
      obtain ⟨rfl, wholeRest⟩ := List.cons.inj whole
      refine ⟨later, rfl, wholeRest, fun front back same => Nat.le_of_succ_le_succ ?_⟩
      exact first (character :: front) back (congrArg (character :: ·) same)
  · rintro ⟨later, rfl, whole, first⟩
    refine ⟨congrArg (character :: ·) whole, fun front back same => ?_⟩
    cases front with
    | nil => exact absurd ⟨back, same.symm⟩ other
    | cons head front => exact Nat.succ_le_succ (first front back (List.cons.inj same).2)

theorem splitFirst?_eq_some_iff {wanted text before behind : List Char} :
    splitFirst? wanted text = some (before, behind) ↔ IsCutAtFirst wanted text before behind := by
  induction text generalizing before behind with
  | nil =>
    rw [splitFirst?]
    cases found : stripFront? wanted [] with
    | none =>
      refine iff_of_false (by simp) fun cut => stripFront?_eq_none_iff.mp found ?_
      obtain ⟨-, rfl, -⟩ : before = [] ∧ wanted = [] ∧ behind = [] := by
        simpa using cut.whole.symm
      exact List.nil_prefix
    | some rest =>
      rw [isCutAtFirst_prefix_iff (stripFront?_eq_some_iff.mp found), Option.map_some,
        Option.some_inj, Prod.mk.injEq, eq_comm (a := []), eq_comm (a := rest)]
  | cons character rest inductionHypothesis =>
    rw [splitFirst?]
    cases found : stripFront? wanted (character :: rest) with
    | none =>
      rw [isCutAtFirst_cons_iff (stripFront?_eq_none_iff.mp found)]
      simp only [Option.map_eq_some_iff, Prod.exists, Prod.mk.injEq, inductionHypothesis]
      constructor
      · rintro ⟨later, _, cut, rfl, rfl⟩
        exact ⟨later, rfl, cut⟩
      · rintro ⟨later, rfl, cut⟩
        exact ⟨later, behind, cut, rfl, rfl⟩
    | some behindFront =>
      rw [isCutAtFirst_prefix_iff (stripFront?_eq_some_iff.mp found), Option.some_inj,
        Prod.mk.injEq, eq_comm (a := []), eq_comm (a := behindFront)]

theorem splitFirst?_eq_none_iff {wanted text : List Char} :
    splitFirst? wanted text = none ↔ ¬ wanted <:+: text := by
  induction text with
  | nil =>
    rw [splitFirst?, Option.map_eq_none_iff, stripFront?_eq_none_iff, List.prefix_nil,
      List.infix_nil]
  | cons character rest inductionHypothesis =>
    rw [List.infix_cons_iff, not_or, ← inductionHypothesis, ← stripFront?_eq_none_iff,
      splitFirst?]
    cases stripFront? wanted (character :: rest) with
    | none => simp
    | some behind => simp

/-- What is found in a text is found as well when more stands behind it. -/
theorem IsCutAtFirst.append {wanted before : List Char}
    (cut : IsCutAtFirst wanted (before ++ wanted) before []) (behind : List Char) :
    IsCutAtFirst wanted (before ++ wanted ++ behind) before behind := by
  refine ⟨rfl, fun front back same => Nat.le_of_not_lt fun earlier => ?_⟩
  -- An earlier occurrence would end within the text that stood there alone.
  have within : front ++ wanted <+: before ++ wanted := by
    refine List.prefix_of_prefix_length_le ⟨back, same.symm⟩ (List.prefix_append _ _) ?_
    rw [List.length_append, List.length_append]
    omega
  obtain ⟨rest, whole⟩ := within
  exact Nat.not_le_of_lt earlier (cut.first front rest whole.symm)

/-! ### Last occurrences -/

/-- A text falls into what stands before and behind the last occurrence of another one. -/
structure IsCutAtLast (wanted text before behind : List Char) : Prop where
  whole : text = before ++ wanted ++ behind
  last : ∀ front back, text = front ++ wanted ++ back → front.length ≤ before.length

/-- What occurs in the rest of a text is cut there, and only what occurs nowhere in it can be cut
at the very front. -/
theorem isCutAtLast_cons_iff {wanted rest before behind : List Char} {character : Char} :
    IsCutAtLast wanted (character :: rest) before behind ↔
      (∃ later, before = character :: later ∧ IsCutAtLast wanted rest later behind) ∨
        before = [] ∧ character :: rest = wanted ++ behind ∧ ¬ wanted <:+: rest := by
  constructor
  · rintro ⟨whole, last⟩
    cases before with
    | nil =>
      refine .inr ⟨rfl, whole, ?_⟩
      rintro ⟨front, back, same⟩
      exact absurd (last (character :: front) back (congrArg (character :: ·) same.symm))
        (Nat.not_succ_le_zero _)
    | cons head later =>
      obtain ⟨rfl, wholeRest⟩ := List.cons.inj whole
      refine .inl ⟨later, rfl, wholeRest, fun front back same => Nat.le_of_succ_le_succ ?_⟩
      exact last (character :: front) back (congrArg (character :: ·) same)
  · rintro (⟨later, rfl, whole, last⟩ | ⟨rfl, whole, absent⟩)
    · refine ⟨congrArg (character :: ·) whole, fun front back same => ?_⟩
      cases front with
      | nil => exact Nat.zero_le _
      | cons head front => exact Nat.succ_le_succ (last front back (List.cons.inj same).2)
    · refine ⟨whole, fun front back same => ?_⟩
      cases front with
      | nil => exact Nat.le_refl _
      | cons head front => exact absurd ⟨front, back, (List.cons.inj same).2.symm⟩ absent

theorem splitLast?_eq_none_iff {wanted text : List Char} :
    splitLast? wanted text = none ↔ ¬ wanted <:+: text := by
  induction text with
  | nil =>
    rw [splitLast?, Option.map_eq_none_iff, stripFront?_eq_none_iff, List.prefix_nil,
      List.infix_nil]
  | cons character rest inductionHypothesis =>
    rw [List.infix_cons_iff, not_or, ← inductionHypothesis, ← stripFront?_eq_none_iff,
      splitLast?]
    cases splitLast? wanted rest with
    | none => simp
    | some cut => simp

theorem splitLast?_eq_some_iff {wanted text before behind : List Char} :
    splitLast? wanted text = some (before, behind) ↔ IsCutAtLast wanted text before behind := by
  induction text generalizing before behind with
  | nil =>
    rw [splitLast?, Option.map_eq_some_iff]
    simp only [stripFront?_eq_some_iff, Prod.mk.injEq]
    constructor
    · rintro ⟨rest, whole, rfl, rfl⟩
      exact ⟨whole, fun front back same => by simp_all⟩
    · rintro ⟨whole, -⟩
      obtain ⟨rfl, rfl, rfl⟩ : before = [] ∧ wanted = [] ∧ behind = [] := by simpa using whole.symm
      exact ⟨[], rfl, rfl, rfl⟩
  | cons character rest inductionHypothesis =>
    rw [splitLast?, isCutAtLast_cons_iff, ← splitLast?_eq_none_iff]
    cases found : splitLast? wanted rest with
    | none =>
      simp only [← inductionHypothesis, found, Option.map_eq_some_iff, stripFront?_eq_some_iff,
        Prod.mk.injEq]
      constructor
      · rintro ⟨_, whole, rfl, rfl⟩
        exact .inr ⟨rfl, whole, trivial⟩
      · rintro (⟨_, _, impossible⟩ | ⟨rfl, whole, -⟩)
        · cases impossible
        · exact ⟨behind, whole, rfl, rfl⟩
    | some cut =>
      simp only [← inductionHypothesis, found, Option.some_inj, reduceCtorEq, and_false, or_false]
      constructor
      · intro same
        obtain ⟨rfl, rfl⟩ := Prod.mk.inj same
        exact ⟨cut.1, rfl, rfl⟩
      · rintro ⟨later, rfl, rfl⟩
        rfl

/-- What stands in front of a text does not change where it is cut. -/
theorem isCutAtLast_append_iff {wanted front rest before behind : List Char} :
    IsCutAtLast wanted (front ++ rest) (front ++ before) behind ↔
      IsCutAtLast wanted rest before behind := by
  constructor
  · rintro ⟨whole, last⟩
    refine ⟨by simpa using whole, fun other back same => ?_⟩
    have later := last (front ++ other) back (by simp [same])
    simpa using later
  · rintro ⟨rfl, last⟩
    refine ⟨by simp, fun other back same => Nat.le_of_not_lt fun later => ?_⟩
    rw [List.length_append] at later
    -- An occurrence that is later begins behind the front.
    have here : front <+: front ++ (before ++ wanted ++ behind) := List.prefix_append _ _
    have there : other <+: front ++ (before ++ wanted ++ behind) :=
      ⟨wanted ++ back, by rw [same, List.append_assoc]⟩
    obtain ⟨more, rfl⟩ := List.prefix_of_prefix_length_le here there (by omega)
    have notLater := last more back (by simpa using same)
    rw [List.length_append] at later
    omega

/-! ### Marks -/

theorem idxOf_mark {mark : Char} {front : List Char} (absent : mark ∉ front)
    (back : List Char) : List.idxOf mark (front ++ mark :: back) = front.length := by
  rw [List.idxOf_append, if_neg absent, List.idxOf_cons_self, Nat.zero_add]

theorem idxOf_mark_le (mark : Char) (front back : List Char) :
    List.idxOf mark (front ++ mark :: back) ≤ front.length := by
  rw [List.idxOf_append, List.idxOf_cons_self, Nat.zero_add]
  split
  · exact List.idxOf_le_length
  · exact Nat.le_refl _

/-- A text is found at its first mark when the mark does not occur before it. -/
theorem splitFirst?_of_mark {mark : Char} {front back before behind : List Char}
    (notInFront : mark ∉ front) (notBefore : mark ∉ before) :
    splitFirst? (front ++ mark :: back) (before ++ (front ++ mark :: back) ++ behind) =
      some (before, behind) := by
  refine splitFirst?_eq_some_iff.mpr ⟨rfl, fun other rest same => ?_⟩
  have absent : mark ∉ before ++ front := by simp [notBefore, notInFront]
  have here : before ++ (front ++ mark :: back) ++ behind =
      (before ++ front) ++ mark :: (back ++ behind) := by simp
  have there : other ++ (front ++ mark :: back) ++ rest =
      (other ++ front) ++ mark :: (back ++ rest) := by simp
  -- Another occurrence has a mark behind its own front, and the first mark is not behind that.
  have later := idxOf_mark_le mark (other ++ front) (back ++ rest)
  rw [← there, ← same, here, idxOf_mark absent, List.length_append, List.length_append] at later
  exact Nat.le_of_add_le_add_right later

/-- A text is found at its last mark when the mark does not occur behind it. -/
theorem splitLast?_of_mark {mark : Char} {back before behind : List Char}
    (notInBack : mark ∉ back) (notBehind : mark ∉ behind) :
    splitLast? (mark :: back) (before ++ mark :: back ++ behind) = some (before, behind) := by
  have cut : IsCutAtLast (mark :: back) (mark :: back ++ behind) [] behind := by
    refine ⟨rfl, fun front rest same => ?_⟩
    cases front with
    | nil => exact Nat.le_refl _
    | cons head front =>
      have whole : back ++ behind = front ++ mark :: back ++ rest := (List.cons.inj same).2
      have again : mark ∈ back ++ behind := by simp [whole]
      exact absurd again (by simp [notInBack, notBehind])
  have further : IsCutAtLast (mark :: back) (before ++ (mark :: back ++ behind)) (before ++ [])
      behind := isCutAtLast_append_iff.mpr cut
  rw [← List.append_assoc, List.append_nil] at further
  exact splitLast?_eq_some_iff.mpr further

/-! ### First words -/

/-- A text begins with a word: blanks may stand in front of it, it has no blank, and it goes up to
a blank or to the end of the text. -/
structure BeginsWith (word text : List Char) : Prop where
  nonempty : word ≠ []
  solid : ∀ character ∈ word, isBlank character = false
  place : ∃ blanks rest, text = blanks ++ word ++ rest ∧
    (∀ character ∈ blanks, isBlank character = true) ∧
    ∀ next ∈ rest.head?, isBlank next = true

theorem firstWord?_eq (text : List Char) :
    firstWord? text = if text.dropWhile isBlank = [] then none
      else some ((text.dropWhile isBlank).takeWhile (!isBlank ·)) := by
  rw [firstWord?]
  cases text.dropWhile isBlank with
  | nil => rfl
  | cons first rest => rfl

theorem firstWord?_eq_none_iff {text : List Char} :
    firstWord? text = none ↔ ∀ character ∈ text, isBlank character = true := by
  rw [← List.dropWhile_eq_nil_iff, firstWord?_eq]
  simp

/-- What follows the blanks at the front is the word and what begins with the next blank. -/
theorem beginsWith_takeWhile {text : List Char} (begun : text.dropWhile isBlank ≠ []) :
    BeginsWith ((text.dropWhile isBlank).takeWhile (!isBlank ·)) text := by
  refine ⟨?_, fun character member => ?_, text.takeWhile isBlank,
    (text.dropWhile isBlank).dropWhile (!isBlank ·), ?_, fun character member => ?_,
    fun next isNext => ?_⟩
  · obtain ⟨first, rest, found⟩ := List.exists_cons_of_ne_nil begun
    have isFirst : first ∈ (text.dropWhile isBlank).head? := by rw [found]; rfl
    have solid : isBlank first = false := head?_dropWhile_eq_false isFirst
    rw [found, List.takeWhile_cons_of_pos (by simpa using solid)]
    exact List.cons_ne_nil _ _
  · simpa using List.mem_takeWhile_imp member
  · rw [List.append_assoc, List.takeWhile_append_dropWhile, List.takeWhile_append_dropWhile]
  · exact List.mem_takeWhile_imp member
  · simpa using head?_dropWhile_eq_false isNext

theorem firstWord?_eq_some_iff {text word : List Char} :
    firstWord? text = some word ↔ BeginsWith word text := by
  rw [firstWord?_eq]
  constructor
  · intro found
    split at found
    · cases found
    · next begun =>
      obtain rfl := Option.some_inj.mp found
      exact beginsWith_takeWhile begun
  · rintro ⟨nonempty, solid, blanks, rest, rfl, blank, ends⟩
    have front : (blanks ++ word ++ rest).dropWhile isBlank = word ++ rest := by
      rw [List.append_assoc, List.dropWhile_append_of_pos blank]
      refine dropWhile_eq_self_of_head fun first isFirst => solid first ?_
      rw [List.head?_append, List.head?_eq_some_head nonempty] at isFirst
      obtain rfl := Option.some_inj.mp isFirst
      exact List.head_mem nonempty
    have run : (word ++ rest).takeWhile (!isBlank ·) = word := by
      rw [List.takeWhile_append_of_pos (by simpa using solid)]
      cases rest with
      | nil => simp
      | cons next rest => simp [ends next rfl]
    rw [front, run, if_neg (by simp [nonempty])]

/-- All texts have a first word, except those of nothing but blanks. -/
theorem exists_beginsWith_iff {text : List Char} :
    (∃ word, BeginsWith word text) ↔ ∃ character ∈ text, isBlank character = false := by
  simp only [← firstWord?_eq_some_iff, ← Option.ne_none_iff_exists', ne_eq, firstWord?_eq_none_iff,
    not_forall, Bool.not_eq_true, exists_prop]

end ColdStart
