/-
This file shows what trimming leaves of a text. What is dropped stands at the two ends,
and what is left is cut off as tightly as can be, so it is settled by these two facts.
-/

import ColdStart.Text.Blank
import Mathlib.Data.List.TakeWhile

namespace ColdStart

theorem dropWhile_eq_self_of_head {drop : Char → Bool} {characters : List Char}
    (head : ∀ first ∈ characters.head?, drop first = false) :
    characters.dropWhile drop = characters := by
  cases characters with
  | nil => rfl
  | cons first rest => rw [List.dropWhile_cons_of_neg (by simp [head first rfl])]

/-- Trimming removes what satisfies the test at both ends, up to the first characters that do
not. -/
theorem trimWhere_append {drop : Char → Bool} {before core after : List Char}
    (dropBefore : ∀ character ∈ before, drop character = true)
    (dropAfter : ∀ character ∈ after, drop character = true)
    (head : ∀ first ∈ core.head?, drop first = false)
    (last : ∀ final ∈ core.getLast?, drop final = false) :
    trimWhere drop (before ++ core ++ after) = core := by
  cases core with
  | nil =>
    have all : ∀ character ∈ before ++ after, drop character = true := fun character member =>
      (List.mem_append.mp member).elim (dropBefore character) (dropAfter character)
    rw [List.append_nil, trimWhere, List.dropWhile_eq_nil_iff.mpr all]
    rfl
  | cons first rest =>
    have front : (before ++ (first :: rest) ++ after).dropWhile drop = first :: rest ++ after := by
      rw [List.append_assoc, List.dropWhile_append_of_pos dropBefore]
      exact dropWhile_eq_self_of_head fun other member => head other (by simpa using member)
    have dropReversed : ∀ character ∈ after.reverse, drop character = true :=
      fun character member => dropAfter character (List.mem_reverse.mp member)
    rw [trimWhere, front, List.reverse_append, List.dropWhile_append_of_pos dropReversed,
      dropWhile_eq_self_of_head, List.reverse_reverse]
    intro final member
    rw [List.head?_reverse] at member
    exact last final member

/-- What neither begins nor ends with what satisfies the test is left whole. -/
theorem trimWhere_eq_self {drop : Char → Bool} {core : List Char}
    (head : ∀ first ∈ core.head?, drop first = false)
    (last : ∀ final ∈ core.getLast?, drop final = false) : trimWhere drop core = core := by
  have bare : trimWhere drop ([] ++ core ++ []) = core :=
    trimWhere_append (by simp) (by simp) head last
  simpa using bare

theorem head?_dropWhile_eq_false {drop : Char → Bool} {characters : List Char} {first : Char}
    (isFirst : first ∈ (characters.dropWhile drop).head?) : drop first = false := by
  simpa [Option.mem_def.mp isFirst] using List.head?_dropWhile_not drop characters

/-- Trimming only cuts off what satisfies the test, and all of it at both ends. -/
theorem exists_eq_append_trimWhere (drop : Char → Bool) (characters : List Char) :
    ∃ before after, characters = before ++ trimWhere drop characters ++ after ∧
      (∀ character ∈ before, drop character = true) ∧
      (∀ character ∈ after, drop character = true) ∧
      (∀ first ∈ (trimWhere drop characters).head?, drop first = false) ∧
      ∀ final ∈ (trimWhere drop characters).getLast?, drop final = false := by
  have back : characters.dropWhile drop = trimWhere drop characters ++
      ((characters.dropWhile drop).reverse.takeWhile drop).reverse := by
    rw [trimWhere, ← List.reverse_append, List.takeWhile_append_dropWhile, List.reverse_reverse]
  refine ⟨characters.takeWhile drop,
    ((characters.dropWhile drop).reverse.takeWhile drop).reverse, ?_, ?_, ?_, ?_, ?_⟩
  · rw [List.append_assoc, ← back, List.takeWhile_append_dropWhile]
  · exact fun character member => List.mem_takeWhile_imp member
  · exact fun character member => List.mem_takeWhile_imp (List.mem_reverse.mp member)
  · -- What is left begins like the text without what was cut off in front of it.
    intro first isFirst
    have begins : first ∈ (characters.dropWhile drop).head? := by
      rw [back, List.head?_append, Option.mem_def.mp isFirst]
      rfl
    exact head?_dropWhile_eq_false begins
  · intro final isLast
    rw [trimWhere, List.getLast?_reverse] at isLast
    exact head?_dropWhile_eq_false isLast

end ColdStart
