/-
This file cuts texts where they were put together. A text that was joined from lines
falls into these lines again, and a row of columns into its columns, as long as what
stands between them occurs in none of them. Only what comes last may hold anything.
-/

import ColdStart.Proofs.Text.Finding
import ColdStart.Text.Columns
import ColdStart.Text.Fields

namespace ColdStart

/-! ### Fields -/

/-- The fields of a text are what lies between its separators. -/
theorem fieldsAt_eq_splitOn (separator : Char) (text : List Char) :
    fieldsAt separator text = text.splitOn separator := by
  induction text with
  | nil => rfl
  | cons first rest inductionHypothesis =>
    rw [fieldsAt, List.splitOn_cons_eq_if_modifyHead, inductionHypothesis]
    by_cases same : first = separator
    · rw [if_pos same, if_pos (beq_iff_eq.mpr same)]
    · rw [if_neg same, if_neg (by simpa using same)]
      cases fields : rest.splitOn separator with
      | nil => exact absurd fields (List.splitOn_ne_nil _ _)
      | cons field others => rfl

/-- A field has no separator. -/
theorem notMem_of_mem_fieldsAt {separator : Char} {text field : List Char}
    (isField : field ∈ fieldsAt separator text) : separator ∉ field := by
  induction text generalizing field with
  | nil =>
    rw [fieldsAt, List.mem_singleton] at isField
    rw [isField]
    exact List.not_mem_nil
  | cons first rest inductionHypothesis =>
    rw [fieldsAt] at isField
    split at isField
    · rcases List.mem_cons.mp isField with rfl | later
      · exact List.not_mem_nil
      · exact inductionHypothesis later
    · next other =>
      split at isField
      · next begun others fields =>
        rw [fields] at inductionHypothesis
        rcases List.mem_cons.mp isField with rfl | later
        · rw [List.mem_cons]
          exact not_or.mpr ⟨Ne.symm other, inductionHypothesis List.mem_cons_self⟩
        · exact inductionHypothesis (List.mem_cons_of_mem _ later)
      · rw [List.mem_singleton] at isField
        subst isField
        simpa using Ne.symm other

/-! ### Lines -/

/-- The lines of a text. -/
def textLines (text : String) : List String := (text.toList.splitOn '\n').map String.ofList

theorem textLines_joinLines {lines : List String} (someLine : lines ≠ [])
    (single : ∀ line ∈ lines, '\n' ∉ line.toList) : textLines (joinLines lines) = lines := by
  have newline : "\n".toList = ['\n'] := rfl
  rw [textLines, joinLines, String.toList_intercalate, newline,
    List.splitOn_intercalate '\n' (by simpa using single) (by simpa using someLine), List.map_map]
  exact (List.map_congr_left fun line _ => String.ofList_toList).trans (List.map_id _)

/-- A newline ends a line, whatever stands before and behind it. -/
theorem textLines_append (front back : String) :
    textLines (front ++ "\n" ++ back) = textLines front ++ textLines back := by
  have newline : "\n".toList = ['\n'] := rfl
  rw [textLines, String.toList_append, String.toList_append, newline, List.append_assoc,
    List.singleton_append, List.splitOn_append_cons_self, List.map_append]
  rfl

/-- Whole lines at the front of a text are its first lines. -/
theorem textLines_joinLines_append {lines : List String} (someLine : lines ≠ [])
    (single : ∀ line ∈ lines, '\n' ∉ line.toList) (back : String) :
    textLines (joinLines lines ++ "\n" ++ back) = lines ++ textLines back := by
  rw [textLines_append, textLines_joinLines someLine single]

/-- What is joined last gives the last lines, even when the texts before it are not single lines. -/
theorem textLines_joinLines_concat {texts : List String} (someText : texts ≠ []) (last : String) :
    textLines (joinLines (texts ++ [last])) = textLines (joinLines texts) ++ textLines last := by
  rw [joinLines, String.intercalate_append_of_ne_nil someText (List.cons_ne_nil _ _),
    String.intercalate_singleton, textLines_append]
  rfl

/-- A newline at the front ends an empty line. -/
theorem textLines_newline_append (back : String) :
    textLines ("\n" ++ back) = "" :: textLines back :=
  textLines_append "" back

/-- A character of a joined text is one of the texts joined or of what stands between them. -/
theorem mem_intercalate {separator : String} {texts : List String} {character : Char}
    (member : character ∈ (separator.intercalate texts).toList) :
    character ∈ separator.toList ∨ ∃ text ∈ texts, character ∈ text.toList := by
  induction texts with
  | nil =>
    rw [String.intercalate_nil] at member
    cases member
  | cons first rest inductionHypothesis =>
    cases rest with
    | nil =>
      rw [String.intercalate_singleton] at member
      exact .inr ⟨first, List.mem_singleton_self first, member⟩
    | cons second others =>
      rw [String.intercalate_cons_cons, String.toList_append, String.toList_append,
        List.mem_append, List.mem_append] at member
      rcases member with (inFirst | between) | later
      · exact .inr ⟨first, List.mem_cons_self, inFirst⟩
      · exact .inl between
      · rcases inductionHypothesis later with between | ⟨text, isText, inside⟩
        · exact .inl between
        · exact .inr ⟨text, List.mem_cons_of_mem _ isText, inside⟩

/-- What has no mark stands in front of the first piece. -/
theorem splitOn_append_of_notMem {mark : Char} {front : List Char} (absent : mark ∉ front)
    (back : List Char) :
    (front ++ back).splitOn mark = (back.splitOn mark).modifyHead (front ++ ·) := by
  induction front with
  | nil =>
    rw [List.nil_append]
    cases back.splitOn mark with
    | nil => rfl
    | cons first others => rfl
  | cons character rest inductionHypothesis =>
    obtain ⟨notHere, notLater⟩ := not_or.mp (mt List.mem_cons.mpr absent)
    rw [List.cons_append, List.splitOn_cons_eq_if_modifyHead,
      if_neg (by simpa using Ne.symm notHere), inductionHypothesis notLater,
      List.modifyHead_modifyHead]
    rfl

/-! ### Columns -/

/-- The parts of a text between the first separators, so many at most, and what follows them. -/
def splitUpTo (separator : List Char) : (separators : Nat) → List Char → List (List Char)
  | 0, text => [text]
  | separators + 1, text =>
    match splitFirst? separator text with
    | some (before, behind) => before :: splitUpTo separator separators behind
    | none => [text]

/-- The columns of a row are found again, when none but the last has the mark that separators
have. -/
theorem splitUpTo_intercalate {mark : Char} {front : List Char} (notInFront : mark ∉ front)
    (back : List Char) {columns : List (List Char)} (clean : ∀ column ∈ columns, mark ∉ column)
    (last : List Char) :
    splitUpTo (front ++ mark :: back) columns.length
      ((front ++ mark :: back).intercalate (columns ++ [last])) = columns ++ [last] := by
  induction columns with
  | nil => simp [splitUpTo]
  | cons column rest inductionHypothesis =>
    obtain ⟨cleanColumn, cleanRest⟩ := List.forall_mem_cons.mp clean
    have joined : (front ++ mark :: back).intercalate (column :: rest ++ [last]) =
        column ++ (front ++ mark :: back) ++
          (front ++ mark :: back).intercalate (rest ++ [last]) := by
      cases rest with
      | nil => simp [List.intercalate_cons_cons]
      | cons second others => simp [List.intercalate_cons_cons]
    rw [joined, List.length_cons, splitUpTo, splitFirst?_of_mark notInFront cleanColumn]
    exact congrArg (column :: ·) (inductionHypothesis cleanRest)

end ColdStart
