/-
This file shows that escaping is undone. What stands for a character is a
reference, and the cutter resolves it to that character; a character that nothing
stands for is one that the cutter takes as it is. So escaped text is cut into the
characters of the text, and a quoted value is read as the value, blanks included.
-/

import ColdStart.Proofs.Xml.Cutting
import Mathlib.Data.Bool.AllAny

namespace ColdStart

/-! ### Characters that last -/

/-- A character lasts when a document may hold it and reading does not change it: a carriage
return would be read as a newline. -/
def Lasts (character : Char) : Prop := isXmlChar character = true ∧ character ≠ '\r'

instance (character : Char) : Decidable (Lasts character) :=
  inferInstanceAs (Decidable (_ ∧ _))

/-- A character of a set lies in one of its ranges. -/
theorem CodeRanges.exists_of_contains (ranges : CodeRanges) (code : Nat)
    (contained : ranges.contains code = true) :
    ∃ range ∈ ranges, range.1 ≤ code ∧ code ≤ range.2 := by
  induction ranges with
  | nil => cases contained
  | cons range rest inductionHypothesis =>
    rw [CodeRanges.contains] at contained
    by_cases below : code < range.1
    · rw [if_pos below] at contained
      cases contained
    · rw [if_neg below] at contained
      by_cases inside : code ≤ range.2
      · exact ⟨range, List.mem_cons_self, not_lt.mp below, inside⟩
      · rw [if_neg inside] at contained
        obtain ⟨other, member, bounds⟩ := inductionHypothesis contained
        exact ⟨other, List.mem_cons_of_mem _ member, bounds⟩

theorem lasts_of_code {character : Char} (above : 0x20 ≤ character.toNat)
    (below : character.toNat ≤ 0xd7ff) : Lasts character := by
  constructor
  · simp [isXmlChar, isXmlCode, above, below]
  · rintro rfl
    exact absurd above (by decide)

theorem lasts_of_namePart {character : Char}
    (part : isXmlNamePart character = true ∨ isXmlNameStart character = true) :
    Lasts character := by
  have bounds : ∃ range ∈ xmlNamePartRanges ++ xmlNameStartRanges,
      range.1 ≤ character.toNat ∧ character.toNat ≤ range.2 := by
    rcases part with part | start
    · obtain ⟨range, member, bounds⟩ := CodeRanges.exists_of_contains _ _ part
      exact ⟨range, List.mem_append_left _ member, bounds⟩
    · obtain ⟨range, member, bounds⟩ := CodeRanges.exists_of_contains _ _ start
      exact ⟨range, List.mem_append_right _ member, bounds⟩
  have legal : ∀ range ∈ xmlNamePartRanges ++ xmlNameStartRanges,
      0x20 ≤ range.1 ∧ range.2 ≤ 0xd7ff := by decide +kernel
  obtain ⟨range, member, low, high⟩ := bounds
  exact lasts_of_code ((legal range member).1.trans low) (high.trans (legal range member).2)

theorem lasts_of_mem_localName {name : List Char} (isName : isXmlLocalName name)
    {character : Char} (member : character ∈ name) : Lasts character := by
  obtain ⟨first, rest, rfl, start, parts⟩ := localName_cases isName
  rcases List.mem_cons.mp member with rfl | later
  · exact lasts_of_namePart (.inr start)
  · exact lasts_of_namePart (.inl (parts character later))

/-! ### References -/

/-- Characters that are a reference to a character. -/
structure IsReference (characters : List Char) (character : Char) : Prop where
  reads : ∃ inner, characters = '&' :: inner ++ [';'] ∧ ';' ∉ inner ∧
    resolveReference? inner = some character
  lasting : ∀ written ∈ characters, Lasts written

/-- What stands for a character of text is a reference to it. -/
theorem isReference_of_contentEscape {character : Char} {replacement : String}
    (escaped : contentEscape? character = some replacement) :
    IsReference replacement.toList character := by
  rw [contentEscape?.eq_def] at escaped
  split at escaped
  · cases escaped
    exact ⟨⟨"amp".toList, by decide⟩, List.all_iff_forall_prop.mp (by decide)⟩
  · cases escaped
    exact ⟨⟨"lt".toList, by decide⟩, List.all_iff_forall_prop.mp (by decide)⟩
  · cases escaped
    exact ⟨⟨"gt".toList, by decide⟩, List.all_iff_forall_prop.mp (by decide)⟩
  · cases escaped

/-- What stands for a character of an attribute value is a reference to it. -/
theorem isReference_of_attributeEscape {hideDouble : Bool} {character : Char}
    {replacement : String} (escaped : attributeEscape? hideDouble character = some replacement) :
    IsReference replacement.toList character := by
  rw [attributeEscape?.eq_def] at escaped
  split at escaped
  · cases escaped
    exact ⟨⟨"#10".toList, by decide⟩, List.all_iff_forall_prop.mp (by decide)⟩
  · cases escaped
    exact ⟨⟨"#13".toList, by decide⟩, List.all_iff_forall_prop.mp (by decide)⟩
  · cases escaped
    exact ⟨⟨"#9".toList, by decide⟩, List.all_iff_forall_prop.mp (by decide)⟩
  · cases hideDouble with
    | false => cases escaped
    | true =>
      cases escaped
      exact ⟨⟨"quot".toList, by decide⟩, List.all_iff_forall_prop.mp (by decide)⟩
  · exact isReference_of_contentEscape escaped

/-- A character that nothing stands for in text is none that markup is made of. -/
theorem ne_of_contentEscape {character : Char} (unescaped : contentEscape? character = none) :
    character ≠ '<' ∧ character ≠ '&' ∧ character ≠ '>' := by
  refine ⟨?_, ?_, ?_⟩ <;> rintro rfl <;> cases unescaped

/-- A character that nothing stands for in an attribute value is no line end and no tab either. -/
theorem ne_of_attributeEscape {hideDouble : Bool} {character : Char}
    (unescaped : attributeEscape? hideDouble character = none) :
    character ≠ '<' ∧ character ≠ '&' ∧ (isXmlSpace character = true → character = ' ') ∧
      (hideDouble = true → character ≠ '"') := by
  refine ⟨?_, ?_, fun space => ?_, ?_⟩
  · rintro rfl
    cases unescaped
  · rintro rfl
    cases unescaped
  · simp only [isXmlSpace, Bool.or_eq_true, decide_eq_true_eq] at space
    rcases space with ((blank | rfl) | rfl) | rfl
    · exact blank
    all_goals cases unescaped
  · rintro rfl rfl
    cases unescaped

/-- What is written for a character. -/
def writtenAs (replacement? : Char → Option String) (character : Char) : List Char :=
  ((replacement? character).map String.toList).getD [character]

theorem toList_escapeWith (replacement? : Char → Option String) (text : String) :
    (escapeWith replacement? text).toList = text.toList.flatMap (writtenAs replacement?) := by
  rw [escapeWith, String.toList_ofList]
  congr 1
  funext character
  rw [writtenAs]
  cases replacement? character <;> rfl

/-! ### Text -/

/-- A character that markup is not made of stands for itself. -/
theorem cutsInto_plain {character : Char}
    (plain : character ≠ '<' ∧ character ≠ '&' ∧ character ≠ '>') :
    CutsInto [character] [.plain character] := by
  obtain ⟨less, ampersand, greater⟩ := plain
  intro brackets earlier
  by_cases bracket : character = ']'
  · exact ⟨min (brackets + 1) 2, by simp [XmlState.run, XmlState.step, bracket]⟩
  · exact ⟨0, by simp [XmlState.run, XmlState.step, less, ampersand, greater, bracket]⟩

theorem cutsInto_reference {characters : List Char} {character : Char}
    (isReference : IsReference characters character) :
    CutsInto characters [.resolved [character]] := by
  obtain ⟨inner, rfl, unended, resolves⟩ := isReference.reads
  intro brackets earlier
  have begins : XmlState.step (.text brackets) '&' = some (.reference [], []) := rfl
  have collects : ∀ reading, ∀ written ∈ inner,
      XmlState.step (.reference reading) written = some (.reference (written :: reading), []) := by
    intro reading written member
    have continues : written ≠ ';' := fun same => unended (same ▸ member)
    simp [XmlState.step, continues]
  have ends : XmlState.step (.reference inner.reverse) ';' =
      some (.text 0, [.resolved [character]]) := by
    simp [XmlState.step, resolves]
  refine ⟨0, ?_⟩
  rw [List.cons_append, XmlState.run_cons begins, XmlState.run_collect .reference collects,
    List.append_nil, XmlState.run_cons ends]
  rfl

/-! ### Attribute values -/

/-- Where a value is read, escaped characters are collected as what they stand for. -/
theorem run_escapedValue (tag : XmlTag) (name : List Char) {quote : Char} {hideDouble : Bool}
    (text : List Char)
    (unquoted : ∀ character ∈ text, attributeEscape? hideDouble character = none →
      character ≠ quote)
    (notAmpersand : quote ≠ '&') (reading : List Char) (earlier : List XmlToken)
    (rest : List Char) :
    XmlState.run (.value tag name quote reading) earlier
        (text.flatMap (writtenAs (attributeEscape? hideDouble)) ++ rest) =
      XmlState.run (.value tag name quote (text.reverse ++ reading)) earlier rest := by
  induction text generalizing reading with
  | nil => rfl
  | cons character others inductionHypothesis =>
    have later := inductionHypothesis
      (fun other member => unquoted other (List.mem_cons_of_mem _ member)) (character :: reading)
    rw [List.reverse_cons, List.append_assoc, List.singleton_append, ← later, List.flatMap_cons,
      List.append_assoc, writtenAs]
    cases escaped : attributeEscape? hideDouble character with
    | none =>
      rw [Option.map_none, Option.getD_none, List.singleton_append]
      obtain ⟨less, ampersand, space, -⟩ := ne_of_attributeEscape escaped
      have different := unquoted character List.mem_cons_self escaped
      have collects : XmlState.step (.value tag name quote reading) character =
          some (.value tag name quote (character :: reading), []) := by
        by_cases blank : character = ' '
        · subst blank
          simp [XmlState.step, different, isXmlSpace]
        · have unspaced : isXmlSpace character = false :=
            Bool.eq_false_iff.mpr fun spaced => blank (space spaced)
          simp [XmlState.step, different, less, ampersand, unspaced]
      rw [XmlState.run_cons collects]
      rfl
    | some replacement =>
      obtain ⟨inner, written, unended, resolves⟩ := (isReference_of_attributeEscape escaped).reads
      -- The whole reference is read, and leaves one character.
      have begins : XmlState.step (.value tag name quote reading) '&' =
          some (.valueReference tag name quote reading [], []) := by
        simp [XmlState.step, notAmpersand.symm]
      have collects : ∀ read, ∀ part ∈ inner,
          XmlState.step (.valueReference tag name quote reading read) part =
            some (.valueReference tag name quote reading (part :: read), []) := by
        intro read part member
        have continues : part ≠ ';' := fun same => unended (same ▸ member)
        simp [XmlState.step, continues]
      have ends : XmlState.step (.valueReference tag name quote reading inner.reverse) ';' =
          some (.value tag name quote (character :: reading), []) := by
        simp [XmlState.step, resolves]
      rw [Option.map_some, Option.getD_some, written]
      rw [List.cons_append, List.cons_append, XmlState.run_cons begins, List.append_assoc,
        XmlState.run_collect (.valueReference tag name quote reading) collects, List.append_nil,
        List.singleton_append, XmlState.run_cons ends]
      rfl

/-- A value that is escaped for its quotes is read back. -/
theorem readsValue_quoted {quote : Char} (isQuote : quote = '"' ∨ quote = '\'')
    {hideDouble : Bool} (text : String)
    (unquoted : ∀ character ∈ text.toList, attributeEscape? hideDouble character = none →
      character ≠ quote) :
    XmlState.ReadsValue
      (quote :: (escapeWith (attributeEscape? hideDouble) text).toList ++ [quote])
      text.toList := by
  intro tag name earlier rest
  have begins : XmlState.step (.beforeValue tag name) quote =
      some (.value tag name quote [], []) := by
    rcases isQuote with rfl | rfl <;> rfl
  have ends : XmlState.step (.value tag name quote text.toList.reverse) quote =
      some (.inTag (tag.push ⟨name, text.toList⟩) false, []) := by
    simp [XmlState.step]
  have notAmpersand : quote ≠ '&' := by
    rcases isQuote with rfl | rfl <;> decide
  rw [toList_escapeWith, List.cons_append, List.cons_append, XmlState.run_cons begins,
    List.append_assoc, run_escapedValue tag name text.toList unquoted notAmpersand, List.append_nil,
    List.singleton_append, XmlState.run_cons ends]
  rfl

/-- A quoted value is made of characters that last, also when the value is not. -/
theorem lasting_quoteAttribute {text : String}
    (allowed : ∀ character ∈ text.toList, isXmlChar character = true) :
    ∀ written ∈ (quoteAttribute text).toList, Lasts written := by
  have lasting : ∀ hideDouble, ∀ written ∈ (escapeWith (attributeEscape? hideDouble) text).toList,
      Lasts written := by
    intro hideDouble written member
    rw [toList_escapeWith, List.mem_flatMap] at member
    obtain ⟨character, inText, inWritten⟩ := member
    rw [writtenAs] at inWritten
    cases escaped : attributeEscape? hideDouble character with
    | none =>
      rw [escaped, Option.map_none, Option.getD_none, List.mem_singleton] at inWritten
      subst inWritten
      refine ⟨allowed written inText, ?_⟩
      rintro rfl
      cases escaped
    | some replacement =>
      rw [escaped, Option.map_some, Option.getD_some] at inWritten
      exact (isReference_of_attributeEscape escaped).lasting written inWritten
  intro written member
  rw [quoteAttribute] at member
  split at member
  all_goals
    rw [String.toList_append, String.toList_append, List.mem_append, List.mem_append] at member
    rcases member with (front | inside) | back
    · rw [List.mem_singleton.mp front]
      decide
    · exact lasting _ written inside
    · rw [List.mem_singleton.mp back]
      decide

/-- A value without anything to hide is put between double quotes as it is. -/
theorem quoteAttribute_plain {text : String}
    (plain : ∀ character ∈ text.toList, attributeEscape? false character = none ∧
      character ≠ '"') :
    quoteAttribute text = "\"" ++ text ++ "\"" := by
  have noDouble : text.toList.contains '"' = false := by
    rw [Bool.eq_false_iff, ne_eq, List.contains_iff_mem]
    exact fun member => (plain '"' member).2 rfl
  have unchanged : escapeWith (attributeEscape? false) text = text := by
    rw [← String.toList_inj, toList_escapeWith]
    have each : ∀ character ∈ text.toList,
        writtenAs (attributeEscape? false) character = [character] := by
      intro character member
      rw [writtenAs, (plain character member).1]
      rfl
    rw [List.flatMap_congr each, List.flatMap_singleton']
  rw [quoteAttribute, noDouble]
  simp only [Bool.false_and, Bool.false_eq_true, if_false, unchanged]

/-- Whichever quotes an attribute value is given, it is read back. -/
theorem readsValue_quoteAttribute (text : String) :
    XmlState.ReadsValue (quoteAttribute text).toList text.toList := by
  rw [quoteAttribute]
  simp only [Bool.and_eq_true, Bool.not_eq_true']
  split
  · next quotes =>
    -- Single quotes are only taken for a value that has none.
    rw [String.toList_append, String.toList_append]
    refine readsValue_quoted (.inr rfl) text fun character member _ => ?_
    rintro rfl
    rw [List.contains_iff_mem.mpr member] at quotes
    cases quotes.2
  · rw [String.toList_append, String.toList_append]
    refine readsValue_quoted (.inl rfl) text fun character member unescaped => ?_
    rintro rfl
    obtain ⟨-, -, -, hidden⟩ := ne_of_attributeEscape unescaped
    exact hidden (List.contains_iff_mem.mpr member) rfl

end ColdStart
