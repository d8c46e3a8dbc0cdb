/-
This file shows how written markup is cut into tokens: opening tags with at most
one attribute, closing tags, and escaped text. Each is a stretch of characters
that leads the cutter from text back to text and leaves its tokens behind
whatever was read before, so stretches can be put one behind the other.
-/

import ColdStart.Text.Escape
import ColdStart.Xml.Token
import Mathlib.Data.List.Basic
import Mathlib.Data.List.TakeWhile

namespace ColdStart

namespace XmlState

/-! ### Runs of the cutter -/

/-- Cutting two stretches is cutting the second from where the first one leads. -/
theorem run_append (state : XmlState) (earlier : List XmlToken) (front back : List Char) :
    run state earlier (front ++ back) =
      (run state earlier front).bind fun reached => run reached.1 reached.2 back := by
  induction front generalizing state earlier with
  | nil => rfl
  | cons character rest inductionHypothesis =>
    rw [List.cons_append, run, run]
    cases step state character with
    | none => rfl
    | some reached => exact inductionHypothesis reached.1 _

theorem run_cons {state next : XmlState} {character : Char} {tokens : List XmlToken}
    (stepped : step state character = some (next, tokens)) (earlier : List XmlToken)
    (rest : List Char) :
    run state earlier (character :: rest) = run next (tokens.reverse ++ earlier) rest := by
  rw [run, stepped]
  simp

/-- Characters that are only collected are all collected. -/
theorem run_collect (collecting : List Char → XmlState) {characters : List Char}
    (collects : ∀ reading, ∀ character ∈ characters,
      step (collecting reading) character = some (collecting (character :: reading), []))
    (reading : List Char) (earlier : List XmlToken) (rest : List Char) :
    run (collecting reading) earlier (characters ++ rest) =
      run (collecting (characters.reverse ++ reading)) earlier rest := by
  induction characters generalizing reading with
  | nil => rfl
  | cons first others inductionHypothesis =>
    rw [List.cons_append, run_cons (collects reading first List.mem_cons_self), List.reverse_nil,
      List.nil_append, inductionHypothesis fun reading character member =>
        collects reading character (List.mem_cons_of_mem _ member)]
    simp

end XmlState

/-- Characters that are cut into tokens where text stands, and behind which text goes on. -/
def CutsInto (characters : List Char) (tokens : List XmlToken) : Prop :=
  ∀ brackets earlier, ∃ after, XmlState.run (.text brackets) earlier characters =
    some (.text after, tokens.reverse ++ earlier)

theorem cutsInto_nil : CutsInto [] [] := fun brackets _ => ⟨brackets, rfl⟩

theorem CutsInto.append {front back : List Char} {tokens others : List XmlToken}
    (first : CutsInto front tokens) (second : CutsInto back others) :
    CutsInto (front ++ back) (tokens ++ others) := by
  intro brackets earlier
  obtain ⟨between, reached⟩ := first brackets earlier
  obtain ⟨after, ended⟩ := second between (tokens.reverse ++ earlier)
  refine ⟨after, ?_⟩
  rw [XmlState.run_append, reached, Option.bind_some, ended]
  simp

/-! ### Names -/

/-- No character of a name ends it. -/
theorem separate_of_namePart {character : Char}
    (part : isXmlNamePart character = true ∨ isXmlNameStart character = true) :
    isXmlSpace character = false ∧ character ≠ '>' ∧ character ≠ '/' ∧ character ≠ '=' ∧
      character ≠ ':' := by
  have differs : ∀ other ∈ [' ', '\t', '\n', '\r', '>', '/', '=', ':'], character ≠ other := by
    rintro other member rfl
    simp only [List.mem_cons, List.not_mem_nil, or_false] at member
    rcases member with rfl | rfl | rfl | rfl | rfl | rfl | rfl | rfl
    all_goals exact absurd part (by decide)
  simp only [List.mem_cons, List.not_mem_nil, or_false, forall_eq_or_imp, forall_eq] at differs
  obtain ⟨space, tab, newline, carriage, close, slash, equals, colon⟩ := differs
  refine ⟨?_, close, slash, equals, colon⟩
  simp [isXmlSpace, space, tab, newline, carriage]

theorem localName_cases {name : List Char} (isName : isXmlLocalName name) :
    ∃ first rest, name = first :: rest ∧ isXmlNameStart first = true ∧
      ∀ character ∈ rest, isXmlNamePart character = true := by
  cases name with
  | nil => cases isName
  | cons first rest =>
    rw [isXmlLocalName, Bool.and_eq_true, List.all_eq_true] at isName
    exact ⟨first, rest, rfl, isName⟩

theorem separate_of_mem_localName {name : List Char} (isName : isXmlLocalName name)
    {character : Char} (member : character ∈ name) :
    isXmlSpace character = false ∧ character ≠ '>' ∧ character ≠ '/' ∧ character ≠ '=' ∧
      character ≠ ':' := by
  obtain ⟨first, rest, rfl, start, parts⟩ := localName_cases isName
  rcases List.mem_cons.mp member with rfl | later
  · exact separate_of_namePart (.inr start)
  · exact separate_of_namePart (.inl (parts character later))

/-- A local name has no colon to be split at. -/
theorem splitColon_localName {name : List Char} (isName : isXmlLocalName name) :
    splitColon name = (none, name) := by
  have none_dropped : name.dropWhile (· != ':') = [] := by
    rw [List.dropWhile_eq_nil_iff]
    intro character member
    obtain ⟨-, -, -, -, colon⟩ := separate_of_mem_localName isName member
    simpa using colon
  rw [splitColon, none_dropped]

theorem isXmlName_localName {name : List Char} (isName : isXmlLocalName name) :
    isXmlName name = true := by
  rw [isXmlName, splitColon_localName isName]
  exact isName

namespace XmlState

/-! ### Closing tags -/

theorem cutsInto_closing {name : List Char} (isName : isXmlLocalName name) :
    CutsInto ('<' :: '/' :: name ++ ['>']) [.closing name] := by
  intro brackets earlier
  have begins : step (text brackets) '<' = some (markup, []) := rfl
  have closes : step markup '/' = some (closeName [], []) := rfl
  have collects : ∀ reading, ∀ character ∈ name,
      step (closeName reading) character = some (closeName (character :: reading), []) := by
    intro reading character member
    obtain ⟨space, close, -⟩ := separate_of_mem_localName isName member
    simp [step, close, space]
  have ends : step (closeName (name.reverse ++ [])) '>' =
      some (behindTag, [.closing (name.reverse ++ []).reverse]) := rfl
  refine ⟨0, ?_⟩
  rw [List.cons_append, List.cons_append, run_cons begins, run_cons closes,
    run_collect closeName collects, run_cons ends]
  simp [run, behindTag]

/-! ### Opening tags -/

/-- The name of an opening tag is read up to the first character behind it. -/
theorem run_openName {name : List Char} (isName : isXmlLocalName name) (brackets : Nat)
    (earlier : List XmlToken) (rest : List Char) :
    run (text brackets) earlier ('<' :: name ++ rest) =
      run (openName name.reverse) earlier rest := by
  obtain ⟨first, others, rfl, start, parts⟩ := localName_cases isName
  obtain ⟨-, -, slash, -⟩ := separate_of_namePart (.inr start)
  have begins : step (text brackets) '<' = some (markup, []) := rfl
  have named : step markup first = some (openName [first], []) := by
    have bang : first ≠ '!' := by rintro rfl; exact absurd start (by decide)
    have question : first ≠ '?' := by rintro rfl; exact absurd start (by decide)
    simp [step, bang, question, slash, start]
  have collects : ∀ reading, ∀ character ∈ others,
      step (openName reading) character = some (openName (character :: reading), []) := by
    intro reading character member
    obtain ⟨space, close, solidus, -⟩ := separate_of_namePart (.inl (parts character member))
    simp [step, space, close, solidus]
  rw [List.cons_append, run_cons begins, List.cons_append, run_cons named,
    run_collect openName collects]
  simp

theorem cutsInto_opening {name : List Char} (isName : isXmlLocalName name) :
    CutsInto ('<' :: name ++ ['>']) [.opening name []] := by
  intro brackets earlier
  have ends : step (openName name.reverse) '>' = some (behindTag, [.opening name []]) := by
    simp [step, continueTag, isXmlName_localName isName, isXmlSpace]
  refine ⟨0, ?_⟩
  rw [run_openName isName, run_cons ends]
  rfl

/-- Characters that are read as the value of an attribute, its quotes included. -/
def ReadsValue (characters value : List Char) : Prop :=
  ∀ tag name earlier rest, run (beforeValue tag name) earlier (characters ++ rest) =
    run (inTag (tag.push ⟨name, value⟩) false) earlier rest

theorem cutsInto_openingWith {name key characters value : List Char}
    (isName : isXmlLocalName name) (isKey : isXmlLocalName key)
    (reads : ReadsValue characters value) :
    CutsInto ('<' :: name ++ (' ' :: (key ++ ('=' :: (characters ++ ['>'])))))
      [.opening name [⟨key, value⟩]] := by
  intro brackets earlier
  obtain ⟨first, others, rfl, start, parts⟩ := localName_cases isKey
  obtain ⟨space, close, slash, -⟩ := separate_of_namePart (.inr start)
  have spaced : step (openName name.reverse) ' ' = some (inTag { name } true, []) := by
    simp [step, continueTag, isXmlName_localName isName, isXmlSpace]
  have begins : step (inTag { name } true) first =
      some (attributeName { name } [first], []) := by
    simp [step, continueTag, space, close, slash, start]
  have collects : ∀ reading, ∀ character ∈ others, step (attributeName { name } reading) character =
      some (attributeName { name } (character :: reading), []) := by
    intro reading character member
    obtain ⟨blank, -, -, equals, -⟩ := separate_of_namePart (.inl (parts character member))
    simp [step, blank, equals]
  have equals : step (attributeName { name } (others.reverse ++ [first])) '=' =
      some (beforeValue { name } (first :: others), []) := by
    simp [step, isXmlName_localName isKey]
  have ends : step (inTag (XmlTag.push { name } ⟨first :: others, value⟩) false) '>' =
      some (behindTag, [.opening name [⟨first :: others, value⟩]]) := by
    simp [step, continueTag, isXmlSpace, XmlTag.push]
  refine ⟨0, ?_⟩
  rw [run_openName isName, run_cons spaced, List.cons_append, run_cons begins,
    run_collect (attributeName { name }) collects, run_cons equals, reads, run_cons ends]
  simp [run, behindTag]

end XmlState

end ColdStart
