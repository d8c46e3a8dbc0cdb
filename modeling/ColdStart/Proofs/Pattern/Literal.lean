/-
This file shows what plain text means as a pattern. The reader takes each character that
has no meaning of its own as an item which matches that character alone, so plain text is
read as the sequence of its characters. Run from a place of a name, the sequence goes on
exactly where these characters stand. So plain text occurs in a name as a pattern exactly
when the name contains it.
-/

import ColdStart.Pattern.Matcher
import ColdStart.Pattern.Parser
import Mathlib.Data.List.Infix

namespace ColdStart

open PatternReader

/-! ### Plain text -/

/-- The characters that have a meaning of their own in patterns. -/
def patternMarks : List Char :=
  ['.', '^', '$', '*', '+', '?', '\x7b', '\x7d', '[', ']', '\\', '|', '(', ')']

/-- The text has no character with a meaning of its own. -/
def IsPlainText (text : List Char) : Prop := ∀ character ∈ text, character ∉ patternMarks

instance (text : List Char) : Decidable (IsPlainText text) := List.decidableBAll _ text

/-- The pattern that matches the characters one after the other. -/
def Pattern.literal (text : List Char) : Pattern :=
  .sequence (text.map fun character => .one (.single character))

/-! ### Steps of the reader -/

namespace PatternReader

/-- A step that gives a result is followed by what is done with it. -/
theorem bind_of_ok {Result Next : Type} {first : PatternReader Result}
    {source after : PatternSource} {result : Result} (given : first source = .ok (result, after))
    (next : Result → PatternReader Next) : (first >>= next) source = next result after := by
  have bound : (first >>= next) source =
      (first source >>= fun (result, after) => next result after) := rfl
  rw [bound, given]
  rfl

/-- The next token is no lone backslash. -/
def IsSound (source : PatternSource) : Prop :=
  ∀ token ∈ source.rest.head?, token.text ≠ ['\\']

theorem refuseDangling_of_isSound {source : PatternSource} (sound : IsSound source) :
    refuseDangling source = .ok ((), source) := by
  have given : (get : PatternReader PatternSource) source = .ok (source, source) := rfl
  rw [refuseDangling, bind_of_ok given]
  obtain ⟨_ | ⟨⟨text, place⟩, others⟩, finish⟩ := source
  · rfl
  · have other : text ≠ ['\\'] := sound ⟨text, place⟩ rfl
    simp only [List.cons.injEq, PatternToken.mk.injEq, other, false_and, imp_self, implies_true]
    rfl

theorem read?_cons {token : PatternToken} {rest : List PatternToken} {finish : Nat}
    (sound : IsSound ⟨rest, finish⟩) :
    read? ⟨token :: rest, finish⟩ = .ok (some token.text, ⟨rest, finish⟩) := by
  have reading : read? ⟨token :: rest, finish⟩ =
      (refuseDangling >>= fun _ => return some token.text) ⟨rest, finish⟩ := rfl
  rw [reading, bind_of_ok (refuseDangling_of_isSound sound)]
  rfl

theorem discard_of_ok {Result : Type} {reader : PatternReader Result}
    {source after : PatternSource} {result : Result} (given : reader source = .ok (result, after)) :
    (discard reader) source = .ok ((), after) := by
  have discarded : (discard reader) source =
      (reader source >>= fun (_, after) => .ok ((), after)) := rfl
  rw [discarded, given]
  rfl

section Loop

variable {State Result : Type} {step : State → PatternReader (State ⊕ Result)} {state : State}
  {source after : PatternSource}

theorem loop_of_result {result : Result} (given : step state source = .ok (.inr result, after)) :
    loop step state source = .ok (result, after) := by
  rw [loop, given]

theorem loop_of_next {next : State} (given : step state source = .ok (.inl next, after))
    (shorter : after.rest.length < source.rest.length) :
    loop step state source = loop step next after := by
  rw [loop, given]
  exact if_pos shorter

end Loop

end PatternReader

/-! ### Tokens of plain text -/

theorem patternTokens_cons {character : Char} (plain : character ∉ patternMarks)
    (rest : List Char) (position : Nat) : patternTokens (character :: rest) position =
      ⟨[character], position⟩ :: patternTokens rest (position + 1) := by
  have noEscape : character ≠ '\\' := (ne_of_mem_of_not_mem (by decide) plain).symm
  simp [patternTokens, noEscape]

/-- Plain text never ends in a lone backslash. -/
theorem isSound_patternTokens {text : List Char} (plain : IsPlainText text)
    (position finish : Nat) : IsSound ⟨patternTokens text position, finish⟩ := by
  cases text with
  | nil => exact fun token impossible => by cases impossible
  | cons character rest =>
    have here := plain character List.mem_cons_self
    rw [IsSound, patternTokens_cons here]
    rintro token ⟨⟩ dangling
    exact ne_of_mem_of_not_mem (by decide) here (List.cons.inj dangling).1.symm

/-! ### Reading plain text -/

variable (names : CharacterNames)

/-- A character without a meaning of its own is an item. -/
theorem readItem_of_plain (state : PatternState) {character : Char}
    (plain : character ∉ patternMarks) (place : Nat) (source : PatternSource) :
    readItem names state place [character] source =
      .ok (state.pushCode character.toNat, source) := by
  have noRepetition : ¬(((character = '*' ∨ character = '+') ∨ character = '?') ∨
      character = '\x7b') := by
    rintro (((rfl | rfl) | rfl) | rfl) <;> exact plain (by decide)
  have single : readItem names state place [character] =
      readCharacterItem names state place character := rfl
  rw [single, readCharacterItem]
  · simp only [Bool.or_eq_true, decide_eq_true_eq, if_neg noRepetition]
    rfl
  -- The characters that begin another item are all marks.
  all_goals exact (ne_of_mem_of_not_mem (by decide) plain).symm

/-- One step of the reader takes one character without a meaning of its own. -/
theorem readStep_of_plain {state : PatternState} (notVerbose : state.frame.flags.verbose = false)
    {character : Char} (plain : character ∉ patternMarks) (position : Nat)
    {rest : List PatternToken} {finish : Nat} (sound : IsSound ⟨rest, finish⟩) :
    readStep names state ⟨⟨[character], position⟩ :: rest, finish⟩ =
      .ok (.inl (state.pushCode character.toNat), ⟨rest, finish⟩) := by
  let source : PatternSource := ⟨⟨[character], position⟩ :: rest, finish⟩
  have place : PatternReader.position source = .ok (position, source) := rfl
  have peeked : peek? source = .ok (some [character], source) := rfl
  have taken : (discard read?) source = .ok ((), ⟨rest, finish⟩) := discard_of_ok (read?_cons sound)
  have noClose : character ≠ ')' := (ne_of_mem_of_not_mem (by decide) plain).symm
  have noBar : character ≠ '|' := (ne_of_mem_of_not_mem (by decide) plain).symm
  rw [readStep, bind_of_ok place, bind_of_ok peeked]
  simp only [List.cons.injEq, noClose, noBar, and_true, imp_self]
  rw [bind_of_ok taken]
  simp only [notVerbose, Bool.false_and, Bool.false_eq_true, if_false]
  rw [bind_of_ok (readItem_of_plain names state plain position _)]
  rfl

/-- The reader when it has read plain text: every character is an item of the whole pattern. -/
def PatternState.ofPlain (text : List Char) : PatternState where
  frame := {
    opening := .whole
    start := 0
    flags := {}
    items := (text.map fun character => ⟨.plain, .one (.single character)⟩).reverse }

theorem pushCode_ofPlain (text : List Char) (character : Char) :
    (PatternState.ofPlain text).pushCode character.toNat = .ofPlain (text ++ [character]) := by
  simp only [PatternState.ofPlain, List.map_append, List.map_cons, List.map_nil,
    List.reverse_append]
  rfl

/-- There is nothing in plain text that cannot be matched. -/
theorem unmatchable?_literal (templateOnly : Bool) (groupWidth : Nat → Width) (text : List Char) :
    (Pattern.literal text).unmatchable? templateOnly groupWidth = none := by
  induction text with
  | nil => rfl
  | cons character rest inductionHypothesis =>
    cases rest with
    | nil => rfl
    | cons second others => exact inductionHypothesis

theorem choice_branches_ofPlain (text : List Char) :
    Pattern.choice (PatternState.ofPlain text).frame.branches = .literal text := by
  simp only [PatternState.ofPlain, GroupFrame.branches, List.reverse_reverse, List.map_map,
    List.nil_append]
  rfl

theorem finishPattern_ofPlain (text : List Char) (finish : Nat) :
    finishPattern (.ofPlain text) ⟨[], finish⟩ = .ok (.literal text, ⟨[], finish⟩) := by
  have peeked : peek? ⟨[], finish⟩ = .ok (none, ⟨[], finish⟩) := rfl
  have noGroups : (PatternState.ofPlain text).groups = {} := rfl
  have noFlags : (PatternState.ofPlain text).flags = {} := rfl
  rw [finishPattern, noGroups, noFlags, choice_branches_ofPlain]
  simp only [unmatchable?_literal, List.find?_nil, Bool.and_self, Bool.false_eq_true, if_false]
  rw [bind_of_ok peeked]
  rfl

/-- At the end of plain text, the pattern is the sequence of its characters. -/
theorem readStep_end (text : List Char) (finish : Nat) :
    readStep names (.ofPlain text) ⟨[], finish⟩ = .ok (.inr (.literal text), ⟨[], finish⟩) := by
  have atEnd : readStep names (.ofPlain text) ⟨[], finish⟩ =
      (finishPattern (.ofPlain text) >>= fun pattern => return .inr pattern) ⟨[], finish⟩ := rfl
  rw [atEnd, bind_of_ok (finishPattern_ofPlain text finish)]
  rfl

/-- Plain text is read character by character. -/
theorem loop_readStep_of_plain {text : List Char} (plain : IsPlainText text) (read : List Char)
    (position finish : Nat) :
    loop (readStep names) (.ofPlain read) ⟨patternTokens text position, finish⟩ =
      .ok (.literal (read ++ text), ⟨[], finish⟩) := by
  induction text generalizing read position with
  | nil =>
    rw [List.append_nil]
    exact loop_of_result (readStep_end names read finish)
  | cons character rest inductionHypothesis =>
    obtain ⟨here, later⟩ := List.forall_mem_cons.mp plain
    have verbose : (PatternState.ofPlain read).frame.flags.verbose = false := rfl
    have step := readStep_of_plain names verbose here position
      (isSound_patternTokens later (position + 1) finish)
    rw [patternTokens_cons here, loop_of_next step (Nat.lt_succ_self _), pushCode_ofPlain,
      inductionHypothesis later, List.append_assoc, List.singleton_append]

/-- Plain text is the pattern that matches its characters one after the other. -/
theorem parse_of_plain {text : String} (plain : IsPlainText text.toList) :
    Pattern.parse names text = .ok (.literal text.toList) := by
  have checked := refuseDangling_of_isSound (isSound_patternTokens plain 0 text.toList.length)
  have read := loop_readStep_of_plain names plain [] 0 text.toList.length
  have reader : Pattern.parse names text =
      ((do refuseDangling
           loop (readStep names) (.ofPlain []) : PatternReader Pattern)
        ⟨patternTokens text.toList 0, text.toList.length⟩).map (·.1) := rfl
  rw [reader, bind_of_ok checked, read]
  rfl

/-! ### Matching plain text -/

/-- A single character matches itself alone. -/
theorem contains_single (character found : Char) :
    (CharSet.single character).contains found = decide (found = character) := by
  rw [Bool.eq_iff_iff, decide_eq_true_iff, ← Char.toNat_inj]
  have asCode : (CharSet.single character).contains found = true ↔
      character.toNat ≤ found.toNat ∧ found.toNat ≤ character.toNat := by
    simp [CharSet.single, CharSet.contains, CharSet.variants]
  rw [asCode, and_comm, Nat.le_antisymm_iff]

theorem run_single (subject : Array Char) (character : Char) (point : MatchPoint)
    (next : Continuation) :
    (Pattern.one (.single character)).run subject point next =
      if subject[point.position]? = some character then
        next { point with position := point.position + 1 }
      else none := by
  rw [Pattern.run]
  cases subject[point.position]? with
  | none => rfl
  | some found => simp only [contains_single, decide_eq_true_eq, Option.some_inj]

/-- A sequence is run part by part. -/
theorem run_sequence_cons (subject : Array Char) (first : Pattern) (rest : List Pattern)
    (point : MatchPoint) (next : Continuation) :
    (Pattern.sequence (first :: rest)).run subject point next =
      first.run subject point fun reached =>
        (Pattern.sequence rest).run subject reached next := by
  cases rest <;> rfl

/-- A text stands at a place if its first character stands there and the rest behind it. -/
theorem cons_prefix_drop_iff {character : Char} {rest subject : List Char} {position : Nat} :
    character :: rest <+: subject.drop position ↔
      subject[position]? = some character ∧ rest <+: subject.drop (position + 1) := by
  by_cases inside : position < subject.length
  · rw [List.drop_eq_getElem_cons inside, List.cons_prefix_cons, List.getElem?_eq_getElem inside,
      Option.some_inj, eq_comm]
  · rw [List.drop_eq_nil_of_le (not_lt.mp inside), List.getElem?_eq_none (not_lt.mp inside)]
    simp

/-- Run from a place where its characters stand, plain text goes on behind them, and elsewhere it
refuses. -/
theorem run_literal (subject : Array Char) (text : List Char) (point : MatchPoint)
    (next : Continuation) :
    (Pattern.literal text).run subject point next =
      if text <+: subject.toList.drop point.position then
        next { point with position := point.position + text.length }
      else none := by
  induction text generalizing point with
  | nil =>
    rw [if_pos List.nil_prefix]
    rfl
  | cons character rest inductionHypothesis =>
    have parts : (Pattern.literal (character :: rest)).run subject point next =
        (Pattern.one (.single character)).run subject point fun reached =>
          (Pattern.literal rest).run subject reached next :=
      run_sequence_cons _ _ _ _ _
    rw [parts, run_single, inductionHypothesis]
    simp only [cons_prefix_drop_iff, Array.getElem?_toList, ite_and, List.length_cons,
      Nat.add_right_comm, Nat.add_assoc]

/-- A list stands in another if it stands at one of its places. -/
theorem infix_iff_exists_prefix_drop {text subject : List Char} :
    text <:+: subject ↔ ∃ position < subject.length + 1, text <+: subject.drop position := by
  rw [List.infix_iff_prefix_suffix]
  constructor
  · rintro ⟨back, begins, ends⟩
    rw [List.suffix_iff_eq_drop.mp ends] at begins
    exact ⟨_, Nat.lt_succ_of_le (Nat.sub_le _ _), begins⟩
  · rintro ⟨position, -, begins⟩
    exact ⟨_, begins, List.drop_suffix position subject⟩

/-- Plain text occurs in a name as a pattern if and only if the name contains it. -/
theorem occursIn_literal (text : List Char) (name : String) :
    (Pattern.literal text).occursIn name = true ↔ text <:+: name.toList := by
  rw [infix_iff_exists_prefix_drop, Pattern.occursIn]
  simp only [run_literal, List.any_eq_true, List.mem_range, List.size_toArray]
  refine exists_congr fun position => and_congr_right fun _ => ?_
  split
  · next begins => exact iff_of_true rfl begins
  · next other => exact iff_of_false (by decide) other

end ColdStart
