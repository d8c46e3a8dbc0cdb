/-
This file holds the text of a pattern as it is read: a list of tokens with
their places. A token is a character, or a backslash and the character after
it. A backslash that ends the text is reported as soon as it is the next token.
Reading goes forward only, except that a brace which turns out to be no
repetition is read again as plain text.
-/

import ColdStart.Pattern.Fault
import ColdStart.Text.Digits

namespace ColdStart

/-- A character of a pattern, or an escape of two characters, and its place. -/
structure PatternToken where
  text : List Char
  position : Nat
  deriving DecidableEq, Repr

/-- The tokens of a pattern, from a place on. -/
def patternTokens : List Char → Nat → List PatternToken
  | [], _ => []
  | '\\' :: escaped :: rest, position =>
    ⟨['\\', escaped], position⟩ :: patternTokens rest (position + 2)
  | character :: rest, position => ⟨[character], position⟩ :: patternTokens rest (position + 1)

/-- The tokens not yet read, and the length of the whole pattern. -/
structure PatternSource where
  rest : List PatternToken
  finish : Nat
  deriving DecidableEq, Repr

/-- A step that reads from a pattern. -/
abbrev PatternReader := StateT PatternSource (Except PatternFault)

namespace PatternReader

/-- The place of the next token, or the length of the pattern at its end. -/
def position : PatternReader Nat := do
  let source ← get
  match source.rest with
  | token :: _ => return token.position
  | [] => return source.finish

/-- Reports a problem at a place. -/
def reportAt {α : Type} (problem : PatternProblem) (position : Nat) : PatternReader α :=
  throw (.located problem position)

/-- Reports a problem so many characters before the next token. -/
def report {α : Type} (problem : PatternProblem) (back : Nat) : PatternReader α := do
  reportAt problem ((← position) - back)

/-- Refuses a source whose next token is a backslash with nothing after it. -/
def refuseDangling : PatternReader Unit := do
  match (← get).rest with
  | ⟨['\\'], position⟩ :: _ => reportAt .danglingEscape position
  | _ => return

/-- The text of the next token, if there is one. -/
def peek? : PatternReader (Option (List Char)) := do
  return (← get).rest.head?.map (·.text)

/-- Reads one token. -/
def read? : PatternReader (Option (List Char)) := do
  let source ← get
  match source.rest with
  | [] => return none
  | token :: rest =>
    set { source with rest }
    refuseDangling
    return some token.text

/-- Reads the given character if it comes next, and tells whether it did. -/
def accept (character : Char) : PatternReader Bool := do
  if (← peek?) = some [character] then
    discard read?
    return true
  else return false

/-- Repeats a step until it has a result. A step that goes on must have read something. -/
def loop {σ α : Type} (step : σ → PatternReader (σ ⊕ α)) (state : σ) : PatternReader α :=
  fun source =>
    match step state source with
    | .error fault => .error fault
    | .ok (.inr result, after) => .ok (result, after)
    | .ok (.inl next, after) =>
      if after.rest.length < source.rest.length then loop step next after
      else .error .stuck
termination_by source => source.rest.length

/-- The same with the state first. -/
def loopFrom {σ α : Type} (state : σ) (step : σ → PatternReader (σ ⊕ α)) : PatternReader α :=
  loop step state

/-- Reads characters of a class, at most so many. -/
def readWhile (accepted : Char → Bool) : (most : Nat) → PatternReader (List Char)
  | 0 => return []
  | most + 1 => do
    match (← peek?) with
    | some [character] =>
      if accepted character then
        discard read?
        return character :: (← readWhile accepted most)
      else return []
    | _ => return []

/-- Reads all characters of a class that come next. -/
def readAll (accepted : Char → Bool) : PatternReader (List Char) := do
  readWhile accepted (← get).rest.length

/-- Reads a name up to a character that ends it. -/
def readUntil (terminator : Char) (what : String) : PatternReader (List Char) :=
  loopFrom [] fun found => do
    match (← read?) with
    | none =>
      if found.isEmpty then report (.missingName what) 0
      else report (.unterminatedName terminator) found.length
    | some text =>
      if text = [terminator] then
        if found.isEmpty then report (.missingName what) 1 else return .inr found
      else return .inl (found ++ text)

end PatternReader

end ColdStart
