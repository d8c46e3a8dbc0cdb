/-
This file says when a pattern occurs in a text. A pattern is run from a point
and hands every point it can reach, the preferred one first, to what follows;
what follows answers with the end of the whole match or refuses, and then the
next point is tried. Repetition past the least count stops when a repetition
has matched nothing, so every run ends.
-/

import ColdStart.Pattern.Syntax

namespace ColdStart

/-- A place in the text and the texts that the groups have matched, the latest first. -/
structure MatchPoint where
  position : Nat
  captures : List (Nat × List Char) := []

/-- What follows a part of a pattern: the end of the match if there is one from the point. -/
abbrev Continuation := MatchPoint → Option MatchPoint

/-- The points that a part of a pattern reaches from a point, tried in order. -/
abbrev MatchStep := MatchPoint → Continuation → Option MatchPoint

/-! ### Places -/

/-- Whether a place of the text lies in a word. -/
def inWord (subject : Array Char) (asciiOnly : Bool) (position : Nat) : Bool :=
  match subject[position]? with
  | some character => CharKind.word.contains asciiOnly character
  | none => false

/-- Whether exactly one of the characters around a position is a word character. -/
def atWordEdge (subject : Array Char) (asciiOnly : Bool) (position : Nat) : Bool :=
  (position != 0 && inWord subject asciiOnly (position - 1)) != inWord subject asciiOnly position

/-- Whether a position passes a test. No word edge, nor its absence, is in the empty text. -/
def Anchor.holds (subject : Array Char) (position : Nat) : Anchor → Bool
  | start => position == 0
  | finish => position == subject.size
  | finishOrLastLine =>
    position == subject.size || (position + 1 == subject.size && subject[position]? == some '\n')
  | lineStart => position == 0 || subject[position - 1]? == some '\n'
  | lineFinish => position == subject.size || subject[position]? == some '\n'
  | wordEdge asciiOnly => !subject.isEmpty && atWordEdge subject asciiOnly position
  | noWordEdge asciiOnly => !subject.isEmpty && !atWordEdge subject asciiOnly position

/-! ### Repetition -/

/-- Exactly so many repetitions. -/
def repeatExactly (step : MatchStep) : Nat → MatchStep
  | 0, point, next => next point
  | count + 1, point, next => step point fun reached => repeatExactly step count reached next

/-- Up to so many repetitions, more preferred. A repetition is not tried where the one before
began. `bound` is more than the number of repetitions that can match something. -/
def repeatGreedy (step : MatchStep) (next : Continuation) :
    (bound : Nat) → (allowed : Option Nat) → (last : Option Nat) → Continuation
  | 0, _, _, point => next point
  | bound + 1, allowed, last, point =>
    if allowed = some 0 || last = some point.position then next point
    else
      let further := step point fun reached =>
        repeatGreedy step next bound (allowed.map (· - 1)) (some point.position) reached
      match further with
      | some finish => some finish
      | none => next point

/-- Up to so many repetitions, fewer preferred. -/
def repeatLazy (step : MatchStep) (next : Continuation) :
    (bound : Nat) → (allowed : Option Nat) → (last : Option Nat) → Continuation
  | 0, _, _, point => next point
  | bound + 1, allowed, last, point =>
    match next point with
    | some finish => some finish
    | none =>
      if allowed = some 0 || last = some point.position then none
      else
        step point fun reached =>
          repeatLazy step next bound (allowed.map (· - 1)) (some point.position) reached

/-- Exactly so many repetitions, each settled before the next. -/
def settleExactly (step : MatchStep) : Nat → MatchPoint → Option MatchPoint
  | 0, point => some point
  | count + 1, point =>
    match step point some with
    | some reached => settleExactly step count reached
    | none => none

/-- As many repetitions as match, each settled before the next. -/
def settleMost (step : MatchStep) :
    (bound : Nat) → (allowed : Option Nat) → (last : Option Nat) → MatchPoint → MatchPoint
  | 0, _, _, point => point
  | bound + 1, allowed, last, point =>
    if allowed = some 0 || last = some point.position then point
    else
      match step point some with
      | some reached =>
        settleMost step bound (allowed.map (· - 1)) (some point.position) reached
      | none => point

/-! ### Running a pattern -/

/-- Whether two characters are the same for a repeated group. -/
def sameLetter (ignoreCase asciiOnly : Bool) (first second : Char) : Bool :=
  if !ignoreCase then first = second
  else if asciiOnly then first.toLower = second.toLower
  else smallLetter first.toNat = smallLetter second.toNat

/-- Whether the text goes on with these characters. -/
def continuesWith (subject : Array Char) (same : Char → Char → Bool) :
    (position : Nat) → List Char → Bool
  | _, [] => true
  | position, character :: rest =>
    match subject[position]? with
    | some found => same character found && continuesWith subject same (position + 1) rest
    | none => false

/-- The characters between two positions. -/
def textBetween (subject : Array Char) (first last : Nat) : List Char :=
  (subject.extract first last).toList

/-- Runs a pattern from a point and hands the points it reaches to what follows. -/
def Pattern.run (subject : Array Char) : Pattern → MatchStep
  | empty, point, next => next point
  | one set, point, next =>
    match subject[point.position]? with
    | some character =>
      if set.contains character then next { point with position := point.position + 1 } else none
    | none => none
  | any newlineToo, point, next =>
    match subject[point.position]? with
    | some character =>
      if newlineToo || character != '\n' then next { point with position := point.position + 1 }
      else none
    | none => none
  | anchor test, point, next =>
    if test.holds subject point.position then next point else none
  | seq first second, point, next =>
    first.run subject point fun reached => second.run subject reached next
  | alt first second, point, next =>
    match first.run subject point next with
    | some finish => some finish
    | none => second.run subject point next
  | capture group body, point, next =>
    body.run subject point fun reached =>
      let text := textBetween subject point.position reached.position
      next { reached with captures := (group, text) :: reached.captures }
  | repeated least most manner body, point, next =>
    let bound := subject.size + 2
    let allowed := most.map (· - least)
    match manner with
    | .greedy =>
      repeatExactly (body.run subject) least point
        (repeatGreedy (body.run subject) next bound allowed none)
    | .lazy =>
      repeatExactly (body.run subject) least point
        (repeatLazy (body.run subject) next bound allowed none)
    | .possessive =>
      match settleExactly (body.run subject) least point with
      | some reached => next (settleMost (body.run subject) bound allowed none reached)
      | none => none
  | atomic body, point, next =>
    match body.run subject point some with
    | some reached => next reached
    | none => none
  | look back negated body, point, next =>
    if point.position < back.getD 0 then
      if negated then next point else none
    else
      match body.run subject { point with position := point.position - back.getD 0 } some with
      | some reached =>
        if negated then none else next { reached with position := point.position }
      | none => if negated then next point else none
  | reference group ignoreCase asciiOnly, point, next =>
    match point.captures.lookup group with
    | some text =>
      if continuesWith subject (sameLetter ignoreCase asciiOnly) point.position text then
        next { point with position := point.position + text.length }
      else none
    | none => none
  | condition group yes no, point, next =>
    if (point.captures.lookup group).isSome then yes.run subject point next
    else no.run subject point next

/-- Whether a pattern matches somewhere in a text. -/
def Pattern.occursIn (pattern : Pattern) (text : String) : Bool :=
  let subject := text.toList.toArray
  (List.range (subject.size + 1)).any fun position =>
    (pattern.run subject ⟨position, []⟩ some).isSome

end ColdStart
