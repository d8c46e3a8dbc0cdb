/-
This file holds patterns as trees and the least and greatest number of
characters that each can match. A pattern that looks back must match a fixed
number of characters, so that the place where it begins is known.
-/

import ColdStart.Pattern.CharSet
import ColdStart.Pattern.Fault

namespace ColdStart

/-- A test of a place that matches no character. -/
inductive Anchor where
  /-- The start of the text. -/
  | start
  /-- The end of the text. -/
  | finish
  /-- The end of the text, or its last character if that ends a line. -/
  | finishOrLastLine
  /-- The start of a line. -/
  | lineStart
  /-- The end of a line. -/
  | lineFinish
  /-- Between a word character and what is none. -/
  | wordEdge (asciiOnly : Bool)
  /-- Between two word characters or between two that are none. -/
  | noWordEdge (asciiOnly : Bool)
  deriving DecidableEq, Repr

/-- How many repetitions are tried first. -/
inductive Manner where
  | greedy
  | lazy
  | possessive
  deriving DecidableEq, Repr

/-- A pattern for names. -/
inductive Pattern where
  | empty
  | one (set : CharSet)
  | any (newlineToo : Bool)
  | anchor (anchor : Anchor)
  | seq (first second : Pattern)
  | alt (first second : Pattern)
  | capture (group : Nat) (body : Pattern)
  | repeated (least : Nat) (most : Option Nat) (manner : Manner) (body : Pattern)
  | atomic (body : Pattern)
  | look (back : Option Nat) (negated : Bool) (body : Pattern)
  | reference (group : Nat) (ignoreCase asciiOnly : Bool)
  | condition (group : Nat) (yes no : Pattern)
  deriving Repr

/-- Patterns one after the other. -/
def Pattern.sequence : List Pattern → Pattern
  | [] => .empty
  | [only] => only
  | first :: rest => .seq first (sequence rest)

/-- A choice between patterns, the earlier preferred. -/
def Pattern.choice : List Pattern → Pattern
  | [] => .empty
  | [only] => only
  | first :: rest => .alt first (choice rest)

/-! ### Widths -/

/-- The least and the greatest number of characters a pattern matches. -/
structure Width where
  least : Nat
  greatest : Nat
  deriving DecidableEq, Repr

/-- Widths from here on are not told apart. -/
def widthLimit : Nat := Nat.pow 2 64

/-- A width with both ends cut at the limit. -/
def Width.limited (width : Width) : Width :=
  ⟨min width.least widthLimit, min width.greatest widthLimit⟩

/-- The width of patterns one after the other. -/
def Width.add (first second : Width) : Width :=
  limited ⟨first.least + second.least, first.greatest + second.greatest⟩

/-- The width of either pattern. -/
def Width.join (first second : Width) : Width :=
  ⟨min first.least second.least, max first.greatest second.greatest⟩

/-- The width of a pattern, given those of the groups it refers to. -/
def Pattern.width (groupWidth : Nat → Width) : Pattern → Width
  | empty => ⟨0, 0⟩
  | one _ => ⟨1, 1⟩
  | any _ => ⟨1, 1⟩
  | anchor _ => ⟨0, 0⟩
  | seq first second => (first.width groupWidth).add (second.width groupWidth)
  | alt first second => (first.width groupWidth).join (second.width groupWidth)
  | capture _ body => body.width groupWidth
  | repeated least most _ body =>
    let width := body.width groupWidth
    let greatest :=
      match most with
      | some most => width.greatest * most
      | none => if width.greatest = 0 then 0 else widthLimit
    Width.limited ⟨width.least * least, greatest⟩
  | atomic body => body.width groupWidth
  | look _ _ _ => ⟨0, 0⟩
  | reference group _ _ => groupWidth group
  | condition _ yes no => (yes.width groupWidth).join (no.width groupWidth)

/-! ### What cannot be matched -/

/-- The word for a manner of repeating, in the report that it is not supported. -/
def Manner.word : Manner → String
  | greedy => "MAX_REPEAT"
  | lazy => "MIN_REPEAT"
  | possessive => "POSSESSIVE_REPEAT"

/-- The widest a pattern that looks back may be. -/
def lookbehindLimit : Nat := 4294967295

/-- The first part of a pattern that cannot be matched: one that looks back without a fixed
width, or any repetition where only templates are asked for. -/
def Pattern.unmatchable? (templateOnly : Bool) (groupWidth : Nat → Width) :
    Pattern → Option PatternProblem
  | empty | one _ | any _ | anchor _ | reference _ _ _ => none
  | seq first second | alt first second | condition _ first second =>
    (first.unmatchable? templateOnly groupWidth).or (second.unmatchable? templateOnly groupWidth)
  | capture _ body | atomic body => body.unmatchable? templateOnly groupWidth
  | repeated _ _ manner body =>
    if templateOnly then some (.repeatUnsupported manner.word)
    else body.unmatchable? templateOnly groupWidth
  | look back _ body =>
    let width := body.width groupWidth
    if back.isSome && lookbehindLimit < width.least then some .lookbehindTooWide
    else if back.isSome && width.least != width.greatest then some .lookbehindWidth
    else body.unmatchable? templateOnly groupWidth

end ColdStart
