/-
This file selects modes by name. A selection is a list of patterns between
commas; a name is selected when one of the patterns occurs in it. Blanks around
a pattern are dropped, and so are patterns that are blank; at least one must be
left. An engine says what a pattern is and where it occurs.
-/

import ColdStart.Pattern.Matcher
import ColdStart.Pattern.Parser
import ColdStart.Text.Fields

namespace ColdStart

/-- Why modes cannot be selected. -/
inductive SelectionFault where
  /-- All patterns are blank. -/
  | noPatterns
  /-- A text is not a pattern. -/
  | badPattern (text : String) (fault : PatternFault)
  /-- No mode has a matching name. -/
  | noMatch (pattern : String)
  deriving DecidableEq, Repr

/-- The sentence that reports the fault. Faults that do not lie in how the pattern is written are
reported as they are. -/
def SelectionFault.message : SelectionFault → String
  | noPatterns => "No configuration patterns given"
  | badPattern text fault =>
    match fault with
    | .located _ _ | .whole _ | .stuck =>
      "Invalid configuration pattern '" ++ text ++ "': " ++ fault.message text
    | _ => fault.message text
  | noMatch pattern => "No configuration matches '" ++ pattern ++ "'"

/-! ### Engines -/

/-- How patterns are read, and how they are searched for in a name. -/
structure PatternEngine where
  /-- What is kept of a pattern that was read. -/
  Compiled : Type
  /-- The pattern that a text denotes. -/
  parse : String → Except PatternFault Compiled
  /-- Whether a pattern occurs in a name. -/
  occursIn : Compiled → String → Bool

/-- The engine of the patterns of this library, in which characters have the given names. -/
def PatternEngine.naming (names : CharacterNames) : PatternEngine :=
  ⟨Pattern, Pattern.parse names, Pattern.occursIn⟩

/-- The engine that is used unless another is given. No character has a name. -/
def PatternEngine.plain : PatternEngine := .naming fun _ => none

/-! ### Selections -/

/-- The pattern that a text denotes. -/
def readPattern (engine : PatternEngine) (text : String) :
    Except SelectionFault engine.Compiled :=
  match engine.parse text with
  | .ok pattern => .ok pattern
  | .error fault => .error (.badPattern text fault)

/-- The patterns of a selection, as texts. -/
def selectionFragments (selection : String) : List String :=
  (((fieldsAt ',' selection.toList).map trim).filter fun fragment => !fragment.isEmpty).map
    String.ofList

/-- The patterns of a selection. -/
def readSelection (engine : PatternEngine) (selection : String) :
    Except SelectionFault (List engine.Compiled) :=
  match selectionFragments selection with
  | [] => .error .noPatterns
  | fragments => fragments.mapM (readPattern engine)

/-- Whether one of the patterns occurs in a name. -/
def selects (engine : PatternEngine) (patterns : List engine.Compiled) (name : String) : Bool :=
  patterns.any fun pattern => engine.occursIn pattern name

end ColdStart
