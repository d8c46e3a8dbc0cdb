/-
This file finds one text inside another: its first and its last occurrence, as
the parts of the text before and after it.
-/

namespace ColdStart

/-- What follows a text that is expected to come first. -/
def stripFront? : (expected : List Char) → List Char → Option (List Char)
  | [], rest => some rest
  | _, [] => none
  | wanted :: expected, character :: rest =>
    if character = wanted then stripFront? expected rest else none

/-- The parts before and after the first occurrence of a text. -/
def splitFirst? (wanted : List Char) : List Char → Option (List Char × List Char)
  | [] => (stripFront? wanted []).map fun rest => ([], rest)
  | character :: rest =>
    match stripFront? wanted (character :: rest) with
    | some behind => some ([], behind)
    | none =>
      (splitFirst? wanted rest).map fun (before, behind) => (character :: before, behind)

/-- The parts before and after the last occurrence of a text. -/
def splitLast? (wanted : List Char) : List Char → Option (List Char × List Char)
  | [] => (stripFront? wanted []).map fun rest => ([], rest)
  | character :: rest =>
    match splitLast? wanted rest with
    | some (before, behind) => some (character :: before, behind)
    | none => (stripFront? wanted (character :: rest)).map fun behind => ([], behind)

end ColdStart
