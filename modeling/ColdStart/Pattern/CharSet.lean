/-
This file holds the sets of characters that one place of a pattern can match:
single characters, ranges, and the kinds digit, blank and word, each of which
may be turned into its complement, as may the whole set. When case is ignored a
character is in the set if some variant of it is.
-/

import ColdStart.Text.Blank
import ColdStart.Text.Digits
import ColdStart.Text.LetterCase
import ColdStart.Text.WordChars

namespace ColdStart

/-- The kinds of characters that have a short form in patterns. -/
inductive CharKind where
  | digit
  | blank
  | word
  deriving DecidableEq, Repr

/-- Whether a character is of a kind. With `asciiOnly` nothing beyond ASCII is. -/
def CharKind.contains (asciiOnly : Bool) (character : Char) : CharKind → Bool
  | digit => if asciiOnly then character.isDigit else isDecimalDigit character
  | blank =>
    isBlank character &&
      (!asciiOnly || character = ' ' || (9 ≤ character.toNat && character.toNat ≤ 13))
  | word =>
    if asciiOnly then character.isAlphanum || character = '_' else isWordChar character

/-- One member of a set. -/
inductive SetMember where
  | range (first last : Nat)
  | kind (kind : CharKind) (complement : Bool)
  deriving DecidableEq, Repr

/-- A set of characters. -/
structure CharSet where
  members : List SetMember
  complement : Bool := false
  ignoreCase : Bool := false
  asciiOnly : Bool := false
  deriving DecidableEq, Repr

/-- The set of one character. -/
def CharSet.single (character : Char) : CharSet :=
  { members := [.range character.toNat character.toNat] }

/-- The code points that count as the same letter within ASCII. -/
def asciiVariants (code : Nat) : List Nat :=
  if 65 ≤ code && code ≤ 90 then [code, code + 32]
  else if 97 ≤ code && code ≤ 122 then [code, code - 32]
  else [code]

/-- The code points of which one must be in the set. -/
def CharSet.variants (set : CharSet) (code : Nat) : List Nat :=
  if !set.ignoreCase then [code]
  else if set.asciiOnly then asciiVariants code
  else caseVariants code

/-- Whether a character is in the set. -/
def CharSet.contains (set : CharSet) (character : Char) : Bool :=
  let variants := set.variants character.toNat
  let found := set.members.any fun
    | .range first last => variants.any fun code => first ≤ code && code ≤ last
    | .kind kind complement => kind.contains set.asciiOnly character != complement
  found != set.complement

end ColdStart
