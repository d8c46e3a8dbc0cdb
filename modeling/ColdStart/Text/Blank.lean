/-
This file holds the blanks: the characters that separate words, that trimming
removes and that a name pattern calls space. Trimming works on both ends; a
word is a longest run without blanks.
-/

import ColdStart.Text.Ranges

namespace ColdStart

/-- The blanks, as ranges of code points. -/
def blankRanges : CodeRanges :=
  [(0x9, 0xd), (0x1c, 0x20), (0x85, 0x85), (0xa0, 0xa0), (0x1680, 0x1680), (0x2000, 0x200a),
  (0x2028, 0x2029), (0x202f, 0x202f), (0x205f, 0x205f), (0x3000, 0x3000)]

/-- Whether a character is a blank. -/
def isBlank (character : Char) : Bool := blankRanges.contains character.toNat

/-- The characters without those at either end that satisfy the test. -/
def trimWhere (drop : Char → Bool) (characters : List Char) : List Char :=
  ((characters.dropWhile drop).reverse.dropWhile drop).reverse

/-- The characters without the blanks at either end. -/
def trim (characters : List Char) : List Char := trimWhere isBlank characters

/-- The first word: what follows the leading blanks, up to the next blank. Nothing when all
characters are blanks. -/
def firstWord? (characters : List Char) : Option (List Char) :=
  match characters.dropWhile isBlank with
  | [] => none
  | found => some (found.takeWhile fun character => !isBlank character)

end ColdStart
