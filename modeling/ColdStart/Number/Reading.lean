/-
This file reads numbers from text. An integer is a sign and digits; a decimal
numeral may have a fraction and an exponent, and infinity and the undefined
number have names. Digits of every script count, one underscore may stand
between two digits, and blanks around the numeral are dropped. A decimal
numeral denotes the double nearest to it.
-/

import ColdStart.Number.Binary64
import ColdStart.Text.Blank
import ColdStart.Text.Digits

namespace ColdStart

/-- The most digits an integer may have. -/
def integerDigitLimit : Nat := 4300

/-- The blanks that may surround a numeral: all but the four information separators. -/
def isNumeralBlank (character : Char) : Bool :=
  isBlank character && !(0x1c ≤ character.toNat && character.toNat ≤ 0x1f)

/-- Whether a minus sign leads, and what follows the sign. -/
def splitSign : List Char → Bool × List Char
  | '-' :: rest => (true, rest)
  | '+' :: rest => (false, rest)
  | characters => (false, characters)

/-- The integer that a numeral denotes. -/
def readInteger? (text : List Char) : Option Int :=
  let (negative, unsigned) := splitSign (trimWhere isNumeralBlank text)
  let (digits, rest) := digitRun unsigned
  if digits.isEmpty || !rest.isEmpty || integerDigitLimit < digits.length then none
  else if negative then some (-(ofDigits digits : Int))
  else some (ofDigits digits)

/-- The double nearest to `digits * 10 ^ exponent`. Powers that put the value far outside the
range of doubles are not computed: ten lies between eight and sixteen. -/
def Binary64.ofDecimal (negative : Bool) (digits : Nat) (exponent : Int) : Binary64 :=
  if digits = 0 then zero negative
  else if 0 ≤ exponent then
    if 1100 < (digits.log2 : Int) + 3 * exponent then infinite negative
    else ofRatio negative (digits * Nat.pow 10 exponent.toNat) 1
  else if (digits.log2 : Int) + 3 * exponent < -1100 then zero negative
  else ofRatio negative digits (Nat.pow 10 (-exponent).toNat)

/-- The exponent part at the end of a decimal numeral, zero when there is none. -/
def readExponent? : List Char → Option Int
  | [] => some 0
  | mark :: rest =>
    if mark = 'e' || mark = 'E' then
      let (negative, unsigned) := splitSign rest
      let (digits, after) := digitRun unsigned
      if digits.isEmpty || !after.isEmpty then none
      else if negative then some (-(ofDigits digits : Int))
      else some (ofDigits digits)
    else none

/-- The fraction digits after a point, and what follows. -/
def readFraction : List Char → List Nat × List Char
  | '.' :: rest => digitRun rest
  | characters => ([], characters)

/-- The double that an unsigned numeral denotes. -/
def readMagnitude? (negative : Bool) (text : List Char) : Option Binary64 :=
  let name := String.ofList (text.map Char.toLower)
  if name = "inf" || name = "infinity" then some (.infinite negative)
  else if name = "nan" then some .undefined
  else
    let (whole, afterWhole) := digitRun text
    let (fraction, afterFraction) := readFraction afterWhole
    if whole.isEmpty && fraction.isEmpty then none
    else
      (readExponent? afterFraction).map fun exponent =>
        .ofDecimal negative (ofDigits (whole ++ fraction)) (exponent - fraction.length)

/-- The double that a decimal numeral denotes. -/
def readBinary64? (text : List Char) : Option Binary64 :=
  let (negative, unsigned) := splitSign (trimWhere isNumeralBlank text)
  readMagnitude? negative unsigned

end ColdStart
