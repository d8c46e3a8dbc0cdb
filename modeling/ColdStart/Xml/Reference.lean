/-
This file resolves references. Five names stand for the characters that markup
is made of; a number, decimal or hexadecimal, stands for the character with
that code point, which must be one that may occur in a document.
-/

import ColdStart.Xml.Chars

namespace ColdStart

/-- The number that digits of a base spell, if there are any and all are digits. -/
def numeralIn? (base : Nat) (digits : List Char) : Option Nat :=
  let value? (digit : Char) : Option Nat :=
    let code := digit.toNat
    let value? :=
      if 48 ≤ code && code ≤ 57 then some (code - 48)
      else if 97 ≤ code && code ≤ 102 then some (code - 87)
      else if 65 ≤ code && code ≤ 70 then some (code - 55)
      else none
    value?.filter (· < base)
  if digits.isEmpty then none
  else (digits.mapM value?).map fun values =>
    values.foldl (fun number value => base * number + value) 0

/-- The character with a code point, if it may occur in a document. -/
def characterOfCode? (code : Nat) : Option Char :=
  if isXmlCode code then some (Char.ofNat code) else none

/-- The character that a reference stands for, given what is between ampersand and semicolon. -/
def resolveReference? : List Char → Option Char
  | ['l', 't'] => some '<'
  | ['g', 't'] => some '>'
  | ['a', 'm', 'p'] => some '&'
  | ['q', 'u', 'o', 't'] => some '"'
  | ['a', 'p', 'o', 's'] => some '\''
  | '#' :: 'x' :: digits => (numeralIn? 16 digits).bind characterOfCode?
  | '#' :: digits => (numeralIn? 10 digits).bind characterOfCode?
  | _ => none

end ColdStart
