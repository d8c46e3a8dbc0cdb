/-
This file writes a text as a quoted literal, the form in which messages show
text that was not understood. Single quotes are used unless the text has one
and no double quote. The quote in use and the backslash are escaped, line ends
and tabs by letter, and other characters that do not show by code point.
-/

import ColdStart.Text.Printable

namespace ColdStart

/-- The low `width` hexadecimal digits of a number. -/
def hexDigits (width number : Nat) : List Char :=
  let digits := Nat.toDigits 16 number
  List.replicate (width - digits.length) '0' ++ digits

/-- One character inside a literal between the given quotes. -/
def quotedChar (quote character : Char) : List Char :=
  if character = quote || character = '\\' then ['\\', character]
  else if character = '\n' then ['\\', 'n']
  else if character = '\r' then ['\\', 'r']
  else if character = '\t' then ['\\', 't']
  else if isPrintable character then [character]
  else
    let code := character.toNat
    if code < 0x100 then '\\' :: 'x' :: hexDigits 2 code
    else if code < 0x10000 then '\\' :: 'u' :: hexDigits 4 code
    else '\\' :: 'U' :: hexDigits 8 code

/-- The quote for a text: single, unless that alone occurs in it. -/
def quoteFor (characters : List Char) : Char :=
  if characters.contains '\'' && !characters.contains '"' then '"' else '\''

/-- The text as a quoted literal. -/
def quoted (text : String) : String :=
  let quote := quoteFor text.toList
  String.ofList (quote :: text.toList.flatMap (quotedChar quote) ++ [quote])

/-- A text that may be absent, as a quoted literal. -/
def quotedOrNone : Option String → String
  | some text => quoted text
  | none => "None"

end ColdStart
