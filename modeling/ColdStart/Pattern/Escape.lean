/-
This file reads escapes: a backslash and what it stands for. Some letters stand
for control characters, some for kinds of characters, some for anchors; codes
are octal or hexadecimal; a number may refer to a group. A letter without a
meaning is refused, any other character stands for itself.
-/

import ColdStart.Pattern.Source
import ColdStart.Pattern.Syntax

namespace ColdStart

open PatternReader

/-- Whether a character is an octal digit. -/
def isOctalDigit (character : Char) : Bool := '0' ≤ character && character ≤ '7'

/-- The worth of a hexadecimal digit. -/
def hexValue? (character : Char) : Option Nat :=
  if character.isDigit then some (character.toNat - 48)
  else if 'a' ≤ character && character ≤ 'f' then some (character.toNat - 87)
  else if 'A' ≤ character && character ≤ 'F' then some (character.toNat - 55)
  else none

/-- The number that hexadecimal digits spell. -/
def ofHexDigits (digits : List Char) : Nat :=
  digits.foldl (fun number digit => 16 * number + (hexValue? digit).getD 0) 0

/-- The number that octal digits spell. -/
def ofOctalDigits (digits : List Char) : Nat :=
  digits.foldl (fun number digit => 8 * number + (digit.toNat - 48)) 0

/-- The number that ASCII digits spell. -/
def ofDecimalDigits (digits : List Char) : Nat :=
  digits.foldl (fun number digit => 10 * number + (digit.toNat - 48)) 0

/-- The control character that a letter stands for. -/
def controlEscape? : Char → Option Nat
  | 'a' => some 7
  | 'b' => some 8
  | 'f' => some 12
  | 'n' => some 10
  | 'r' => some 13
  | 't' => some 9
  | 'v' => some 11
  | '\\' => some 92
  | _ => none

/-- The kind of characters that a letter stands for. -/
def kindEscape? : Char → Option SetMember
  | 'd' => some (.kind .digit false)
  | 'D' => some (.kind .digit true)
  | 's' => some (.kind .blank false)
  | 'S' => some (.kind .blank true)
  | 'w' => some (.kind .word false)
  | 'W' => some (.kind .word true)
  | _ => none

/-- The anchor that a letter stands for. -/
def anchorEscape? (asciiOnly : Bool) : Char → Option Anchor
  | 'A' => some .start
  | 'Z' => some .finish
  | 'b' => some (.wordEdge asciiOnly)
  | 'B' => some (.noWordEdge asciiOnly)
  | _ => none

/-- Reads a code of exactly so many hexadecimal digits. -/
def readHexCode (escape : List Char) (count : Nat) : PatternReader Nat := do
  let digits ← readWhile (fun character => (hexValue? character).isSome) count
  let escape := escape ++ digits
  if digits.length != count then report (.incompleteEscape escape) escape.length
  else
    let code := ofHexDigits digits
    if 0x7fffffff < code then throw .codeTooLarge
    else if 0x10ffff < code then report (.badEscape escape) escape.length
    else return code

/-- The characters that have a name. Names of several characters at once are none of these. -/
abbrev CharacterNames := String → Option Char

/-- Reads a character by name. -/
def readNamedCharacter (names : CharacterNames) : PatternReader Nat := do
  if (← accept '\x7b') then
    let name ← readUntil '\x7d' "character name"
    match names (String.ofList name) with
    | some character => return character.toNat
    | none => report (.unknownCharacterName (String.ofList name)) (name.length + 4)
  else report .missingBrace 0

/-- Refuses an octal code past one byte. -/
def checkOctal (escape : List Char) : PatternReader Nat := do
  let code := ofOctalDigits (escape.drop 1)
  if 0o377 < code then report (.octalTooLarge escape) escape.length else return code

/-- A character that stands for itself behind a backslash, which letters and digits do not. -/
def readPlainEscape (escape : List Char) (character : Char) : PatternReader Nat := do
  if character.isAlphanum then report (.badEscape escape) escape.length
  else return character.toNat

/-- Reads an escape inside a set. -/
def readSetEscape (names : CharacterNames) (character : Char) : PatternReader SetMember := do
  let escape := ['\\', character]
  let code (reader : PatternReader Nat) : PatternReader SetMember := do
    let value ← reader
    return .range value value
  match controlEscape? character, kindEscape? character with
  | some value, _ => return .range value value
  | none, some kind => return kind
  | none, none =>
    if character = 'x' then code (readHexCode escape 2)
    else if character = 'u' then code (readHexCode escape 4)
    else if character = 'U' then code (readHexCode escape 8)
    else if character = 'N' then code (readNamedCharacter names)
    else if isOctalDigit character then
      let digits ← readWhile isOctalDigit 2
      code (checkOctal (escape ++ digits))
    else code (readPlainEscape escape character)

/-- What an escape outside a set stands for. -/
inductive EscapeMeaning where
  | code (code : Nat)
  | kind (kind : SetMember)
  | anchor (anchor : Anchor)
  | group (group : Nat) (escapeLength : Nat)
  deriving DecidableEq, Repr

/-- Reads an escape of a digit other than zero: three octal digits are a code, anything else
refers to a group. -/
def readDigitEscape (character : Char) : PatternReader EscapeMeaning := do
  let second ← readWhile Char.isDigit 1
  let third ←
    if isOctalDigit character && second.any isOctalDigit then readWhile isOctalDigit 1
    else pure []
  let digits := character :: second ++ third
  if third.isEmpty then return .group (ofDecimalDigits digits) (digits.length + 1)
  else return .code (← checkOctal ('\\' :: digits))

/-- Reads an escape outside a set. -/
def readEscape (names : CharacterNames) (asciiOnly : Bool) (character : Char) :
    PatternReader EscapeMeaning := do
  let escape := ['\\', character]
  match anchorEscape? asciiOnly character, kindEscape? character, controlEscape? character with
  | some anchor, _, _ => return .anchor anchor
  | none, some kind, _ => return .kind kind
  | none, none, some value => return .code value
  | none, none, none =>
    if character = 'x' then return .code (← readHexCode escape 2)
    else if character = 'u' then return .code (← readHexCode escape 4)
    else if character = 'U' then return .code (← readHexCode escape 8)
    else if character = 'N' then return .code (← readNamedCharacter names)
    else if character = '0' then
      return .code (ofOctalDigits (← readWhile isOctalDigit 2))
    else if character.isDigit then readDigitEscape character
    else return .code (← readPlainEscape escape character)

/-! ### Sets -/

/-- Reads one member of a set whose first token has been read. -/
def readSetMember (names : CharacterNames) (text : List Char) : PatternReader SetMember := do
  match text with
  | [character] => return .range character.toNat character.toNat
  | ['\\', character] => readSetEscape names character
  | _ => throw .stuck

/-- The range between two members. Both must be single characters in order. -/
def memberRange (firstText lastText : List Char) (first last : SetMember) :
    PatternReader SetMember := do
  let refuse : PatternReader SetMember :=
    report (.badRange firstText lastText) (firstText.length + 1 + lastText.length)
  match first, last with
  | .range low _, .range high _ => if high < low then refuse else return .range low high
  | _, _ => refuse

/-- Reads a set whose opening bracket, at the given place, has been read: its members and whether
they are the ones left out. A closing bracket that comes first is a member. -/
def readSet (names : CharacterNames) (start : Nat) :
    PatternReader (List SetMember × Bool) := do
  let complement ← accept '^'
  let members ← loopFrom ([] : List SetMember) fun members => do
    match (← read?) with
    | none => reportAt .unterminatedSet start
    | some text =>
      if text = [']'] && !members.isEmpty then return .inr members
      else
        let first ← readSetMember names text
        if (← accept '-') then
          match (← read?) with
          | none => reportAt .unterminatedSet start
          | some [']'] => return .inr (members ++ [first, .range 45 45])
          | some lastText =>
            let last ← readSetMember names lastText
            return .inl (members ++ [← memberRange text lastText first last])
        else return .inl (members ++ [first])
  return (members, complement)

end ColdStart
