/-
This file reads bytes as text and says where bytes are no text. A character
begins with a byte that tells how many follow and in which range the first of
these lies. The fault is the first character that cannot be finished; it covers
the bytes of it that still fit.
-/

import ColdStart.Text.Quoted

namespace ColdStart

/-- Why bytes are no text. -/
inductive Utf8Cause where
  /-- No character begins with the byte. -/
  | badStart
  /-- The byte after those of the fault cannot continue the character. -/
  | badContinuation
  /-- The bytes end inside a character. -/
  | unfinished
  deriving DecidableEq, Repr

/-- The bytes that are no text: the place of the first, and all of them. -/
structure Utf8Fault where
  position : Nat
  bytes : List UInt8
  cause : Utf8Cause
  deriving DecidableEq, Repr

/-- The words for the cause. -/
def Utf8Cause.words : Utf8Cause → String
  | badStart => "invalid start byte"
  | badContinuation => "invalid continuation byte"
  | unfinished => "unexpected end of data"

/-- The sentence that reports the fault. A single byte is shown. -/
def Utf8Fault.message (fault : Utf8Fault) : String :=
  let place :=
    match fault.bytes with
    | [byte] =>
      "byte 0x" ++ String.ofList (hexDigits 2 byte.toNat) ++ " in position " ++
        toString fault.position
    | bytes =>
      "bytes in position " ++ toString fault.position ++ "-" ++
        toString (fault.position + bytes.length - 1)
  "'utf-8' codec can't decode " ++ place ++ ": " ++ fault.cause.words

/-- The ranges of the bytes that follow one that begins a character. -/
def followingRanges? (byte : UInt8) : Option (List (UInt8 × UInt8)) :=
  if byte < 0x80 then some []
  else if byte < 0xc2 then none
  else if byte < 0xe0 then some [(0x80, 0xbf)]
  else if byte = 0xe0 then some [(0xa0, 0xbf), (0x80, 0xbf)]
  else if byte = 0xed then some [(0x80, 0x9f), (0x80, 0xbf)]
  else if byte < 0xf0 then some [(0x80, 0xbf), (0x80, 0xbf)]
  else if byte = 0xf0 then some [(0x90, 0xbf), (0x80, 0xbf), (0x80, 0xbf)]
  else if byte < 0xf4 then some [(0x80, 0xbf), (0x80, 0xbf), (0x80, 0xbf)]
  else if byte = 0xf4 then some [(0x80, 0x8f), (0x80, 0xbf), (0x80, 0xbf)]
  else none

/-- The first fault, where `begun` holds the bytes of an unfinished character that ends before
`position`, the latest first, and `due` the ranges of those that must follow. -/
def utf8FaultFrom (position : Nat) (begun : List UInt8) (due : List (UInt8 × UInt8)) :
    List UInt8 → Utf8Fault
  | [] => ⟨position - begun.length, begun.reverse, .unfinished⟩
  | byte :: rest =>
    match due with
    | [] =>
      match followingRanges? byte with
      | none => ⟨position, [byte], .badStart⟩
      | some ranges => utf8FaultFrom (position + 1) [byte] ranges rest
    | (low, high) :: ranges =>
      if low ≤ byte && byte ≤ high then
        utf8FaultFrom (position + 1) (byte :: begun) ranges rest
      else ⟨position - begun.length, begun.reverse, .badContinuation⟩

/-- The text that bytes spell. -/
def decodeUtf8 (bytes : ByteArray) : Except Utf8Fault String :=
  match String.fromUTF8? bytes with
  | some text => .ok text
  | none => .error (utf8FaultFrom 0 [] [] bytes.toList)

/-- What a text is spelt with reads back. -/
theorem decodeUtf8_toUTF8 (text : String) : decodeUtf8 text.toUTF8 = .ok text := by
  simp [decodeUtf8, String.fromUTF8?, String.fromUTF8, String.toUTF8, text.isValidUTF8]

end ColdStart
