/-
This file holds the decimal digits. Every script's digits zero to nine occupy
ten consecutive code points, so a table of the zeros settles both which
characters are digits and what they are worth.
-/

namespace ColdStart

/-- The code points of the zeros of all decimal digits, ascending. -/
def digitZeros : List Nat := [
  0x30, 0x660, 0x6f0, 0x7c0, 0x966, 0x9e6, 0xa66, 0xae6, 0xb66, 0xbe6, 0xc66, 0xce6, 0xd66, 0xde6,
  0xe50, 0xed0, 0xf20, 0x1040, 0x1090, 0x17e0, 0x1810, 0x1946, 0x19d0, 0x1a80, 0x1a90, 0x1b50,
  0x1bb0, 0x1c40, 0x1c50, 0xa620, 0xa8d0, 0xa900, 0xa9d0, 0xa9f0, 0xaa50, 0xabf0, 0xff10, 0x104a0,
  0x10d30, 0x11066, 0x110f0, 0x11136, 0x111d0, 0x112f0, 0x11450, 0x114d0, 0x11650, 0x116c0,
  0x11730, 0x118e0, 0x11950, 0x11c50, 0x11d50, 0x11da0, 0x16a60, 0x16ac0, 0x16b50, 0x1d7ce,
  0x1d7d8, 0x1d7e2, 0x1d7ec, 0x1d7f6, 0x1e140, 0x1e2f0, 0x1e950, 0x1fbf0]

/-- The worth of a decimal digit of any script. -/
def digitValue? (character : Char) : Option Nat :=
  (digitZeros.find? fun base => base ≤ character.toNat && character.toNat < base + 10).map
    fun base => character.toNat - base

/-- Whether a character is a decimal digit of any script. -/
def isDecimalDigit (character : Char) : Bool := (digitValue? character).isSome

/-- The digits at the front with single underscores between them dropped, and what follows. -/
def digitRun : List Char → List Nat × List Char
  | [] => ([], [])
  | first :: '_' :: next :: rest =>
    match digitValue? first with
    | none => ([], first :: '_' :: next :: rest)
    | some value =>
      if isDecimalDigit next then
        let (values, after) := digitRun (next :: rest)
        (value :: values, after)
      else ([value], '_' :: next :: rest)
  | first :: rest =>
    match digitValue? first with
    | none => ([], first :: rest)
    | some value =>
      let (values, after) := digitRun rest
      (value :: values, after)

/-- The number that decimal digits spell, the leading one first. -/
def ofDigits (digits : List Nat) : Nat :=
  digits.foldl (fun number digit => 10 * number + digit) 0

end ColdStart
