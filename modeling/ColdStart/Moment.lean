/-
This file holds a moment of the calendar and the two ways in which it is
written: the short stamp in the names of files, and in full on pages.
-/

namespace ColdStart

/-- A moment of the calendar. -/
structure Moment where
  year : Nat
  month : Nat
  day : Nat
  hour : Nat
  minute : Nat
  second : Nat
  deriving DecidableEq, Repr

/-- A number with at least so many digits. -/
def paddedNumber (width number : Nat) : String :=
  let digits := Nat.toDigits 10 number
  String.ofList (List.replicate (width - digits.length) '0' ++ digits)

namespace Moment

/-- The stamp: month and day, hour and minute. -/
def stamp (moment : Moment) : String :=
  paddedNumber 2 moment.month ++ paddedNumber 2 moment.day ++ "-" ++
    paddedNumber 2 moment.hour ++ paddedNumber 2 moment.minute

/-- The moment in full. -/
def text (moment : Moment) : String :=
  paddedNumber 4 moment.year ++ "-" ++ paddedNumber 2 moment.month ++ "-" ++
    paddedNumber 2 moment.day ++ " " ++ paddedNumber 2 moment.hour ++ ":" ++
    paddedNumber 2 moment.minute ++ ":" ++ paddedNumber 2 moment.second

end Moment

end ColdStart
