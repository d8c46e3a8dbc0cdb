/-
This file reads a command line. Each argument is first taken by itself: it is
an option, which may be shortened and may have its value attached, or an
unknown option, or plain. Two hyphens alone make everything behind them plain.
Then the options take their values from the plain arguments behind them, and
the first plain argument that is left is the document to analyse.
-/

import ColdStart.Options.Declaration
import ColdStart.Text.Search

namespace ColdStart

/-! ### Arguments by themselves -/

/-- What an argument is by itself. -/
inductive Word where
  | plain (text : String)
  | option (name : OptionName) (attached? : Option String)
  /-- It looks like an option, but there is none. -/
  | unknown (text : String)
  deriving DecidableEq, Repr

/-- The arguments in front of the two hyphens that end the options, and those behind them, which
are all plain; none if there are no such hyphens. -/
structure Words where
  front : List Word := []
  behind? : Option (List String) := none
  deriving DecidableEq, Repr

/-- Whether a text is a hyphen and a number in digits, with or without a point. A line end may
follow. -/
def looksNegative (text : List Char) : Bool :=
  match text with
  | '-' :: rest =>
    let number := if rest.getLast? = some '\n' then rest.dropLast else rest
    let whole := number.takeWhile isDecimalDigit
    match number.dropWhile isDecimalDigit with
    | [] => !whole.isEmpty
    | '.' :: fraction => !fraction.isEmpty && fraction.all isDecimalDigit
    | _ => false
  | _ => false

/-- What an argument is that no option spells: a negative number or a text with blanks is
plain. -/
def looseWord (text : String) : Word :=
  if looksNegative text.toList || text.toList.contains ' ' then .plain text else .unknown text

/-- What is attached to letters behind a single hyphen, of which only the one for help is known. -/
def attachedToHelp? : List Char → Option String
  | '=' :: rest => some (String.ofList rest)
  | '-' :: rest => some (String.ofList ('-' :: rest))
  | 'h' :: rest => attachedToHelp? rest
  | _ => none

/-- What an argument is by itself. -/
def readWord (text : String) : Except OptionFault Word :=
  match text.toList with
  | '-' :: second :: rest =>
    let spelling := text.toList.takeWhile (· != '=')
    let attached? := match text.toList.dropWhile (· != '=') with
      | _ :: value => some (String.ofList value)
      | [] => none
    match OptionName.declared.lookup (String.ofList spelling) with
    | some name => .ok (.option name attached?)
    | none =>
      if second = '-' then
        match OptionName.declared.filter fun known =>
          (stripFront? spelling known.1.toList).isSome with
        | [] => .ok (looseWord text)
        | [(_, name)] => .ok (.option name attached?)
        | several => .error (.ambiguous text (several.map (·.1)))
      else if second = 'h' then .ok (.option .help (attachedToHelp? rest))
      else .ok (looseWord text)
  | _ => .ok (.plain text)

/-- What the arguments are, each by itself. -/
def readWords : List String → Except OptionFault Words
  | [] => .ok {}
  | text :: rest =>
    if text = "--" then .ok { behind? := some rest }
    else do
      let word ← readWord text
      let words ← readWords rest
      return { words with front := word :: words.front }

/-! ### Arguments together -/

/-- Why reading a command line ends without options. -/
inductive OptionStop where
  | help
  | fault (fault : OptionFault)
  deriving DecidableEq, Repr

/-- What is read so far: what is asked for, whether a document may still be named, and the
arguments of which nothing is known. -/
structure OptionReading where
  options : Options := {}
  expectsFile : Bool := true
  extras : List String := []

namespace OptionReading

/-- The reading with more arguments of which nothing is known. -/
def addExtras (reading : OptionReading) (texts : List String) : OptionReading :=
  { reading with extras := reading.extras ++ texts }

/-- The reading with the document to analyse. -/
def setFile (reading : OptionReading) (text : String) : OptionReading :=
  { reading with
    options := { reading.options with resultsFile := some text }
    expectsFile := false }

/-- The reading with the value of an option. -/
def setValue (reading : OptionReading)
    (set : String → Options → Except OptionFault Options) (value : String) :
    Except OptionStop OptionReading :=
  match set value reading.options with
  | .ok options => .ok { reading with options }
  | .error fault => .error (.fault fault)

/-- The reading of what is behind the two hyphens. Where no document is expected any more, they
count as an argument of which nothing is known. -/
def readBehind (reading : OptionReading) (texts : List String) : OptionReading :=
  if reading.expectsFile then
    match texts with
    | text :: others => (reading.setFile text).addExtras others
    | [] => reading
  else reading.addExtras ("--" :: texts)

/-- The reading of the remaining words, and of what is behind them. -/
def readAll (behind? : Option (List String)) (reading : OptionReading) :
    List Word → Except OptionStop OptionReading
  | [] => .ok (behind?.elim reading reading.readBehind)
  | .unknown text :: rest => (reading.addExtras [text]).readAll behind? rest
  | .plain text :: rest =>
    if reading.expectsFile then
      match rest, behind? with
      | [], some texts => .ok ((reading.setFile text).addExtras texts)
      | _, _ => (reading.setFile text).readAll behind? rest
    else (reading.addExtras [text]).readAll behind? rest
  | .option name attached? :: rest =>
    match name.kind, attached? with
    | .shows, none => .error .help
    | .alone set, none => { reading with options := set reading.options }.readAll behind? rest
    | .shows, some value | .alone _, some value => .error (.fault (.unusedValue name value))
    | .valued set, some value => do (← reading.setValue set value).readAll behind? rest
    | .valued set, none =>
      match rest with
      | .plain value :: others => do (← reading.setValue set value).readAll behind? others
      | _ => .error (.fault (.noValue name))

end OptionReading

/-- What a command line asks for. -/
def readOptions (arguments : List String) : Except OptionStop Options :=
  match readWords arguments with
  | .error fault => .error (.fault fault)
  | .ok words =>
    match OptionReading.readAll words.behind? {} words.front with
    | .error stop => .error stop
    | .ok reading =>
      if reading.extras.isEmpty then .ok reading.options
      else .error (.fault (.unrecognized reading.extras))

end ColdStart
