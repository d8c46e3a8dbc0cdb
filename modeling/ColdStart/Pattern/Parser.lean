/-
This file reads a pattern. The reader keeps the groups that are open, innermost
first, each with the alternatives it has so far, and closes them as their
parentheses come. Faults are reported where they are met, so the first one in
reading order wins; what only shows on the whole pattern is checked at its end.
-/

import ColdStart.Number.Reading
import ColdStart.Pattern.Escape
import ColdStart.Text.Identifier

namespace ColdStart

open PatternReader

/-! ### Settings inside a pattern -/

/-- How the parts of a pattern are read and matched. -/
structure PatternFlags where
  ignoreCase : Bool := false
  multiline : Bool := false
  dotAll : Bool := false
  verbose : Bool := false
  asciiOnly : Bool := false
  unicode : Bool := false
  locale : Bool := false
  template : Bool := false
  deriving DecidableEq, Repr

namespace PatternFlags

/-- The flag of a letter. -/
def ofLetter? : Char → Option PatternFlags
  | 'i' => some { ignoreCase := true }
  | 'm' => some { multiline := true }
  | 's' => some { dotAll := true }
  | 'x' => some { verbose := true }
  | 'a' => some { asciiOnly := true }
  | 'u' => some { unicode := true }
  | 'L' => some { locale := true }
  | 't' => some { template := true }
  | _ => none

/-- The flags that either has. -/
def union (first second : PatternFlags) : PatternFlags :=
  { ignoreCase := first.ignoreCase || second.ignoreCase
    multiline := first.multiline || second.multiline
    dotAll := first.dotAll || second.dotAll
    verbose := first.verbose || second.verbose
    asciiOnly := first.asciiOnly || second.asciiOnly
    unicode := first.unicode || second.unicode
    locale := first.locale || second.locale
    template := first.template || second.template }

/-- The flags of the first that the second does not have. -/
def without (first second : PatternFlags) : PatternFlags :=
  { ignoreCase := first.ignoreCase && !second.ignoreCase
    multiline := first.multiline && !second.multiline
    dotAll := first.dotAll && !second.dotAll
    verbose := first.verbose && !second.verbose
    asciiOnly := first.asciiOnly && !second.asciiOnly
    unicode := first.unicode && !second.unicode
    locale := first.locale && !second.locale
    template := first.template && !second.template }

/-- Whether a flag says which alphabet is meant. -/
def namesAlphabet (flags : PatternFlags) : Bool :=
  flags.asciiOnly || flags.unicode || flags.locale

/-- How many alphabets are meant. -/
def alphabetCount (flags : PatternFlags) : Nat :=
  flags.asciiOnly.toNat + flags.unicode.toNat + flags.locale.toNat

/-- The flags inside a group that turns some on and some off. An alphabet replaces the one
before. -/
def within (outer on off : PatternFlags) : PatternFlags :=
  let kept :=
    if on.namesAlphabet then { outer with asciiOnly := false, unicode := false, locale := false }
    else outer
  (kept.union on).without off

end PatternFlags

/-! ### What has been read -/

/-- What may follow an item: an anchor cannot be repeated, nor can a repetition. -/
inductive ItemKind where
  | plain
  | anchor
  | repetition
  deriving DecidableEq, Repr

/-- A part of a sequence. -/
structure PatternItem where
  kind : ItemKind
  pattern : Pattern

/-- What an open parenthesis begins. -/
inductive Opening where
  | whole
  | plain
  | capture (group : Nat)
  | atomic
  | look (behind negated : Bool) (outerLimit : Option Nat)
  | condition (group : Nat)

/-- An open group: its alternatives, and the items of the one that is being read, the latest
first. -/
structure GroupFrame where
  opening : Opening
  start : Nat
  flags : PatternFlags
  alternatives : List Pattern := []
  items : List PatternItem := []

/-- The groups of a pattern. -/
structure GroupTable where
  /-- The number of the next group. -/
  next : Nat := 1
  names : List (String × Nat) := []
  /-- The groups that are complete. -/
  closed : List (Nat × Width) := []
  /-- Inside a part that looks back: the groups from this one on cannot be referred to. -/
  lookbehindLimit : Option Nat := none
  /-- The groups that conditions name by number, each with the place of the first one. -/
  conditions : List (Nat × Nat) := []

/-- The state of the reader. -/
structure PatternState where
  frame : GroupFrame
  outer : List GroupFrame := []
  groups : GroupTable := {}
  flags : PatternFlags := {}

namespace GroupTable

/-- Whether a group is complete. -/
def isClosed (groups : GroupTable) (group : Nat) : Bool :=
  (groups.closed.lookup group).isSome

/-- The width of a complete group. -/
def width (groups : GroupTable) (group : Nat) : Width :=
  (groups.closed.lookup group).getD ⟨0, 0⟩

/-- Refuses a reference, inside a part that looks back, to a group of the same part. -/
def checkLookbehind (groups : GroupTable) (group : Nat) : PatternReader Unit := do
  match groups.lookbehindLimit with
  | none => return
  | some limit =>
    if !groups.isClosed group then report .openGroup 0
    else if limit ≤ group then report .lookbehindGroup 0
    else return

end GroupTable

namespace PatternState

/-- The state with one more item in the innermost group. -/
def push (state : PatternState) (pattern : Pattern) (kind : ItemKind := .plain) : PatternState :=
  { state with frame := { state.frame with items := ⟨kind, pattern⟩ :: state.frame.items } }

/-- The state with a set as the next item. -/
def pushSet (state : PatternState) (members : List SetMember) (complement : Bool) :
    PatternState :=
  let flags := state.frame.flags
  state.push <| .one
    { members, complement, ignoreCase := flags.ignoreCase, asciiOnly := flags.asciiOnly }

/-- The state with one character as the next item. -/
def pushCode (state : PatternState) (code : Nat) : PatternState :=
  state.pushSet [.range code code] false

/-- The state with a group opened. -/
def openGroup (state : PatternState) (opening : Opening) (start : Nat) (flags : PatternFlags) :
    PatternState :=
  { state with frame := { opening, start, flags }, outer := state.frame :: state.outer }

end PatternState

/-! ### Items -/

/-- A reference to a group as the next item. -/
def pushReference (state : PatternState) (group : Nat) : PatternReader PatternState := do
  state.groups.checkLookbehind group
  let flags := state.frame.flags
  return state.push (.reference group flags.ignoreCase flags.asciiOnly)

/-- Reads an escape as the next item. -/
def readEscapeItem (names : CharacterNames) (state : PatternState) (character : Char) :
    PatternReader PatternState := do
  match (← readEscape names state.frame.flags.asciiOnly character) with
  | .code code => return state.pushCode code
  | .kind kind => return state.pushSet [kind] false
  | .anchor anchor => return state.push (.anchor anchor) .anchor
  | .group group escapeLength =>
    if state.groups.next ≤ group then report (.unknownGroup group) (escapeLength - 1)
    else if !state.groups.isClosed group then report .openGroup escapeLength
    else pushReference state group

/-- Repetition counts from here on are not allowed. -/
def repetitionLimit : Nat := 4294967295

/-- The number of repetitions that digits spell. -/
def readCount (digits : List Char) : PatternReader Nat := do
  if integerDigitLimit < digits.length then throw (.tooManyDigits digits.length)
  else
    let count := ofDecimalDigits digits
    if repetitionLimit ≤ count then throw .repetitionTooLarge else return count

/-- Reads the counts between braces, the opening one read: nothing when they are no repetition. -/
def readBraces? : PatternReader (Option (Nat × Option Nat)) := do
  let start ← position
  if (← peek?) = some ['\x7d'] then return none
  else
    let least ← readAll Char.isDigit
    let most ← if (← accept ',') then readAll Char.isDigit else pure least
    if !(← accept '\x7d') then return none
    else
      let leastCount ← if least.isEmpty then pure 0 else readCount least
      if most.isEmpty then return some (leastCount, none)
      else
        let mostCount ← readCount most
        if mostCount < leastCount then reportAt .repeatOrder start
        else return some (leastCount, some mostCount)

/-- Reads the manner of a repetition, which is greedy unless a mark says otherwise. -/
def readManner : PatternReader Manner := do
  if (← accept '?') then return .lazy
  else if (← accept '+') then return .possessive
  else return .greedy

/-- Repeats the latest item. -/
def repeatItem (state : PatternState) (place least : Nat) (most : Option Nat) :
    PatternReader PatternState := do
  match state.frame.items with
  | [] => reportAt .nothingToRepeat place
  | item :: earlier =>
    match item.kind with
    | .anchor => reportAt .nothingToRepeat place
    | .repetition => reportAt .multipleRepeat place
    | .plain =>
      let manner ← readManner
      let repeated : PatternItem := ⟨.repetition, .repeated least most manner item.pattern⟩
      return { state with frame := { state.frame with items := repeated :: earlier } }

/-- Reads a repetition whose first character has been read. Braces that are none are text. -/
def readRepetition (state : PatternState) (place : Nat) (character : Char) :
    PatternReader PatternState := do
  match character with
  | '?' => repeatItem state place 0 (some 1)
  | '*' => repeatItem state place 0 none
  | '+' => repeatItem state place 1 none
  | _ =>
    let behindBrace ← get
    match (← readBraces?) with
    | some (least, most) => repeatItem state place least most
    | none =>
      set behindBrace
      return state.pushCode character.toNat

/-! ### Groups -/

/-- Reads a flag's letter that has been read as a token. -/
def flagOf (text : List Char) (missing : PatternProblem) : PatternReader PatternFlags := do
  match text with
  | [letter] =>
    match PatternFlags.ofLetter? letter with
    | some flag => return flag
    | none =>
      if nameStartRanges.contains letter.toNat && letter != '_' then report .unknownFlag 1
      else report missing 1
  | _ => report missing text.length

/-- Reads the flags that are turned on, the first letter read: the flags and the character that
ends them. -/
def readFlagsOn (first : List Char) : PatternReader (PatternFlags × List Char) :=
  loopFrom (({} : PatternFlags), first) fun (flags, text) => do
    let flag ← flagOf text .unfinishedFlags
    if flag.locale then report .localeFlag 0
    let flags := flags.union flag
    if flag.namesAlphabet && 1 < flags.alphabetCount then report .clashingFlags 0
    match (← read?) with
    | none => report .unfinishedFlags 0
    | some text =>
      if text = [')'] || text = ['-'] || text = [':'] then return .inr (flags, text)
      else return .inl (flags, text)

/-- Reads the flags that are turned off, up to a colon. -/
def readFlagsOff : PatternReader PatternFlags := do
  match (← read?) with
  | none => report .missingFlag 0
  | some text =>
    let first ← flagOf text .missingFlag
    loopFrom (({} : PatternFlags), first) fun (flags, flag) => do
      if flag.namesAlphabet then report .fixedFlagOff 0
      let flags := flags.union flag
      match (← read?) with
      | none => report .missingColon 0
      | some text =>
        if text = [':'] then return .inr flags
        else return .inl (flags, ← flagOf text .missingColon)

/-- Reads flags, the first token read. They hold for the whole pattern, which only its start may
say, or for one group. -/
def readFlags (state : PatternState) (start : Nat) (first : List Char) :
    PatternReader PatternState := do
  let (on, ending) ← if first = ['-'] then pure ({}, first) else readFlagsOn first
  if ending = [')'] then
    if state.outer.isEmpty && state.frame.alternatives.isEmpty && state.frame.items.isEmpty then
      let flags := state.flags.union on
      return { state with flags, frame := { state.frame with flags } }
    else reportAt .flagsNotAtStart start
  else
    if on.template then report .globalFlagOn 1
    let off ← if ending = ['-'] then readFlagsOff else pure {}
    if off.template then report .globalFlagOff 1
    if on.without off != on then report .flagOnAndOff 1
    return state.openGroup .plain start (state.frame.flags.within on off)

/-- Refuses what cannot name a group. -/
def checkGroupName (name : List Char) : PatternReader Unit := do
  if isIdentifier name then return
  else report (.badGroupName (String.ofList name)) (name.length + 1)

/-- Opens a group that is captured. -/
def openCapture (state : PatternState) (start : Nat) (name? : Option (List Char)) :
    PatternReader PatternState := do
  let group := state.groups.next
  let names ←
    match name? with
    | none => pure state.groups.names
    | some name =>
      match state.groups.names.lookup (String.ofList name) with
      | some earlier =>
        report (.groupRedefined (String.ofList name) group earlier) (name.length + 1)
      | none => pure ((String.ofList name, group) :: state.groups.names)
  let state := { state with groups := { state.groups with next := group + 1, names } }
  return state.openGroup (.capture group) start state.frame.flags

/-- Reads a reference to a group by name. -/
def readNamedReference (state : PatternState) : PatternReader PatternState := do
  let name ← readUntil ')' "group name"
  checkGroupName name
  match state.groups.names.lookup (String.ofList name) with
  | none => report (.unknownGroupName (String.ofList name)) (name.length + 1)
  | some group =>
    if !state.groups.isClosed group then report .openGroup (name.length + 1)
    else pushReference state group

/-- Group numbers from here on are not allowed. -/
def groupLimit : Nat := 1073741823

/-- Reads the group that a condition tests, by name or by number. -/
def readConditionGroup (state : PatternState) : PatternReader (Nat × GroupTable) := do
  let name ← readUntil ')' "group name"
  let refuse {α : Type} (problem : PatternProblem) : PatternReader α :=
    report problem (name.length + 1)
  if isIdentifier name then
    match state.groups.names.lookup (String.ofList name) with
    | some group => return (group, state.groups)
    | none => refuse (.unknownGroupName (String.ofList name))
  else
    match readInteger? name with
    | some (.ofNat group) =>
      if group = 0 then refuse .badGroupNumber
      else if groupLimit ≤ group then refuse (.unknownGroup group)
      else
        let place := (← position) - name.length - 1
        let known := (state.groups.conditions.lookup group).isSome
        let conditions :=
          if known then state.groups.conditions
          else state.groups.conditions ++ [(group, place)]
        return (group, { state.groups with conditions })
    | _ => refuse (.badGroupName (String.ofList name))

/-- Opens a condition. -/
def openCondition (state : PatternState) (start : Nat) : PatternReader PatternState := do
  let (group, groups) ← readConditionGroup state
  groups.checkLookbehind group
  return { state with groups }.openGroup (.condition group) start state.frame.flags

/-- Opens a group that looks ahead. -/
def openAhead (state : PatternState) (start : Nat) (negated : Bool) : PatternState :=
  state.openGroup (.look false negated state.groups.lookbehindLimit) start state.frame.flags

/-- Opens a group that looks back. -/
def openBehind (state : PatternState) (start : Nat) (negated : Bool) : PatternState :=
  let outer := state.groups.lookbehindLimit
  let groups := { state.groups with lookbehindLimit := some (outer.getD state.groups.next) }
  { state with groups }.openGroup (.look true negated outer) start state.frame.flags

/-- Reads a comment up to its parenthesis. -/
def skipComment (start : Nat) : PatternReader Unit :=
  loopFrom () fun _ => do
    match (← read?) with
    | none => reportAt .unterminatedComment start
    | some text => if text = [')'] then return .inr () else return .inl ()

/-- Reads what an opening parenthesis and a question mark begin. -/
def openExtension (state : PatternState) (start : Nat) : PatternReader PatternState := do
  match (← read?) with
  | none => report .unexpectedEnd 0
  | some ['P'] =>
    if (← accept '<') then
      let name ← readUntil '>' "group name"
      checkGroupName name
      openCapture state start (some name)
    else if (← accept '=') then readNamedReference state
    else
      match (← read?) with
      | none => report .unexpectedEnd 0
      | some text => report (.unknownExtension ('P' :: text)) (text.length + 2)
  | some [':'] => return state.openGroup .plain start state.frame.flags
  | some ['#'] =>
    skipComment start
    return state
  | some ['='] => return openAhead state start false
  | some ['!'] => return openAhead state start true
  | some ['<'] =>
    match (← read?) with
    | none => report .unexpectedEnd 0
    | some ['='] => return openBehind state start false
    | some ['!'] => return openBehind state start true
    | some text => report (.unknownExtension ('<' :: text)) (text.length + 2)
  | some ['('] => openCondition state start
  | some ['>'] => return state.openGroup .atomic start state.frame.flags
  | some ['-'] => readFlags state start ['-']
  | some text =>
    match text with
    | [letter] =>
      if (PatternFlags.ofLetter? letter).isSome then readFlags state start text
      else report (.unknownExtension text) (text.length + 1)
    | _ => report (.unknownExtension text) (text.length + 1)

/-- Ends an alternative of the innermost group. A condition has at most two. -/
def endAlternative (state : PatternState) (place : Nat) : PatternReader PatternState := do
  let frame := state.frame
  let twoRead := match frame.opening with
    | .condition _ => !frame.alternatives.isEmpty
    | _ => false
  if twoRead then reportAt .tooManyBranches place
  else
    let alternative := Pattern.sequence (frame.items.reverse.map (·.pattern))
    return { state with
      frame := { frame with items := [], alternatives := frame.alternatives ++ [alternative] } }

/-- All alternatives of a group. -/
def GroupFrame.branches (frame : GroupFrame) : List Pattern :=
  frame.alternatives ++ [.sequence (frame.items.reverse.map (·.pattern))]

/-- Closes the innermost group and puts it into the one around it. -/
def closeGroup (state : PatternState) (outer : GroupFrame) (rest : List GroupFrame) :
    PatternState :=
  let branches := state.frame.branches
  let body := Pattern.choice branches
  let width := body.width state.groups.width
  let back := { state with frame := outer, outer := rest }
  match state.frame.opening with
  | .whole | .plain => back.push body
  | .atomic => back.push (.atomic body)
  | .capture group =>
    let groups := { state.groups with closed := (group, width) :: state.groups.closed }
    { back with groups }.push (.capture group body)
  | .look behind negated outerLimit =>
    let groups := { state.groups with lookbehindLimit := outerLimit }
    { back with groups }.push (.look (if behind then some width.least else none) negated body)
  | .condition group =>
    match branches with
    | yes :: no :: _ => back.push (.condition group yes no)
    | _ => back.push (.condition group body .empty)

/-! ### The whole pattern -/

/-- The pattern at the end of what can be read, with the checks that need all of it. -/
def finishPattern (state : PatternState) : PatternReader Pattern := do
  if state.flags.asciiOnly && state.flags.unicode then throw .asciiAndUnicode
  if (← peek?).isSome then report .unbalancedParenthesis 0
  match state.groups.conditions.find? fun (group, _) => state.groups.next ≤ group with
  | some (group, place) => reportAt (.unknownGroup group) place
  | none =>
    let pattern := Pattern.choice state.frame.branches
    match pattern.unmatchable? state.flags.template state.groups.width with
    | some problem => throw (.whole problem)
    | none => return pattern

/-- Skips a comment of a verbose pattern, to the end of its line. -/
def skipLine : PatternReader Unit :=
  loopFrom () fun _ => do
    match (← read?) with
    | none => return .inr ()
    | some text => if text = ['\n'] then return .inr () else return .inl ()

/-- Reads the item that a character begins. -/
def readCharacterItem (names : CharacterNames) (state : PatternState) (place : Nat)
    (character : Char) : PatternReader PatternState := do
  match character with
  | '[' =>
    let (members, complement) ← readSet names place
    return state.pushSet members complement
  | '(' =>
    if (← accept '?') then openExtension state place else openCapture state place none
  | '.' => return state.push (.any state.frame.flags.dotAll)
  | '^' =>
    let anchor := if state.frame.flags.multiline then Anchor.lineStart else .start
    return state.push (.anchor anchor) .anchor
  | '$' =>
    let anchor := if state.frame.flags.multiline then Anchor.lineFinish else .finishOrLastLine
    return state.push (.anchor anchor) .anchor
  | _ =>
    if character = '*' || character = '+' || character = '?' || character = '\x7b' then
      readRepetition state place character
    else return state.pushCode character.toNat

/-- Reads the item that a token begins. -/
def readItem (names : CharacterNames) (state : PatternState) (place : Nat) (text : List Char) :
    PatternReader PatternState := do
  match text with
  | [character] => readCharacterItem names state place character
  | ['\\', character] => readEscapeItem names state character
  | _ => throw .stuck

/-- The characters that a verbose pattern may be spaced with. -/
def isPatternSpace (character : Char) : Bool :=
  character = ' ' || (9 ≤ character.toNat && character.toNat ≤ 13)

/-- Reads the next token and what belongs to it, and ends the pattern when nothing can follow. -/
def readStep (names : CharacterNames) (state : PatternState) :
    PatternReader (PatternState ⊕ Pattern) := do
  let place ← position
  match (← peek?) with
  | none =>
    if state.outer.isEmpty then return .inr (← finishPattern state)
    else reportAt .unterminatedGroup state.frame.start
  | some [')'] =>
    match state.outer with
    | [] => return .inr (← finishPattern state)
    | outer :: rest =>
      discard read?
      return .inl (closeGroup state outer rest)
  | some ['|'] =>
    let ended ← endAlternative state place
    discard read?
    return .inl ended
  | some text =>
    discard read?
    if state.frame.flags.verbose && text.all isPatternSpace then return .inl state
    else if state.frame.flags.verbose && text = ['#'] then
      skipLine
      return .inl state
    else return .inl (← readItem names state place text)

/-- The pattern that a text denotes, given the names that characters have. -/
def Pattern.parse (names : CharacterNames) (text : String) : Except PatternFault Pattern :=
  let characters := text.toList
  let reader : PatternReader Pattern := do
    refuseDangling
    loop (readStep names) { frame := { opening := .whole, start := 0, flags := {} } }
  (reader ⟨patternTokens characters 0, characters.length⟩).map (·.1)

end ColdStart
