/-
This file cuts a document into tokens: tags, characters of text, and characters
that were written as references or in literal sections. The cutter reads one
character at a time and keeps what it is in the middle of as its state, so the
tokens of two stretches of text are those of the first followed by those of the
second from the state the first one leaves. Comments and processing
instructions leave no token. Document types are not read.
-/

import ColdStart.Xml.Reference

namespace ColdStart

/-- An attribute as it stands in a tag, its value resolved. -/
structure XmlAttribute where
  name : List Char
  value : List Char
  deriving DecidableEq, Repr

/-- A piece of a document. -/
inductive XmlToken where
  | opening (name : List Char) (attributes : List XmlAttribute)
  | closing (name : List Char)
  /-- A character of text that stands as it is. -/
  | plain (character : Char)
  /-- Characters that do not stand as they are. -/
  | resolved (characters : List Char)
  deriving DecidableEq, Repr

/-- The name of a tag that is being read, and its attributes so far. -/
structure XmlTag where
  name : List Char
  attributes : List XmlAttribute := []
  deriving DecidableEq, Repr

/-- The tag with one more attribute. -/
def XmlTag.push (tag : XmlTag) (added : XmlAttribute) : XmlTag :=
  { tag with attributes := tag.attributes ++ [added] }

/-- What the cutter is in the middle of. Characters read so far are kept latest first. -/
inductive XmlState where
  /-- Text, after so many closing brackets, at most two. -/
  | text (brackets : Nat)
  /-- A reference in text. -/
  | reference (reading : List Char)
  /-- Behind an opening angle bracket. -/
  | markup
  /-- Behind an exclamation mark: the start of a comment or of a literal section. -/
  | declaration (reading : List Char)
  /-- A comment, after so many hyphens, at most two. -/
  | comment (hyphens : Nat)
  /-- A literal section, after so many closing brackets, at most two. -/
  | literal (reading : List Char) (brackets : Nat)
  /-- The target of a processing instruction. -/
  | target (reading : List Char)
  /-- Behind a target that a question mark ends. -/
  | targetEnd
  /-- A processing instruction, after a question mark or not. -/
  | instruction (question : Bool)
  /-- The name of an opening tag. -/
  | openName (reading : List Char)
  /-- Between attributes, after white space or not. -/
  | inTag (tag : XmlTag) (spaced : Bool)
  /-- The name of an attribute. -/
  | attributeName (tag : XmlTag) (reading : List Char)
  /-- Behind the name of an attribute. -/
  | afterAttributeName (tag : XmlTag) (name : List Char)
  /-- Behind the equals sign of an attribute. -/
  | beforeValue (tag : XmlTag) (name : List Char)
  /-- The value of an attribute. -/
  | value (tag : XmlTag) (name : List Char) (quote : Char) (reading : List Char)
  /-- A reference in the value of an attribute. -/
  | valueReference (tag : XmlTag) (name : List Char) (quote : Char) (before : List Char)
      (reading : List Char)
  /-- Behind the slash of a tag that closes itself. -/
  | selfClosing (tag : XmlTag)
  /-- The name of a closing tag. -/
  | closeName (reading : List Char)
  /-- Behind the name of a closing tag. -/
  | afterCloseName (name : List Char)
  deriving DecidableEq, Repr

namespace XmlState

/-- The state behind a complete tag. -/
def behindTag : XmlState := text 0

/-- Where a tag goes on: at white space, at its end, or nowhere else. -/
def continueTag (tag : XmlTag) (character : Char) : Option (XmlState × List XmlToken) :=
  if isXmlSpace character then some (inTag tag true, [])
  else if character = '>' then some (behindTag, [.opening tag.name tag.attributes])
  else if character = '/' then some (selfClosing tag, [])
  else none

/-- Whether a target may name a processing instruction: the name of the declaration may not, in
capital or small letters. -/
def isTarget (target : List Char) : Bool :=
  isXmlLocalName target && target.map Char.toLower != ['x', 'm', 'l']

/-- What an exclamation mark and these characters begin. -/
def beginDeclaration (reading : List Char) : Option XmlState :=
  if reading = "--".toList then some (comment 0)
  else if reading = "[CDATA[".toList then some (literal [] 0)
  else if reading.isPrefixOf "--".toList || reading.isPrefixOf "[CDATA[".toList then
    some (declaration reading.reverse)
  else none

/-- Reads one character: the next state and the tokens that are complete with it. Nothing, when
the character cannot stand there. -/
def step (state : XmlState) (character : Char) : Option (XmlState × List XmlToken) :=
  match state with
  | text brackets =>
    if character = '<' then some (markup, [])
    else if character = '&' then some (reference [], [])
    else if character = ']' then some (text (min (brackets + 1) 2), [.plain character])
    else if character = '>' && brackets = 2 then none
    else some (text 0, [.plain character])
  | reference reading =>
    if character = ';' then
      (resolveReference? reading.reverse).map fun resolved => (text 0, [.resolved [resolved]])
    else some (reference (character :: reading), [])
  | markup =>
    if character = '!' then some (declaration [], [])
    else if character = '?' then some (target [], [])
    else if character = '/' then some (closeName [], [])
    else if isXmlNameStart character then some (openName [character], [])
    else none
  | declaration reading =>
    (beginDeclaration (reading.reverse ++ [character])).map fun next => (next, [])
  | comment hyphens =>
    if hyphens = 2 then if character = '>' then some (text 0, []) else none
    else if character = '-' then some (comment (hyphens + 1), [])
    else some (comment 0, [])
  | literal reading brackets =>
    if character = ']' then
      if brackets = 2 then some (literal (']' :: reading) 2, [])
      else some (literal reading (brackets + 1), [])
    else if character = '>' && brackets = 2 then some (text 0, [.resolved reading.reverse])
    else
      some (literal (character :: List.replicate brackets ']' ++ reading) 0, [])
  | target reading =>
    if isXmlSpace character then
      if isTarget reading.reverse then some (instruction false, []) else none
    else if character = '?' then
      if isTarget reading.reverse then some (targetEnd, []) else none
    else some (target (character :: reading), [])
  | targetEnd => if character = '>' then some (text 0, []) else none
  | instruction question =>
    if character = '>' && question then some (text 0, [])
    else some (instruction (character = '?'), [])
  | openName reading =>
    if isXmlSpace character || character = '>' || character = '/' then
      if isXmlName reading.reverse then continueTag { name := reading.reverse } character else none
    else some (openName (character :: reading), [])
  | inTag tag spaced =>
    match continueTag tag character with
    | some next => some next
    | none =>
      if spaced && isXmlNameStart character then some (attributeName tag [character], []) else none
  | attributeName tag reading =>
    if isXmlSpace character || character = '=' then
      if isXmlName reading.reverse then
        if character = '=' then some (beforeValue tag reading.reverse, [])
        else some (afterAttributeName tag reading.reverse, [])
      else none
    else some (attributeName tag (character :: reading), [])
  | afterAttributeName tag name =>
    if isXmlSpace character then some (afterAttributeName tag name, [])
    else if character = '=' then some (beforeValue tag name, [])
    else none
  | beforeValue tag name =>
    if isXmlSpace character then some (beforeValue tag name, [])
    else if character = '"' || character = '\'' then some (value tag name character [], [])
    else none
  | value tag name quote reading =>
    if character = quote then some (inTag (tag.push ⟨name, reading.reverse⟩) false, [])
    else if character = '<' then none
    else if character = '&' then some (valueReference tag name quote reading [], [])
    else if isXmlSpace character then some (value tag name quote (' ' :: reading), [])
    else some (value tag name quote (character :: reading), [])
  | valueReference tag name quote before reading =>
    if character = ';' then
      (resolveReference? reading.reverse).map fun resolved =>
        (value tag name quote (resolved :: before), [])
    else some (valueReference tag name quote before (character :: reading), [])
  | selfClosing tag =>
    if character = '>' then
      some (behindTag, [.opening tag.name tag.attributes, .closing tag.name])
    else none
  | closeName reading =>
    if character = '>' then some (behindTag, [.closing reading.reverse])
    else if isXmlSpace character then some (afterCloseName reading.reverse, [])
    else some (closeName (character :: reading), [])
  | afterCloseName name =>
    if character = '>' then some (behindTag, [.closing name])
    else if isXmlSpace character then some (afterCloseName name, [])
    else none

/-- Reads a stretch of text: the state behind it, and its tokens before those of the text that
was read already, latest first. -/
def run : XmlState → (earlier : List XmlToken) → List Char → Option (XmlState × List XmlToken)
  | state, earlier, [] => some (state, earlier)
  | state, earlier, character :: rest =>
    match step state character with
    | none => none
    | some (next, tokens) => run next (tokens.reverseAux earlier) rest

end XmlState

/-- The text with every line end written as one newline. -/
def normalizeLineEnds : List Char → List Char
  | [] => []
  | '\r' :: '\n' :: rest => '\n' :: normalizeLineEnds rest
  | '\r' :: rest => '\n' :: normalizeLineEnds rest
  | character :: rest => character :: normalizeLineEnds rest

/-- The tokens of a stretch of text that begins and ends between tags. -/
def XmlToken.ofText? (text : List Char) : Option (List XmlToken) :=
  match XmlState.run (.text 0) [] text with
  | some (.text _, tokens) => some tokens.reverse
  | _ => none

end ColdStart
