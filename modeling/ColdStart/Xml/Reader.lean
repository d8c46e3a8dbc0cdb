/-
This file reads a document: an optional declaration, and then tokens that must
nest into one element with nothing but white space around it. What is not well
formed has no element; the reader does not say where the fault lies. It knows no
document types. Other parsers of XML can be used in its place.
-/

import ColdStart.Text.Search
import ColdStart.Xml.Namespace
import ColdStart.Xml.Node

namespace ColdStart

/-! ### The declaration -/

/-- A setting of the declaration: its name, its value, and what follows. -/
structure XmlSetting where
  name : List Char
  value : List Char
  rest : List Char

/-- Whether a character may stand in the value of a setting. -/
def isSettingChar (character : Char) : Bool :=
  character.isAlphanum || character = '.' || character = '-' || character = '_'

/-- The value between quotes at the front, and what follows. -/
def quotedSetting? : List Char → Option (List Char × List Char)
  | [] => none
  | quote :: rest =>
    if quote = '"' || quote = '\'' then
      let value := rest.takeWhile isSettingChar
      match rest.dropWhile isSettingChar with
      | [] => none
      | closing :: behind => if closing = quote then some (value, behind) else none
    else none

/-- The setting at the front, which white space must precede. -/
def setting? : List Char → Option XmlSetting
  | [] => none
  | first :: rest =>
    if isXmlSpace first then
      let characters := rest.dropWhile isXmlSpace
      let name := characters.takeWhile fun character => character != '=' && !isXmlSpace character
      match (characters.drop name.length).dropWhile isXmlSpace with
      | '=' :: behind =>
        (quotedSetting? (behind.dropWhile isXmlSpace)).map fun (value, rest) =>
          { name, value, rest }
      | _ => none
    else none

/-- Whether the declaration may end with these characters: at most the standalone setting. -/
def endsDeclaration (characters : List Char) : Bool :=
  if characters.all isXmlSpace then true
  else
    match setting? characters with
    | some setting =>
      setting.name = "standalone".toList &&
        (setting.value = "yes".toList || setting.value = "no".toList) &&
        setting.rest.all isXmlSpace
    | none => false

/-- Whether the characters between the marks of a declaration are its settings: the version, and
then perhaps an encoding, which begins with a letter. -/
def isXmlDeclaration (characters : List Char) : Bool :=
  match setting? characters with
  | none => false
  | some version =>
    version.name = "version".toList &&
      (endsDeclaration version.rest ||
        match setting? version.rest with
        | some encoding =>
          encoding.name = "encoding".toList && encoding.value.head?.any Char.isAlpha &&
            endsDeclaration encoding.rest
        | none => false)

/-- The document behind its byte order mark, if it has one. -/
def skipByteOrderMark : List Char → List Char
  | '\uFEFF' :: rest => rest
  | characters => characters

/-- The document behind its declaration, if it has one. -/
def skipDeclaration? (characters : List Char) : Option (List Char) :=
  match stripFront? "<?xml".toList characters with
  | none => some characters
  | some rest =>
    if rest.head?.any fun character => isXmlSpace character || character = '?' then
      match splitFirst? "?>".toList rest with
      | some (settings, behind) => if isXmlDeclaration settings then some behind else none
      | none => none
    else some characters

/-! ### Nesting -/

/-- An element whose closing tag has not come: the text before its first child and its children,
both latest first. -/
structure OpenElement where
  name : List Char
  tag : String
  attributes : List (String × String)
  scope : XmlScope
  text : List Char := []
  children : List XmlNode := []

/-- The elements that are open, innermost first, and the root once it is closed. -/
structure XmlNesting where
  opened : List OpenElement := []
  root : Option XmlNode := none

namespace OpenElement

/-- The element with more text. Behind the first child text is not kept. -/
def addText (element : OpenElement) (characters : List Char) : OpenElement :=
  if element.children.isEmpty then
    { element with text := characters.reverse ++ element.text }
  else element

/-- The element with one more child. -/
def addChild (element : OpenElement) (child : XmlNode) : OpenElement :=
  { element with children := child :: element.children }

/-- The complete element. -/
def close (element : OpenElement) : XmlNode :=
  let text := if element.text.isEmpty then none else some (String.ofList element.text.reverse)
  .element element.tag element.attributes text element.children.reverse

end OpenElement

namespace XmlNesting

/-- Opens an element. Only one may stand outside all others. -/
def opening? (nesting : XmlNesting) (name : List Char) (attributes : List XmlAttribute) :
    Option XmlNesting := do
  if nesting.opened.isEmpty && nesting.root.isSome then none
  else
    let outer := (nesting.opened.head?.map (·.scope)).getD .outermost
    let scope ← outer.declare? attributes
    let tag ← scope.tag? name
    let attributes ← scope.attributes? attributes
    return { nesting with opened := { name, tag, attributes, scope } :: nesting.opened }

/-- Closes the innermost element, which must have the given name. -/
def closing? (nesting : XmlNesting) (name : List Char) : Option XmlNesting :=
  match nesting.opened with
  | [] => none
  | element :: outer =>
    if element.name != name then none
    else
      match outer with
      | [] => some { opened := [], root := some element.close }
      | around :: others =>
        some { nesting with opened := around.addChild element.close :: others }

/-- Adds text to the innermost element. -/
def addText? (nesting : XmlNesting) (characters : List Char) : Option XmlNesting :=
  match nesting.opened with
  | [] => none
  | element :: outer => some { nesting with opened := element.addText characters :: outer }

/-- Takes in one token. Outside all elements there may be white space. -/
def push? (nesting : XmlNesting) : XmlToken → Option XmlNesting
  | .opening name attributes => nesting.opening? name attributes
  | .closing name => nesting.closing? name
  | .plain character =>
    if nesting.opened.isEmpty && isXmlSpace character then some nesting
    else nesting.addText? [character]
  | .resolved characters => nesting.addText? characters

/-- Takes in tokens one after the other. -/
def pushAll? (nesting : XmlNesting) : List XmlToken → Option XmlNesting
  | [] => some nesting
  | token :: rest =>
    match nesting.push? token with
    | some next => next.pushAll? rest
    | none => none

end XmlNesting

/-- The element that tokens nest into. -/
def XmlNode.ofTokens? (tokens : List XmlToken) : Option XmlNode :=
  match XmlNesting.pushAll? {} tokens with
  | some nesting => if nesting.opened.isEmpty then nesting.root else none
  | none => none

/-- The element that a document holds. -/
def XmlNode.read? (document : String) : Option XmlNode :=
  if !document.toList.all isXmlChar then none
  else do
    let content ← skipDeclaration? (skipByteOrderMark (normalizeLineEnds document.toList))
    XmlNode.ofTokens? (← XmlToken.ofText? content)

/-! ### Parsers -/

/-- A parser of XML: the element that a text holds, or the reason why it is not well formed. -/
abbrev XmlParser := String → Except String XmlNode

/-- The parser that is used unless another is given. -/
def XmlParser.plain : XmlParser := fun text =>
  match XmlNode.read? text with
  | some root => .ok root
  | none => .error "no single element"

end ColdStart
