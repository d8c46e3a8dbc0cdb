/-
This file holds the escapes that keep text from being read as markup. Text
between tags must hide the ampersand and the angle brackets; an attribute value
also its quote and the characters that a reader would fold into blanks; a page
hides both quotes as well.
-/

namespace ColdStart

/-- The text with some characters replaced by what stands for them. -/
def escapeWith (replacement? : Char → Option String) (text : String) : String :=
  String.ofList <| text.toList.flatMap fun character =>
    match replacement? character with
    | some replacement => replacement.toList
    | none => [character]

/-- What stands for a character of text between tags. -/
def contentEscape? : Char → Option String
  | '&' => some "&amp;"
  | '<' => some "&lt;"
  | '>' => some "&gt;"
  | _ => none

/-- What stands for a character of an attribute value in the given quotes. -/
def attributeEscape? (hideDouble : Bool) : Char → Option String
  | '\n' => some "&#10;"
  | '\r' => some "&#13;"
  | '\t' => some "&#9;"
  | '"' => if hideDouble then some "&quot;" else none
  | character => contentEscape? character

/-- What stands for a character of a page. -/
def pageEscape? : Char → Option String
  | '"' => some "&quot;"
  | '\'' => some "&#x27;"
  | character => contentEscape? character

/-- Text between tags. -/
def escapeContent (text : String) : String := escapeWith contentEscape? text

/-- An attribute value with its quotes: double ones, unless the text has a double quote and no
single one; with both, the double quote is hidden. -/
def quoteAttribute (text : String) : String :=
  let hasDouble := text.toList.contains '"'
  let hasSingle := text.toList.contains '\''
  if hasDouble && !hasSingle then "'" ++ escapeWith (attributeEscape? false) text ++ "'"
  else "\"" ++ escapeWith (attributeEscape? hasDouble) text ++ "\""

/-- Text or an attribute value of a page. -/
def escapePage (text : String) : String := escapeWith pageEscape? text

end ColdStart
