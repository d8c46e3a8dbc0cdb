/-
This file lays out columns. Texts are filled up with spaces on the right,
numbers on the left; what is wider than its column is left whole. Widths count
characters.
-/

namespace ColdStart

/-- The text with spaces after it up to a width. -/
def padRight (width : Nat) (text : String) : String :=
  text ++ String.ofList (List.replicate (width - text.length) ' ')

/-- The text with spaces before it up to a width. -/
def padLeft (width : Nat) (text : String) : String :=
  String.ofList (List.replicate (width - text.length) ' ') ++ text

/-- An integer in decimal. -/
def integerText (value : Int) : String := toString value

/-- A title and a line of the same length under it. -/
def underlined (title : String) : List String :=
  [title, String.ofList (List.replicate title.length '=')]

/-- The lines with line ends between them. -/
def joinLines (lines : List String) : String := "\n".intercalate lines

end ColdStart
