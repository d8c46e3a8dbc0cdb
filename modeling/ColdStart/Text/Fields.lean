/-
This file cuts a text at a separator. Every separator ends a stretch, so that
there is always one stretch more than there are separators.
-/

namespace ColdStart

/-- The stretches of a text between separators. -/
def fieldsAt (separator : Char) : List Char → List (List Char)
  | [] => [[]]
  | character :: rest =>
    if character = separator then [] :: fieldsAt separator rest
    else
      match fieldsAt separator rest with
      | first :: others => (character :: first) :: others
      | [] => [[character]]

end ColdStart
