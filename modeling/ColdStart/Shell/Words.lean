/-
This file writes a command as one line that a shell splits into the same words.
A word of harmless characters stands as it is; any other is put between single
quotes, and a single quote in it between double ones.
-/

namespace ColdStart

/-- A program and its arguments. -/
abbrev Command := List String

/-- Whether a character means nothing to a shell. -/
def isBareChar (character : Char) : Bool :=
  character.isAlphanum || "_@%+=:,./-".toList.contains character

/-- One word as a shell reads it. -/
def shellWord (word : String) : String :=
  if word.toList.all isBareChar && !word.isEmpty then word
  else
    "'" ++ String.ofList (word.toList.flatMap fun character =>
      if character = '\'' then "'\"'\"'".toList else [character]) ++ "'"

/-- The words of a command on one line. -/
def commandLine (command : Command) : String := " ".intercalate (command.map shellWord)

end ColdStart
