/-
This file reads a line as a shell divides it into words and shows that the line of a command
is read as that command, whatever characters its words have. A line is read character by
character, bare or within quotes. The reader refuses every line in which a character means
something else to a shell than to stand for itself, to quote or to divide, so what it reads
is what any shell reads.
-/

import ColdStart.Shell.Words

namespace ColdStart

/-! ### Reading words -/

/-- Where in a line a shell reads: outside quotes, between single ones or between double ones. -/
inductive Quoting where
  | bare
  | single
  | double
  deriving DecidableEq, Repr

/-- The signs that mean something to a shell outside quotes: they end, join or redirect commands,
expand, match, escape, quote, or begin a comment. -/
def shellSigns : List Char := "|&;<>()$`\\\"'*?[]\x7b\x7d#~!^".toList

/-- Whether a character stands for itself outside quotes: it is visible and no sign. -/
def isPlainOutside (character : Char) : Bool :=
  '!' ≤ character && character ≤ '~' && !shellSigns.contains character

/-- Whether a character stands for itself between double quotes. -/
def isPlainInDouble (character : Char) : Bool := !"$`\\\"".toList.contains character

/-- What was read of a line: the words that have ended, and the word that was begun, if any. -/
structure WordReading where
  words : Command := []
  begun? : Option (List Char) := none
  quoting : Quoting := .bare
  deriving DecidableEq, Repr

namespace WordReading

/-- The word that was begun, or a new one, goes on with more characters. -/
def extend (reading : WordReading) (more : List Char) : WordReading :=
  { reading with begun? := some (reading.begun?.getD [] ++ more) }

/-- The word that was begun ends, if there is one. -/
def finish (reading : WordReading) : WordReading :=
  { reading with
    words := reading.words ++ (reading.begun?.map String.ofList).toList
    begun? := none }

/-- Reads one more character, unless it means something else than to quote or to divide words.
Quotes begin a word even if there is nothing between them. -/
def step (reading : WordReading) (character : Char) : Option WordReading :=
  match reading.quoting with
  | .bare =>
    if character = ' ' ∨ character = '\t' then some reading.finish
    else if character = '\'' then some { reading.extend [] with quoting := .single }
    else if character = '"' then some { reading.extend [] with quoting := .double }
    else if isPlainOutside character then some (reading.extend [character])
    else none
  | .single =>
    if character = '\'' then some { reading with quoting := .bare }
    else some (reading.extend [character])
  | .double =>
    if character = '"' then some { reading with quoting := .bare }
    else if isPlainInDouble character then some (reading.extend [character])
    else none

/-- The words that were read, if no quote is left open. -/
def words? (reading : WordReading) : Option Command :=
  if reading.quoting = .bare then some reading.finish.words else none

end WordReading

/-- The words of a line, if it has nothing but words. -/
def readShellWords (line : String) : Option Command :=
  (line.toList.foldlM WordReading.step {}).bind WordReading.words?

/-! ### Words -/

/-- What is written without quotes stands for itself. -/
theorem isPlainOutside_of_isBareChar {character : Char} (bare : isBareChar character = true) :
    isPlainOutside character = true := by
  have visible : ∀ code < 128, isBareChar (Char.ofNat code) = true →
      isPlainOutside (Char.ofNat code) = true := by decide +kernel
  have small : character.toNat < 128 := by
    rcases Bool.or_eq_true_iff.mp bare with letter | sign
    · change (decide (65 ≤ character.val ∧ character.val ≤ 90) ||
        decide (97 ≤ character.val) && decide (character.val ≤ 122) ||
        decide (48 ≤ character.val) && decide (character.val ≤ 57)) = true at letter
      simp only [Bool.or_eq_true, Bool.and_eq_true, decide_eq_true_eq,
        UInt32.le_iff_toNat_le] at letter
      change ((65 ≤ _ ∧ _ ≤ 90) ∨ 97 ≤ _ ∧ _ ≤ 122) ∨ 48 ≤ _ ∧ _ ≤ 57 at letter
      change character.val.toNat < 128
      omega
    · have low : ∀ sign ∈ "_@%+=:,./-".toList, sign.toNat < 128 := by simp
      exact low character (List.contains_iff_mem.mp sign)
  rw [← Char.ofNat_toNat character] at bare ⊢
  exact visible _ small bare

namespace WordReading

variable (words : Command)

/-- A character that stands for itself outside quotes is added to the word. -/
theorem step_of_isPlainOutside {character : Char} (plain : isPlainOutside character = true)
    (begun? : Option (List Char)) :
    step ⟨words, begun?, .bare⟩ character =
      some ⟨words, some (begun?.getD [] ++ [character]), .bare⟩ := by
  have dividers : [' ', '\t', '\'', '"'].all (!isPlainOutside ·) = true := by decide +kernel
  have other : ∀ sign ∈ [' ', '\t', '\'', '"'], character ≠ sign := by
    rintro sign isSign rfl
    have notPlain := List.all_eq_true.mp dividers _ isSign
    rw [plain] at notPlain
    cases notPlain
  simp_all [step, extend]

/-- A word without quotes is read as it stands. -/
theorem foldlM_bare {word : List Char} (someCharacter : word ≠ [])
    (plain : ∀ character ∈ word, isPlainOutside character = true) (begun? : Option (List Char)) :
    word.foldlM step ⟨words, begun?, .bare⟩ =
      some ⟨words, some (begun?.getD [] ++ word), .bare⟩ := by
  induction word generalizing begun? with
  | nil => exact absurd rfl someCharacter
  | cons first rest inductionHypothesis =>
    obtain ⟨plainFirst, plainRest⟩ := List.forall_mem_cons.mp plain
    rw [List.foldlM_cons, step_of_isPlainOutside words plainFirst]
    cases rest with
    | nil => rfl
    | cons second others =>
      refine (inductionHypothesis (List.cons_ne_nil _ _) plainRest _).trans ?_
      rw [Option.getD_some, List.append_assoc, List.singleton_append]

/-- Between single quotes all characters stand for themselves. A single quote ends them, stands
between double ones, and begins single ones again. -/
theorem foldlM_single (word begun : List Char) :
    (word.flatMap fun character =>
        if character = '\'' then "'\"'\"'".toList else [character]).foldlM step
          ⟨words, some begun, .single⟩ = some ⟨words, some (begun ++ word), .single⟩ := by
  induction word generalizing begun with
  | nil => rw [List.append_nil]; rfl
  | cons first rest inductionHypothesis =>
    have read : (if first = '\'' then "'\"'\"'".toList else [first]).foldlM step
        ⟨words, some begun, .single⟩ = some ⟨words, some (begun ++ [first]), .single⟩ := by
      by_cases quote : first = '\''
      · subst quote
        simp [step, extend, isPlainInDouble]
      · simp [quote, step, extend]
    rw [List.flatMap_cons, List.foldlM_append, read]
    refine (inductionHypothesis _).trans ?_
    rw [List.append_assoc, List.singleton_append]

/-- A word is read as it was before it was written. -/
theorem foldlM_shellWord (word : String) :
    (shellWord word).toList.foldlM step ⟨words, none, .bare⟩ =
      some ⟨words, some word.toList, .bare⟩ := by
  rw [shellWord]
  split
  · next bare =>
    simp only [Bool.and_eq_true, List.all_eq_true, Bool.not_eq_true',
      String.isEmpty_eq_false_iff] at bare
    obtain ⟨allBare, someCharacter⟩ := bare
    refine foldlM_bare words (by simpa using someCharacter) (fun character member => ?_) none
    exact isPlainOutside_of_isBareChar (allBare character member)
  · simp only [String.toList_append, String.toList_ofList, List.foldlM_append]
    have opens : "'".toList.foldlM step ⟨words, none, .bare⟩ = some ⟨words, some [], .single⟩ := rfl
    rw [opens]
    change ((_ : List Char).foldlM step ⟨words, some [], .single⟩ >>= _) = _
    rw [foldlM_single]
    rfl

/-- A line is read as the words it was made of. -/
theorem foldlM_commandLine (command : Command) :
    ((commandLine command).toList.foldlM step ⟨words, none, .bare⟩).bind words? =
      some (words ++ command) := by
  induction command generalizing words with
  | nil => simp [commandLine, words?, finish]
  | cons word rest inductionHypothesis =>
    cases rest with
    | nil =>
      have line : commandLine [word] = shellWord word := by simp [commandLine]
      rw [line, foldlM_shellWord]
      simp [words?, finish]
    | cons next others =>
      have line : commandLine (word :: next :: others) =
          shellWord word ++ " " ++ commandLine (next :: others) := by
        simp [commandLine, String.intercalate_cons_cons]
      have divided : " ".toList.foldlM step ⟨words, some word.toList, .bare⟩ =
          some ⟨words ++ [word], none, .bare⟩ := by simp [step, finish]
      have whole := inductionHypothesis (words ++ [word])
      rw [List.append_assoc, List.singleton_append] at whole
      rw [line, String.toList_append, String.toList_append, List.foldlM_append,
        List.foldlM_append, foldlM_shellWord, Option.bind_eq_bind, Option.bind_some, divided,
        Option.bind_some, whole]

end WordReading

theorem readShellWords_commandLine (command : Command) :
    readShellWords (commandLine command) = some command :=
  WordReading.foldlM_commandLine [] command

example : readShellWords "docker build 'it'\"'\"'s here' ''" =
    some ["docker", "build", "it's here", ""] := by
  decide +kernel

end ColdStart
