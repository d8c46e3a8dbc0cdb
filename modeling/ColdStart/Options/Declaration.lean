/-
This file declares the options of the command line: how each is spelt, what it
asks for and how its value is read. A value that cannot be read is a fault that
names the option.
-/

import ColdStart.Backend
import ColdStart.Number.Binary64
import ColdStart.Number.Reading
import ColdStart.Text.Columns
import ColdStart.Text.Quoted

namespace ColdStart

/-- What a command line asks for. -/
structure Options where
  /-- A document to analyse, instead of a campaign. -/
  resultsFile : Option String := none
  /-- How many runs of a mode are made before those that count. -/
  warmups : Nat := 2
  /-- How many runs of a mode count. -/
  iterations : Nat := 10
  /-- How many modes are taken; zero is all of them. -/
  firstModes : Nat := 0
  /-- The patterns of the modes that are kept. -/
  configs : Option String := none
  /-- The pattern of a mode whose commands are shown, instead of a campaign. -/
  commandOnly : Option String := none
  /-- Whether resolution failures are collected. -/
  resolutionFails : Bool := false
  /-- Whether the variants of the runtime are added. -/
  expandToggles : Bool := false
  /-- The backend; none is that which the host prefers. -/
  backend : Option Backend := none
  /-- Whether the modes are listed, instead of a campaign. -/
  listConfigs : Bool := false
  /-- The directory of the files that are left. -/
  outputDirectory : String := "."
  /-- The file of the page, if one is asked for. -/
  page : Option String := none
  /-- The level of significance. -/
  level : Binary64 := .ofRatio false 5 100

/-- The options that a command line can name. -/
inductive OptionName where
  | help
  | warmups
  | iterations
  | firstModes
  | configs
  | commandOnly
  | resolutionFails
  | expandToggles
  | backend
  | listConfigs
  | outputDirectory
  | page
  | level
  deriving DecidableEq, Repr

/-- Why a command line cannot be read. -/
inductive OptionFault where
  /-- A shortened option is short for several. -/
  | ambiguous (text : String) (spellings : List String)
  /-- A value is missing. -/
  | noValue (name : OptionName)
  /-- A value was attached to an option that takes none. -/
  | unusedValue (name : OptionName) (value : String)
  /-- A count is negative. -/
  | negativeCount (name : OptionName) (value : Int)
  /-- A count is no whole number. -/
  | badCount (name : OptionName) (text : String)
  /-- A level is no number. -/
  | badLevel (name : OptionName) (text : String)
  /-- There is no such backend. -/
  | badBackend (name : OptionName) (text : String)
  /-- Nothing is known of these. -/
  | unrecognized (texts : List String)
  deriving DecidableEq, Repr

namespace OptionName

/-- All options, in the order in which they are declared. -/
def all : List OptionName :=
  [help, warmups, iterations, firstModes, configs, commandOnly, resolutionFails, expandToggles,
    backend, listConfigs, outputDirectory, page, level]

/-- How an option is spelt. -/
def spellings : OptionName → List String
  | help => ["-h", "--help"]
  | warmups => ["--warmups"]
  | iterations => ["--iterations"]
  | firstModes => ["--first-n-configs"]
  | configs => ["--configs"]
  | commandOnly => ["--command-only"]
  | resolutionFails => ["--resolution-fails"]
  | expandToggles => ["--expand-runtime-toggles"]
  | backend => ["--backend"]
  | listConfigs => ["--list-configs"]
  | outputDirectory => ["--output-dir"]
  | page => ["--html"]
  | level => ["--alpha"]

/-- What an option asks for. -/
def purpose : OptionName → String
  | help => "Show this text and exit"
  | warmups => "Runs of each configuration before those that count"
  | iterations => "Runs of each configuration that count"
  | firstModes => "Process only the first of the selected configurations"
  | configs => "Keep configurations whose name matches one of these patterns"
  | commandOnly => "Show the commands of the first matching configuration and exit"
  | resolutionFails => "Collect resolution failures instead of timings"
  | expandToggles => "Add the runtime variants of every configuration"
  | backend => "How configurations are built and started"
  | listConfigs => "List the selected configurations and exit"
  | outputDirectory => "Directory of the documents, logs and reports"
  | page => "Also write the report as a page"
  | level => "Level of significance of the comparison with the baseline"

/-- The spellings of an option as messages show them. -/
def title (name : OptionName) : String := "/".intercalate name.spellings

/-- Every spelling with its option, in order. -/
def declared : List (String × OptionName) :=
  all.flatMap fun name => name.spellings.map fun spelling => (spelling, name)

end OptionName

namespace OptionFault

/-- The sentence about an option. -/
def about (name : OptionName) (sentence : String) : String :=
  "argument " ++ name.title ++ ": " ++ sentence

/-- The sentence that reports the fault. -/
def message : OptionFault → String
  | ambiguous text spellings =>
    "ambiguous option: " ++ text ++ " could match " ++ ", ".intercalate spellings
  | noValue name => about name "expected one argument"
  | unusedValue name value => about name ("ignored explicit argument " ++ quoted value)
  | negativeCount name value => about name ("must be >= 0, got " ++ integerText value)
  | badCount name text => about name ("invalid _non_negative_int value: " ++ quoted text)
  | badLevel name text => about name ("invalid float value: " ++ quoted text)
  | badBackend name text =>
    about name ("invalid choice: " ++ quoted text ++ " (choose from " ++
      ", ".intercalate (Backend.all.map fun backend => quoted backend.name) ++ ")")
  | unrecognized texts => "unrecognized arguments: " ++ " ".intercalate texts

end OptionFault

/-! ### Values -/

/-- The count that the value of an option denotes. -/
def countValue (name : OptionName) (text : String) : Except OptionFault Nat :=
  match readInteger? text.toList with
  | some value => if value < 0 then .error (.negativeCount name value) else .ok value.toNat
  | none => .error (.badCount name text)

/-- The level that the value of an option denotes. -/
def levelValue (name : OptionName) (text : String) : Except OptionFault Binary64 :=
  match readBinary64? text.toList with
  | some value => .ok value
  | none => .error (.badLevel name text)

/-- The backend that the value of an option names. -/
def backendValue (name : OptionName) (text : String) : Except OptionFault Backend :=
  match Backend.all.find? fun backend => backend.name = text with
  | some backend => .ok backend
  | none => .error (.badBackend name text)

/-- What an option does. -/
inductive OptionKind where
  /-- It shows what there is. -/
  | shows
  /-- It stands alone. -/
  | alone (set : Options → Options)
  /-- It has a value. -/
  | valued (set : String → Options → Except OptionFault Options)

/-- What an option does to what is asked for. -/
def OptionName.kind : OptionName → OptionKind
  | help => .shows
  | resolutionFails => .alone fun options => { options with resolutionFails := true }
  | expandToggles => .alone fun options => { options with expandToggles := true }
  | listConfigs => .alone fun options => { options with listConfigs := true }
  | warmups => .valued fun text options =>
    return { options with warmups := ← countValue warmups text }
  | iterations => .valued fun text options =>
    return { options with iterations := ← countValue iterations text }
  | firstModes => .valued fun text options =>
    return { options with firstModes := ← countValue firstModes text }
  | configs => .valued fun text options => return { options with configs := some text }
  | commandOnly => .valued fun text options => return { options with commandOnly := some text }
  | backend => .valued fun text options =>
    return { options with backend := some (← backendValue backend text) }
  | outputDirectory => .valued fun text options => return { options with outputDirectory := text }
  | page => .valued fun text options => return { options with page := some text }
  | level => .valued fun text options =>
    return { options with level := ← levelValue level text }

end ColdStart
