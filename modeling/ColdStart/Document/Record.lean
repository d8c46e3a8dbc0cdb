/-
This file holds what a results document says of one mode: the mode, its timing
samples in order, the failures that were reported, and how many measured runs
were dropped. It also holds the words of the format and the reasons why a
document is refused.
-/

import ColdStart.Document.FailureSet
import ColdStart.Mode
import ColdStart.Number.Quantity
import ColdStart.Text.Quoted

namespace ColdStart

/-- One measurement of one phase, in whole milliseconds. -/
structure Sample where
  phase : String
  total : Int
  user : Int
  system : Int
  deriving DecidableEq, Repr

/-- The sample with the whole parts of the quantities. The first one without is reported. -/
def Sample.ofQuantities (phase : String) (total user system : Quantity) :
    Except NumberFault Sample := do
  let total ← total.toWhole
  let user ← user.toWhole
  let system ← system.toWhole
  return { phase, total, user, system }

/-- What a document says of one mode. -/
structure Record where
  mode : Mode
  samples : List Sample := []
  failures : FailureSet := .empty
  dropped : Int := 0
  deriving DecidableEq, Repr

/-! ### Words of the format -/

/-- The phase of the runtime's start. -/
def runtimePhase : String := "RUNTIME"

/-- The phase up to the initialisation of the host. -/
def hostPhase : String := "APPHOST-INIT"

/-- The phase up to the start of the web host. -/
def webPhase : String := "WEBHOST-START-ASYNC"

/-- The phase up to the end of the start. -/
def appPhase : String := "APP"

/-- The phases that a document may name. -/
def knownPhases : List String := [runtimePhase, hostPhase, webPhase, appPhase]

/-- The tag of the element that holds a toggle. -/
def Toggle.tag : Toggle → String
  | runtimeComposite => "NetCoreComposite"
  | runtimeIncludesWeb => "NetCoreIncludeAspNet"
  | webComposite => "AspNetComposite"
  | appPrecompiled => "AppR2R"
  | appComposite => "AppComposite"
  | oneBigComposite => "OneBigComposite"
  | appAvx2 => "AppAVX2"
  | readyToRun => "UseReadyToRun"
  | tieredCompilation => "UseTieredCompilation"

/-! ### Refusals -/

/-- Why a text is no results document. -/
inductive DocumentFault where
  /-- The reason is that of the parser. -/
  | notWellFormed (reason : String)
  | missingName
  | missingElement (owner tag : String)
  | badFlag (tag : String) (text : Option String)
  | badDropped (text : String)
  | missingPhase
  | unknownPhase (phase : String)
  | badTime (tag : String) (text : Option String)
  deriving DecidableEq, Repr

/-- The sentence that reports a refusal. -/
def DocumentFault.message : DocumentFault → String
  | notWellFormed reason => "Results document is not well formed: " ++ reason
  | missingName => "<BuildAndRun> is missing the Name attribute"
  | missingElement owner tag => owner ++ " is missing <" ++ tag ++ ">"
  | badFlag tag text => "<" ++ tag ++ "> must be True or False, got " ++ quotedOrNone text
  | badDropped text => "Dropped must be an integer, got " ++ quoted text
  | missingPhase => "<Timing> is missing the Phase attribute"
  | unknownPhase phase => "Unknown phase: " ++ phase
  | badTime tag text => "<" ++ tag ++ "> must be numeric, got " ++ quotedOrNone text

end ColdStart
