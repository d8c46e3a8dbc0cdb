/-
This file compares the failures of each mode with those of the first: which are
new and which are gone. The first is compared with nothing, so all its failures
are new.
-/

import ColdStart.Document.Record
import ColdStart.Text.Columns

namespace ColdStart

/-- The failures of a mode against those of the first. -/
structure FailureComparison where
  mode : Mode
  failures : FailureSet
  introduced : FailureSet
  fixed : FailureSet
  deriving DecidableEq, Repr

/-- The failures of a record against the failures of a baseline. -/
def FailureComparison.against (baseline : FailureSet) (record : Record) : FailureComparison :=
  { mode := record.mode
    failures := record.failures
    introduced := record.failures.without baseline
    fixed := baseline.without record.failures }

/-- The failures of each record against those of the first. -/
def compareFailures (records : List Record) : List FailureComparison :=
  match records with
  | [] => []
  | first :: others =>
    .against .empty first :: others.map (.against first.failures)

/-- The headings of the summary. -/
def failuresHeader : String := "FAILURES | BASELINE+ | BASELINE- | MODE"

/-- The row of a mode. -/
def FailureComparison.row (comparison : FailureComparison) : String :=
  " | ".intercalate [padLeft 8 (integerText comparison.failures.size),
    padLeft 9 (integerText comparison.introduced.size),
    padLeft 9 (integerText comparison.fixed.size), comparison.mode.describe]

/-- The failures of the first mode. -/
def FailureComparison.baselineLines (comparison : FailureComparison) : List String :=
  underlined comparison.mode.describe ++ underlined "BASELINE FAILURES" ++
    comparison.introduced.members ++ [""]

/-- What differs between the failures of a later mode and those of the first. -/
def FailureComparison.differenceLines (comparison : FailureComparison) : List String :=
  underlined comparison.mode.describe ++ underlined "FAILURES ON TOP OF BASELINE" ++
    comparison.introduced.members ++ underlined "MISSING BASELINE FAILURES" ++
    comparison.fixed.members ++ [""]

/-- The details of all modes. -/
def failureDetails : List FailureComparison → List String
  | [] => []
  | first :: others => first.baselineLines ++ others.flatMap (·.differenceLines)

/-- The failures report. -/
def renderFailures (records : List Record) : String :=
  let comparisons := compareFailures records
  joinLines (underlined "Summary" ++ underlined failuresHeader ++ comparisons.map (·.row)) ++
    "\n\n" ++ joinLines (underlined "Details" ++ failureDetails comparisons) ++ "\n"

end ColdStart
