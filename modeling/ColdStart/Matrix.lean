/-
This file holds the matrix of a campaign: the modes that are still selected, in
order. Selecting narrows it; looking up, walking and cutting leave it alone.
-/

import ColdStart.Mode
import ColdStart.Selection

namespace ColdStart

/-- The modes of a campaign, in order. -/
structure Matrix where
  modes : List Mode
  deriving DecidableEq, Repr

/-- Why a walk cannot be limited. -/
inductive LimitFault where
  /-- The limit is minus one or past what can be counted. -/
  | stop
  /-- The limit is another negative number. -/
  | negative
  deriving DecidableEq, Repr

/-- The sentence that reports the fault. -/
def LimitFault.message : LimitFault → String
  | stop =>
    "Stop argument for islice() must be None or an integer: 0 <= x <= sys.maxsize."
  | negative =>
    "Indices for islice() must be None or an integer: 0 <= x <= sys.maxsize."

namespace Matrix

/-- The matrix of the given modes, or of the templates, with the variants of the runtime if they
are asked for. -/
def create (modes? : Option (List Mode)) (expand : Bool) : Matrix :=
  let base := modes?.getD Mode.templates
  ⟨if expand then Mode.expand base else base⟩

/-- The number of modes. -/
def count (matrix : Matrix) : Nat := matrix.modes.length

/-- The names of the modes. -/
def names (matrix : Matrix) : List String := matrix.modes.map (·.name)

/-- The matrix with only the modes whose name is selected. -/
def select (matrix : Matrix) (selection : String) (engine : PatternEngine := .plain) :
    Except SelectionFault Matrix :=
  (readSelection engine selection).map fun patterns =>
    ⟨matrix.modes.filter fun mode => selects engine patterns mode.name⟩

/-- The first mode with a matching name. -/
def find (matrix : Matrix) (text : String) (engine : PatternEngine := .plain) :
    Except SelectionFault Mode :=
  match readPattern engine text with
  | .error fault => .error fault
  | .ok pattern =>
    match matrix.modes.find? fun mode => engine.occursIn pattern mode.name with
    | some mode => .ok mode
    | none => .error (.noMatch text)

/-- The modes with their places. -/
def each (matrix : Matrix) : List (Mode × Nat) := matrix.modes.zipIdx

/-- A list has fewer members than this, `2 ^ 63`. -/
def countLimit : Int := 9223372036854775808

/-- The first modes with their places, as many as the limit says. -/
def eachUntil (matrix : Matrix) (limit : Int) : Except LimitFault (List (Mode × Nat)) :=
  if limit = -1 || countLimit ≤ limit || limit < -countLimit then .error .stop
  else if limit < 0 then .error .negative
  else .ok (matrix.modes.take limit.toNat).zipIdx

end Matrix

end ColdStart
