/-
This file is the program. It looks up the files that the invocation may use,
carries the invocation out, prints what it printed and leaves the files that it
left. No program is started from here: every launch is refused, as it is where
there is no such program.
-/

import ColdStart.Invocation
import Std.Time.Format

namespace ColdStart

/-- The moment of the invocation. -/
def currentMoment : IO Moment := do
  let now ← Std.Time.PlainDateTime.now
  return {
    year := now.date.year.toInt.toNat
    month := now.date.month.val.toNat
    day := now.date.day.val.toNat
    hour := now.time.hour.val.toNat
    minute := now.time.minute.val.toNat
    second := now.time.second.val.toNat }

/-- The paths that an invocation may read or write. -/
def usedPaths (arguments : List String) (moment : Moment) : List Path :=
  match readOptions arguments with
  | .error _ => []
  | .ok options =>
    let settings := options.settings "." moment
    [settings.resultsPath, settings.failuresPath, settings.reportPath, settings.buildLogPath,
      settings.runLogPath] ++ options.pagePath?.toList ++
      ((nonempty? options.resultsFile).map Path.ofText).toList

/-- What is at a path, if anything. -/
def lookUp (path : Path) : IO (Option Entry) := do
  try
    return some (.file (← IO.FS.readBinFile path.text))
  catch
    | .noFileOrDirectory .. => return none
    | _ => return some .directory

/-- The tree with what is found at each of a path's steps. -/
def findSteps (tree : FileTree) (path : Path) : Nat → IO FileTree
  | 0 => return tree
  | count + 1 => do
    let known ← findSteps tree path count
    let target := { path with steps := path.steps.take (count + 1) }
    match known.locate target with
    | .ok (place, none) =>
      match ← lookUp target with
      | some entry => return known.put place entry
      | none => return known
    | _ => return known

/-- The files that an invocation may use, as they are found. -/
def findFiles (paths : List Path) : IO FileTree :=
  paths.foldlM (fun tree path => findSteps tree path path.steps.length) {}

/-- Leaves what is at a place. -/
def leave (place : Place) (entry : Entry) : IO Unit :=
  let path := "/".intercalate place
  match entry with
  | .directory => IO.FS.createDirAll path
  | .file content => IO.FS.writeBinFile path content

/-- Leaves what was not there before, the oldest first. -/
def leaveFiles (before after : FileTree) : IO Unit :=
  after.entries.reverse.forM fun (place, entry) =>
    if before.get? place == some entry then pure () else leave place entry

/-- Carries out an invocation with these arguments; its exit code. -/
def carryOut (arguments : List String) : IO UInt32 := do
  let moment ← currentMoment
  let files ← findFiles (usedPaths arguments moment)
  let workDirectory := toString (← IO.currentDir)
  let invocation : Invocation := { arguments, workDirectory, moment }
  let (ending, workspace) := invocation.run.run { files }
  leaveFiles files workspace.files
  IO.print workspace.session.output
  IO.eprint workspace.session.errors
  match ending with
  | .exit code => return code.toUInt32
  | .brokenOff fault =>
    IO.eprintln fault.message
    return 1

end ColdStart

/-- The command line. -/
def main (arguments : List String) : IO UInt32 := ColdStart.carryOut arguments
