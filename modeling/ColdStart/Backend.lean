/-
This file holds the two ways of building and starting the server: container
images, and the setup script on the host. Each turns a mode into a build and a
run command and finds in the output of a build what a run must be given.
-/

import ColdStart.Mode
import ColdStart.Shell.Words
import ColdStart.Text.Blank
import ColdStart.Text.Search

namespace ColdStart

/-- What a child process left behind: its exit code, the lines it printed and the milliseconds it
took. -/
structure Transcript where
  exitCode : Int
  lines : List String := []
  elapsed : Nat := 0
  deriving DecidableEq, Repr

/-- A way of building and starting the server. -/
inductive Backend where
  | docker
  | script
  deriving DecidableEq, Repr

/-- A name that no backend has. -/
structure BackendFault where
  name : String
  deriving DecidableEq, Repr

/-- The word for a boolean in commands and documents. -/
def boolWord (value : Bool) : String := if value then "True" else "False"

/-- The digit for a boolean in an environment. -/
def boolDigit (value : Bool) : String := if value then "1" else "0"

/-- The argument of a container build that passes a toggle on, for those that concern it. -/
def Toggle.buildArgument? : Toggle → Option String
  | runtimeComposite => some "NETCORE_COMPOSITE"
  | runtimeIncludesWeb => some "NETCORE_INCLUDE_ASPNET"
  | webComposite => some "ASPNET_COMPOSITE"
  | appPrecompiled => some "APP_R2R"
  | appComposite => some "APP_COMPOSITE"
  | oneBigComposite => some "ONE_BIG_COMPOSITE"
  | appAvx2 => some "APP_AVX2"
  | readyToRun | tieredCompilation => none

/-- The switches of the setup script, in the order in which they are given. -/
def buildSwitches : List (Toggle × String) :=
  [(.appPrecompiled, "--appr2r"), (.appComposite, "--appcomposite"), (.appAvx2, "--appavx2"),
    (.runtimeComposite, "--netcorecomposite"), (.runtimeIncludesWeb, "--includeaspnet"),
    (.webComposite, "--aspnetcomposite"), (.oneBigComposite, "--onebigcomposite")]

/-- The tag of every image that is built. -/
def imageTag : String := "testcontainer"

/-- What the setup script leaves after a build that succeeded. -/
def finishedMark : String := "Finished!"

/-- What stands before the identifier of an image in the output of its build. -/
def imageMark : String := "writing image sha256:"

/-- How many lines at the end of a build's output are searched for the identifier. -/
def imageScanLines : Nat := 10

namespace Backend

/-- All backends, in the order in which they are named. -/
def all : List Backend := [docker, script]

/-- The name of a backend. -/
def name : Backend → String
  | docker => "docker"
  | script => "script"

/-- Whether a backend can report resolution failures. -/
def reportsFailures : Backend → Bool
  | docker => false
  | script => true

/-- What is added to the environment of every child process. -/
def environment : Backend → List (String × String)
  | docker | script => [("DOCKER_BUILDKIT", "1")]

/-- The backend of a name; without one, that which the host prefers. -/
def ofName (name? : Option String) (preferred : Backend := docker) :
    Except BackendFault Backend :=
  match name? with
  | none | some "" => .ok preferred
  | some name =>
    match all.find? fun backend => backend.name = name with
    | some backend => .ok backend
    | none => .error ⟨name⟩

/-- The command that builds a mode. -/
def buildCommand (backend : Backend) (mode : Mode) (workDirectory : String) : Command :=
  match backend with
  | docker =>
    ["docker", "build", workDirectory] ++
      (Toggle.all.flatMap fun toggle =>
        match toggle.buildArgument? with
        | some argument => ["--build-arg", argument ++ "=" ++ boolWord (mode.has toggle)]
        | none => []) ++
      ["-t", imageTag]
  | script =>
    ["ruby", "SetupJellyfinServer.rb", "--build"] ++
      buildSwitches.filterMap fun (toggle, switch) =>
        if mode.has toggle then some switch else none

/-- The command that starts a mode, with failures reported if they are asked for. -/
def runCommand (backend : Backend) (mode : Mode) (artifact : String) (failures : Bool) :
    Command :=
  match backend with
  | docker =>
    ["docker", "run", "--env", "COMPlus_ReadyToRun=" ++ boolDigit mode.readyToRun,
      "--env", "COMPlus_TieredCompilation=" ++ boolDigit mode.tieredCompilation,
      "-it", artifact]
  | script =>
    ["ruby", "SetupJellyfinServer.rb", "--run", if failures then "RESOLUTION" else "BENCHMARK"] ++
      (if mode.readyToRun then ["--readytorun"] else []) ++
      (if mode.tieredCompilation then ["--tieredcompilation"] else [])

/-- The last lines of a list. -/
def lastLines (count : Nat) (lines : List String) : List String :=
  lines.drop (lines.length - count)

/-- The identifier of the image in the latest line that announces one. -/
def imageIdentifier? (lines : List String) : Option String :=
  let announced := (lastLines imageScanLines lines).reverse.findSome? fun line =>
    (splitFirst? imageMark.toList line.toList).map (·.2)
  (announced.bind firstWord?).map String.ofList

/-- What a run must be given, if the build succeeded. -/
def artifact? (backend : Backend) (build : Transcript) : Option String :=
  if build.exitCode != 0 then none
  else
    match backend with
    | docker => imageIdentifier? build.lines
    | script => some finishedMark

end Backend

/-- The sentence that reports a name that no backend has. -/
def BackendFault.message (fault : BackendFault) : String :=
  "Unknown backend '" ++ fault.name ++ "'. Choose from: " ++
    ", ".intercalate (Backend.all.map Backend.name)

end ColdStart
