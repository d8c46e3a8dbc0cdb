/-
This file follows a campaign through its launches. What a step of it gives depends
on what its launches leave and on nothing else that was done before, so a step is
described by the commands it launches, each with its result, and by its value. The
launches of a mode are put together into a trial, and a campaign is a list of
trials, one after another.
-/

import ColdStart.Campaign
import Mathlib.Data.List.Basic

namespace ColdStart

/-! ### Launches of a session -/

/-- A command that was launched, with what the launch left unless it was refused. -/
abbrev Launched := Command × Option Transcript

/-- What a launch left, unless it was refused. -/
def Launch.transcript? (launch : Launch) : Option Transcript := launch.result.toOption

/-- What a runner gives for commands, given what becomes of their launches. -/
def resultsOf (runner : Runner) : List Child → List Command → List (Option Transcript)
  | _, [] => []
  | coming, command :: rest =>
    (runner (coming.headD .absent) command).transcript? :: resultsOf runner coming.tail rest

theorem resultsOf_append (runner : Runner) (coming : List Child) (front back : List Command) :
    resultsOf runner coming (front ++ back) =
      resultsOf runner coming front ++ resultsOf runner (coming.drop front.length) back := by
  induction front generalizing coming with
  | nil => rfl
  | cons command rest inductionHypothesis =>
    rw [List.cons_append, resultsOf, resultsOf, inductionHypothesis, List.cons_append,
      List.length_cons, ← List.drop_one, List.drop_drop, Nat.add_comm]

/-- A session goes on to another by launches: the commands are launched in order, and their
results are those that the runner gives for what comes next. -/
structure Session.GoesOn (session : Session) (launches : List Launched) (after : Session) :
    Prop where
  launched : after.launched.toList = session.launched.toList ++ launches.map Prod.fst
  results : resultsOf session.runner session.coming (launches.map Prod.fst) =
    launches.map Prod.snd
  coming : after.coming = session.coming.drop launches.length
  runner : after.runner = session.runner

namespace Session.GoesOn

theorem refl (session : Session) : session.GoesOn [] session :=
  ⟨(List.append_nil _).symm, rfl, rfl, rfl⟩

theorem trans {session between after : Session} {front back : List Launched}
    (first : session.GoesOn front between) (second : between.GoesOn back after) :
    session.GoesOn (front ++ back) after where
  launched := by
    rw [second.launched, first.launched, List.map_append, List.append_assoc]
  results := by
    have later := second.results
    rw [first.runner, first.coming] at later
    rw [List.map_append, resultsOf_append, first.results, List.length_map, later,
      List.map_append]
  coming := by
    rw [second.coming, first.coming, List.drop_drop, List.length_append]
  runner := by
    rw [second.runner, first.runner]

/-- What goes on without a launch adds none. -/
theorem silently {session between after : Session} {launches : List Launched}
    (first : session.GoesOn launches between) (second : between.GoesOn [] after) :
    session.GoesOn launches after := by
  simpa using first.trans second

end Session.GoesOn

/-! ### Steps -/

/-- Whatever was done before, a step launches commands and gives a value, and both together are as
they should be. -/
def Ensures {Value : Type} (step : Running Value) (right : List Launched → Value → Prop) : Prop :=
  ∀ session : Session, ∃ launches, session.GoesOn launches (step.run session).2 ∧
    right launches (step.run session).1

namespace Ensures

variable {Value Next : Type}

theorem pure {value : Value} {right : List Launched → Value → Prop} (holds : right [] value) :
    Ensures (Pure.pure value) right := fun session => ⟨[], .refl session, holds⟩

/-- A step after another has the launches of both. -/
theorem bind {step : Running Value} {next : Value → Running Next}
    {first : List Launched → Value → Prop} {right : List Launched → Next → Prop}
    (here : Ensures step first)
    (later : ∀ launches value, first launches value →
      Ensures (next value) fun others result => right (launches ++ others) result) :
    Ensures (step >>= next) right := by
  intro session
  obtain ⟨launches, goesOn, holds⟩ := here session
  obtain ⟨others, goesFurther, whole⟩ := later _ _ holds (step.run session).2
  exact ⟨launches ++ others, goesOn.trans goesFurther, whole⟩

/-- A step that launches nothing comes before another. -/
theorem after {step : Running Unit} {next : Running Next} {right : List Launched → Next → Prop}
    (silent : Ensures step fun launches _ => launches = []) (later : Ensures next right) :
    Ensures (step >>= fun _ => next) right := by
  refine silent.bind ?_
  rintro _ _ rfl
  exact later

end Ensures

/-! ### Steps that launch nothing -/

/-- A session goes on by printing, and by nothing else. -/
def Session.OnlyPrints (session after : Session) : Prop :=
  ∃ output errors, after =
    { session with output := session.output ++ output, errors := session.errors ++ errors }

namespace Session.OnlyPrints

theorem refl (session : Session) : session.OnlyPrints session :=
  ⟨"", "", by rw [String.append_empty, String.append_empty]⟩

theorem trans {session between after : Session} (first : session.OnlyPrints between)
    (second : between.OnlyPrints after) : session.OnlyPrints after := by
  obtain ⟨output, errors, rfl⟩ := first
  obtain ⟨more, others, rfl⟩ := second
  exact ⟨output ++ more, errors ++ others, by simp only [String.append_assoc]⟩

theorem goesOn {session after : Session} (prints : session.OnlyPrints after) :
    session.GoesOn [] after := by
  obtain ⟨output, errors, rfl⟩ := prints
  exact ⟨(List.append_nil _).symm, rfl, rfl, rfl⟩

end Session.OnlyPrints

/-- Whatever was done before, a step only prints. -/
def Speaks {Value : Type} (step : Running Value) : Prop :=
  ∀ session : Session, session.OnlyPrints (step.run session).2

namespace Speaks

variable {Value Next : Type}

theorem pure (value : Value) : Speaks (Pure.pure value) := fun session => .refl session

theorem bind {step : Running Value} {next : Value → Running Next} (here : Speaks step)
    (later : ∀ value, Speaks (next value)) : Speaks (step >>= next) :=
  fun session => (here session).trans (later _ _)

theorem printText (text : String) : Speaks (Session.printText text) :=
  fun session => ⟨text, "", by rw [String.append_empty]; rfl⟩

theorem print (line : String) : Speaks (Session.print line) := printText (line ++ "\n")

theorem warn (line : String) : Speaks (Session.warn line) :=
  fun session => ⟨"", line ++ "\n", by rw [String.append_empty, ← String.append_assoc]; rfl⟩

theorem forM {Item : Type} (items : List Item) {step : Item → Running Unit}
    (speaks : ∀ item, Speaks (step item)) : Speaks (items.forM step) := by
  induction items with
  | nil => exact .pure ()
  | cons item rest inductionHypothesis => exact (speaks item).bind fun _ => inductionHypothesis

theorem showLine (line : KeptLine) : Speaks (Session.showLine line) := by
  rw [Session.showLine]
  cases line.stream with
  | output => exact print line.text
  | error => exact warn line.text

theorem ensures {step : Running Value} (speaks : Speaks step) :
    Ensures step fun launches _ => launches = [] :=
  fun session => ⟨[], (speaks session).goesOn, rfl⟩

end Speaks

theorem ensures_writeLog (log : Log) (lines : List String) :
    Ensures (Session.writeLog log lines) fun launches _ => launches = [] := by
  intro session
  cases log <;> exact ⟨[], ⟨(List.append_nil _).symm, rfl, rfl, rfl⟩, rfl⟩

/-! ### Commands -/

theorem ensures_launch (command : Command) :
    Ensures (Session.launch command) fun launches launch =>
      launches = [(command, launch.transcript?)] := by
  intro session
  refine ⟨_, ⟨?_, ?_, ?_, ?_⟩, rfl⟩
  · exact Array.toList_push
  · rfl
  · exact List.drop_one.symm
  · rfl

/-- Executing a command launches it and gives what the launch left. -/
theorem ensures_execute (log : Log) (command : Command) :
    Ensures (Session.execute log command) fun launches transcript? =>
      launches = [(command, transcript?)] := by
  refine (ensures_launch command).bind ?_
  rintro _ launch rfl
  refine (ensures_writeLog log _).after ((Speaks.forM _ .showLine).ensures.after ?_)
  rw [Launch.transcript?]
  split
  · next transcript started =>
    rw [started]
    exact .pure rfl
  · next fault refused =>
    rw [refused]
    exact (Speaks.warn _).ensures.after ((ensures_writeLog log _).after (.pure rfl))

namespace Campaign

/-- The command that builds a mode, with the settings of the campaign. -/
def buildOf (campaign : Campaign) (mode : Mode) : Command :=
  campaign.backend.buildCommand mode campaign.settings.workDirectory

/-- The command that starts a mode, with the settings of the campaign. -/
def runOf (campaign : Campaign) (mode : Mode) (artifact : String) : Command :=
  campaign.backend.runCommand mode artifact campaign.collectsFailures

theorem ensures_build (campaign : Campaign) (mode : Mode) (index total : Nat) :
    Ensures (campaign.build mode index total) fun launches artifact? =>
      ∃ transcript?, launches = [(campaign.buildOf mode, transcript?)] ∧
        artifact? = transcript?.bind campaign.backend.artifact? := by
  refine (Speaks.print _).ensures.after ((ensures_execute .build (campaign.buildOf mode)).bind ?_)
  rintro _ transcript? rfl
  refine (Speaks.print _).ensures.after ?_
  split
  · next artifact found => exact .pure ⟨transcript?, rfl, found.symm⟩
  · next missing =>
    exact (Speaks.warn _).ensures.after
      ((ensures_writeLog .build _).after (.pure ⟨transcript?, rfl, missing.symm⟩))

theorem ensures_runOnce (campaign : Campaign) (mode : Mode) (artifact : String) :
    Ensures (campaign.runOnce mode artifact) fun launches capture? =>
      ∃ transcript?, launches = [(campaign.runOf mode artifact, transcript?)] ∧
        capture? = campaign.capture? transcript? := by
  refine (ensures_execute .run (campaign.runOf mode artifact)).bind ?_
  rintro _ transcript? rfl
  split
  · next capture kept => exact .pure ⟨transcript?, rfl, kept.symm⟩
  · next dropped =>
    exact (Speaks.warn _).ensures.after
      ((ensures_writeLog .run _).after (.pure ⟨transcript?, rfl, dropped.symm⟩))

/-- So many runs are so many launches of one command, and give what is captured of them. -/
theorem ensures_runTimes (campaign : Campaign) (mode : Mode) (artifact : String) (count : Nat) :
    Ensures (campaign.runTimes mode artifact count) fun launches captures =>
      ∃ transcripts : List (Option Transcript), transcripts.length = count ∧
        launches =
          transcripts.map (fun transcript? => (campaign.runOf mode artifact, transcript?)) ∧
        captures = transcripts.map campaign.capture? := by
  induction count with
  | zero => exact .pure ⟨[], rfl, rfl, rfl⟩
  | succ count inductionHypothesis =>
    refine (campaign.ensures_runOnce mode artifact).bind ?_
    rintro _ _ ⟨transcript?, rfl, rfl⟩
    refine inductionHypothesis.bind ?_
    rintro _ _ ⟨transcripts, length, rfl, rfl⟩
    refine .pure ⟨transcript? :: transcripts, ?_, ?_, rfl⟩
    · rw [List.length_cons, length]
    · rw [List.map_cons, List.singleton_append, List.append_nil]

end Campaign

/-! ### Trials -/

/-- What was launched for a mode: its build, and the runs behind it. -/
structure Trial where
  mode : Mode
  build : Option Transcript
  warmups : List (Option Transcript) := []
  measured : List (Option Transcript) := []
  deriving DecidableEq, Repr

namespace Trial

/-- What the build left for the runs, if it succeeded. -/
def artifact? (trial : Trial) (campaign : Campaign) : Option String :=
  trial.build.bind campaign.backend.artifact?

/-- The launches of a trial, in order. -/
def launches (trial : Trial) (campaign : Campaign) : List Launched :=
  (campaign.buildOf trial.mode, trial.build) ::
    match trial.artifact? campaign with
    | none => []
    | some artifact => (trial.warmups ++ trial.measured).map fun transcript? =>
      (campaign.runOf trial.mode artifact, transcript?)

/-- What comes of a trial. -/
def outcome (trial : Trial) (campaign : Campaign) : Outcome :=
  match trial.artifact? campaign with
  | none => .buildFailed trial.mode
  | some artifact => .recorded trial.mode artifact
    (.ofRuns campaign.collectsFailures (trial.measured.map campaign.capture?))

/-- The runs of a trial are as many as the settings ask for, or none when the build failed. -/
structure IsComplete (trial : Trial) (campaign : Campaign) : Prop where
  unbuilt : trial.artifact? campaign = none → trial.warmups = [] ∧ trial.measured = []
  built : ∀ artifact, trial.artifact? campaign = some artifact →
    trial.warmups.length = campaign.settings.warmups.toNat ∧
      trial.measured.length = campaign.settings.iterations.toNat

end Trial

/-- The documents with what came of a mode: nothing new when its build failed. -/
def Documents.record (documents : Documents) : Outcome → Documents
  | .buildFailed _ => documents
  | .recorded mode _ measurement => documents.add mode measurement

/-- The documents with what came of modes. -/
def Documents.recordAll (documents : Documents) (outcomes : List Outcome) : Documents :=
  outcomes.foldl Documents.record documents

namespace Campaign

/-- Processing a mode is one trial of it, and what comes of the trial is recorded. -/
theorem ensures_process (campaign : Campaign) (mode : Mode) (index total : Nat)
    (documents : Documents) :
    Ensures (campaign.process mode index total documents) fun launches result =>
      ∃ trial : Trial, trial.mode = mode ∧ trial.IsComplete campaign ∧
        launches = trial.launches campaign ∧
        result = (trial.outcome campaign, documents.record (trial.outcome campaign)) := by
  refine (campaign.ensures_build mode index total).bind ?_
  rintro _ _ ⟨build, rfl, rfl⟩
  cases built : build.bind campaign.backend.artifact? with
  | none =>
    let trial : Trial := { mode, build }
    have failed : trial.artifact? campaign = none := built
    refine .pure ⟨trial, rfl, ⟨fun _ => ⟨rfl, rfl⟩, fun artifact found => ?_⟩, ?_, ?_⟩
    · rw [failed] at found
      cases found
    · rw [Trial.launches, failed]
      rfl
    · rw [Trial.outcome, failed]
      rfl
  | some artifact =>
    refine (campaign.ensures_runTimes mode artifact _).bind ?_
    rintro _ _ ⟨warmups, warmupCount, rfl, -⟩
    refine (campaign.ensures_runTimes mode artifact _).bind ?_
    rintro _ _ ⟨measured, measuredCount, rfl, rfl⟩
    let trial : Trial := { mode, build, warmups, measured }
    have found : trial.artifact? campaign = some artifact := built
    refine .pure ⟨trial, rfl, ⟨fun failed => ?_, fun _ _ => ⟨warmupCount, measuredCount⟩⟩, ?_, ?_⟩
    · rw [found] at failed
      cases failed
    · rw [List.append_nil, ← List.map_append, Trial.launches, found]
      rfl
    · rw [Trial.outcome, found]
      rfl

/-- Processing modes is one trial of each, in order, and what comes of them is recorded. -/
theorem ensures_processAll (campaign : Campaign) (places : List (Mode × Nat)) (total : Nat)
    (documents : Documents) :
    Ensures (campaign.processAll places total documents) fun launches result =>
      ∃ trials : List Trial, trials.map Trial.mode = places.map Prod.fst ∧
        (∀ trial ∈ trials, trial.IsComplete campaign) ∧
        launches = trials.flatMap (·.launches campaign) ∧
        result = (trials.map (·.outcome campaign),
          documents.recordAll (trials.map (·.outcome campaign))) := by
  induction places generalizing documents with
  | nil => exact .pure ⟨[], rfl, fun trial member => (by cases member), rfl, rfl⟩
  | cons place rest inductionHypothesis =>
    rw [processAll]
    refine (campaign.ensures_process place.1 place.2 total documents).bind ?_
    rintro _ _ ⟨trial, isMode, complete, rfl, rfl⟩
    refine (inductionHypothesis _).bind ?_
    rintro _ _ ⟨trials, areModes, allComplete, rfl, rfl⟩
    refine .pure ⟨trial :: trials, ?_, List.forall_mem_cons.mpr ⟨complete, allComplete⟩, ?_, rfl⟩
    · rw [List.map_cons, isMode, areModes, List.map_cons]
    · rw [List.flatMap_cons, List.append_nil]

end Campaign

end ColdStart
