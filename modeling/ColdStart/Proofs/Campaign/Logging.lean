/-
This file follows the logs of a campaign that launches processes. Each launch puts a line
with its command before anything that it logs. So a log has the lines of the commands, in
order, with other lines between them, and every command that is launched is in one of the
two logs: the builds in the one and the runs in the other.
-/

import ColdStart.Proofs.Campaign.Schedule

namespace ColdStart

/-! ### Logs -/

/-- A text is a log of commands: it has the line of each command, in order, and other lines between
them. -/
inductive IsLog : List Command → String → Prop where
  | nothing : IsLog [] ""
  | note {commands : List Command} {text : String} (isLog : IsLog commands text)
      (lines : List String) : IsLog commands (text ++ linesText lines)
  | launch {commands : List Command} {text : String} (isLog : IsLog commands text)
      (command : Command) : IsLog (commands ++ [command]) (text ++ linesText [runningLine command])

theorem IsLog.append {commands others : List Command} {text more : String}
    (isLog : IsLog commands text) (isMore : IsLog others more) :
    IsLog (commands ++ others) (text ++ more) := by
  induction isMore with
  | nothing => rwa [List.append_nil, String.append_empty]
  | note _ lines inductionHypothesis =>
    rw [← String.append_assoc]
    exact inductionHypothesis.note lines
  | launch _ command inductionHypothesis =>
    rw [← String.append_assoc, ← List.append_assoc]
    exact inductionHypothesis.launch command

/-- The text of a log. -/
def Session.logText (session : Session) : Log → String
  | .build => session.buildLog
  | .run => session.runLog

/-- Commands, each with the log that it is written to. -/
abbrev LoggedCommands := List (Log × Command)

/-- The commands that are written to a log. -/
def LoggedCommands.writtenTo (logged : LoggedCommands) (log : Log) : List Command :=
  (logged.filter fun entry => entry.1 = log).map Prod.snd

theorem LoggedCommands.writtenTo_singleton (log other : Log) (command : Command) :
    LoggedCommands.writtenTo [(log, command)] other = if other = log then [command] else [] := by
  cases log <;> cases other <;> rfl

/-- A session goes on to another by launches, and each of them is logged. -/
structure Session.Logs (session : Session) (logged : LoggedCommands) (after : Session) : Prop where
  launched : after.launched.toList = session.launched.toList ++ logged.map Prod.snd
  isLog : ∀ log, ∃ text, after.logText log = session.logText log ++ text ∧
    IsLog (logged.writtenTo log) text
  runner : after.runner = session.runner

namespace Session

theorem OnlyPrints.logs {session after : Session} (prints : session.OnlyPrints after) :
    session.Logs [] after := by
  obtain ⟨output, errors, rfl⟩ := prints
  refine ⟨(List.append_nil _).symm, fun log => ⟨"", ?_, .nothing⟩, rfl⟩
  rw [String.append_empty]
  cases log <;> rfl

theorem Logs.trans {session between after : Session} {first second : LoggedCommands}
    (here : session.Logs first between) (later : between.Logs second after) :
    session.Logs (first ++ second) after where
  launched := by rw [later.launched, here.launched, List.map_append, List.append_assoc]
  isLog log := by
    obtain ⟨text, isText, isLog⟩ := here.isLog log
    obtain ⟨more, isMore, moreLog⟩ := later.isLog log
    refine ⟨text ++ more, by rw [isMore, isText, String.append_assoc], ?_⟩
    rw [LoggedCommands.writtenTo, List.filter_append, List.map_append]
    exact isLog.append moreLog
  runner := later.runner.trans here.runner

end Session

/-! ### Steps -/

/-- Whatever was done before, a step that launches processes logs commands as it should. -/
def Logs {Value : Type} (step : Running Value) (right : LoggedCommands → Prop) : Prop :=
  ∀ session : Session, session.runner = Child.launch →
    ∃ logged, right logged ∧ session.Logs logged (step.run session).2

namespace Logs

variable {Value Next : Type}

theorem pure {value : Value} {right : LoggedCommands → Prop} (holds : right []) :
    Logs (Pure.pure value) right :=
  fun session _ => ⟨[], holds, (Session.OnlyPrints.refl session).logs⟩

/-- A step after another logs its commands behind those of the first. -/
theorem bind {step : Running Value} {next : Value → Running Next}
    {first right : LoggedCommands → Prop} (here : Logs step first)
    (later : ∀ front, first front → ∀ value, Logs (next value) fun back => right (front ++ back)) :
    Logs (step >>= next) right := by
  intro session processes
  obtain ⟨front, rightFront, logsFront⟩ := here session processes
  obtain ⟨back, rightBack, logsBack⟩ := later front rightFront (step.run session).1
    (step.run session).2 (logsFront.runner.trans processes)
  exact ⟨front ++ back, rightBack, logsFront.trans logsBack⟩

/-- A step that launches nothing comes before another. -/
theorem after {step : Running Value} {next : Value → Running Next} {right : LoggedCommands → Prop}
    (silent : Logs step (· = [])) (later : ∀ value, Logs (next value) right) :
    Logs (step >>= next) right := by
  refine silent.bind ?_
  rintro _ rfl
  exact later

/-- A step that launches nothing comes behind another. -/
theorem before {step : Running Value} {next : Value → Running Next} {right : LoggedCommands → Prop}
    (here : Logs step right) (silent : ∀ value, Logs (next value) (· = [])) :
    Logs (step >>= next) right := by
  refine here.bind fun front holds value session processes => ?_
  obtain ⟨back, rfl, logs⟩ := silent value session processes
  refine ⟨[], ?_, logs⟩
  simpa only [List.append_nil] using holds

end Logs

theorem Speaks.logs {Value : Type} {step : Running Value} (speaks : Speaks step) :
    Logs step (· = []) := fun session _ => ⟨[], rfl, (speaks session).logs⟩

theorem isLog_linesText (lines : List String) : IsLog [] (linesText lines) := by
  simpa using IsLog.nothing.note lines

/-- What is written to a log is added to it, and the other log stays as it is. -/
theorem logText_writeLog (log other : Log) (lines : List String) (session : Session) :
    ((Session.writeLog log lines).run session).2.logText other =
      session.logText other ++ if other = log then linesText lines else "" := by
  cases log <;> cases other
  · rfl
  · exact String.append_empty.symm
  · exact String.append_empty.symm
  · rfl

theorem logs_writeLog (log : Log) (lines : List String) :
    Logs (Session.writeLog log lines) (· = []) := by
  intro session _
  refine ⟨[], rfl, ?_, fun other => ⟨_, logText_writeLog log other lines session, ?_⟩, ?_⟩
  · cases log <;> exact (List.append_nil _).symm
  · split
    · exact isLog_linesText lines
    · exact .nothing
  · cases log <;> rfl

/-- A report is printed and logged, and nothing is launched. -/
theorem logs_report {Value : Type} (log : Log) (line : String) (lines : List String)
    (value : Value) :
    Logs (do
      Session.warn line
      Session.writeLog log lines
      return value) (· = []) :=
  (Speaks.warn line).logs.after fun _ => (logs_writeLog log lines).after fun _ => .pure rfl

/-- What a process logs is a log of its command. -/
theorem isLog_launch (child : Child) (command : Command) :
    IsLog [command] (linesText (child.launch command).log) := by
  have isLog (rest : List String) : IsLog [command] (linesText (runningLine command :: rest)) := by
    have whole : linesText (runningLine command :: rest) =
        "" ++ linesText [runningLine command] ++ linesText rest := by
      simp [linesText, String.join_cons]
    rw [whole]
    exact (IsLog.nothing.launch command).note rest
  cases child with
  | refused code reason => exact isLog []
  | started run => exact isLog _

/-- A launch is logged with its command before anything else is done. -/
theorem logs_launch (log : Log) (command : Command) {Next : Type} {next : Launch → Running Next}
    (silent : ∀ launch, Logs (next launch) (· = [])) :
    Logs (do
      let launch ← Session.launch command
      Session.writeLog log launch.log
      next launch) (· = [(log, command)]) := by
  have launches : Logs (do
      let launch ← Session.launch command
      Session.writeLog log launch.log
      return launch) (· = [(log, command)]) := by
    intro session processes
    let launch := session.runner (session.coming.headD .absent) command
    have isLog : IsLog [command] (linesText launch.log) := by
      have ofProcess : launch = (session.coming.headD .absent).launch command := by
        rw [← processes]
      rw [ofProcess]
      exact isLog_launch _ command
    refine ⟨_, rfl, ?_, fun other => ⟨_, logText_writeLog log other launch.log _, ?_⟩, ?_⟩
    · cases log <;> exact Array.toList_push
    · rw [LoggedCommands.writtenTo_singleton]
      split
      · exact isLog
      · exact .nothing
    · cases log <;> rfl
  exact launches.before silent

/-- A command that is executed is launched and logged, and no other one is. -/
theorem logs_execute (log : Log) (command : Command) :
    Logs (Session.execute log command) (· = [(log, command)]) := by
  refine logs_launch log command fun launch => ?_
  refine (Speaks.forM _ .showLine).logs.after fun _ => ?_
  cases launch.result with
  | ok transcript => exact .pure rfl
  | error fault => exact logs_report log _ _ none

/-! ### Campaigns -/

namespace Campaign

/-- What is logged for a mode: its build, and the runs behind it unless the build failed. -/
inductive LogsMode (campaign : Campaign) (mode : Mode) : LoggedCommands → Prop where
  | failed : campaign.LogsMode mode [(.build, campaign.buildOf mode)]
  | built (artifact : String) : campaign.LogsMode mode ((.build, campaign.buildOf mode) ::
      List.replicate campaign.runCount (.run, campaign.runOf mode artifact))

theorem logs_build (campaign : Campaign) (mode : Mode) (index total : Nat) :
    Logs (campaign.build mode index total) (· = [(.build, campaign.buildOf mode)]) := by
  refine (Speaks.print _).logs.after fun _ => ?_
  refine (logs_execute .build (campaign.buildOf mode)).before fun transcript? => ?_
  refine (Speaks.print _).logs.after fun _ => ?_
  split
  · exact .pure rfl
  · exact logs_report .build _ _ none

theorem logs_runOnce (campaign : Campaign) (mode : Mode) (artifact : String) :
    Logs (campaign.runOnce mode artifact) (· = [(.run, campaign.runOf mode artifact)]) := by
  refine (logs_execute .run (campaign.runOf mode artifact)).before fun transcript? => ?_
  split
  · exact .pure rfl
  · exact logs_report .run _ _ none

theorem logs_runTimes (campaign : Campaign) (mode : Mode) (artifact : String) (count : Nat) :
    Logs (campaign.runTimes mode artifact count)
      (· = List.replicate count (.run, campaign.runOf mode artifact)) := by
  induction count with
  | zero => exact .pure rfl
  | succ count inductionHypothesis =>
    refine (campaign.logs_runOnce mode artifact).bind ?_
    rintro _ rfl capture?
    refine inductionHypothesis.bind ?_
    rintro _ rfl captures
    refine .pure ?_
    rw [List.append_nil]
    rfl

theorem logs_process (campaign : Campaign) (mode : Mode) (index total : Nat)
    (documents : Documents) :
    Logs (campaign.process mode index total documents) (campaign.LogsMode mode) := by
  refine (campaign.logs_build mode index total).bind ?_
  rintro _ rfl artifact?
  cases artifact? with
  | none => exact .pure .failed
  | some artifact =>
    refine (campaign.logs_runTimes mode artifact _).bind ?_
    rintro _ rfl warmups
    refine (campaign.logs_runTimes mode artifact _).bind ?_
    rintro _ rfl captures
    refine .pure ?_
    rw [List.append_nil, ← List.replicate_add]
    exact .built artifact

/-- Modes are logged one after another. -/
theorem logs_processAll (campaign : Campaign) (places : List (Mode × Nat)) (total : Nat)
    (documents : Documents) :
    Logs (campaign.processAll places total documents) fun logged =>
      ∃ parts, List.Forall₂ campaign.LogsMode (places.map Prod.fst) parts ∧
        logged = parts.flatten := by
  induction places generalizing documents with
  | nil => exact .pure ⟨[], .nil, rfl⟩
  | cons place rest inductionHypothesis =>
    rw [processAll]
    refine (campaign.logs_process place.1 place.2 total documents).bind fun part ofMode result => ?_
    refine (inductionHypothesis _).bind ?_
    rintro _ ⟨parts, ofModes, rfl⟩ results
    refine .pure ⟨part :: parts, .cons ofMode ofModes, ?_⟩
    rw [List.append_nil, List.flatten_cons]

end Campaign

end ColdStart
