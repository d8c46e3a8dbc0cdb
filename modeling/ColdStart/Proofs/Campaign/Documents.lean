/-
This file shows what the documents of a campaign tell whoever reads them. A mode
that was built has one record, in order; its samples are those that its measured
runs printed, as far as they ended as a server ends that has reported, and all
other measured runs are among the dropped. The way there leads from the launches
through what is captured of them and through the files.
-/

import ColdStart.Benchmark
import ColdStart.Proofs.Campaign.Accounting
import ColdStart.Proofs.Campaign.Schedule
import ColdStart.Proofs.Document.RoundTrip
import ColdStart.Proofs.Working

namespace ColdStart

/-! ### Runs that count -/

/-- The measured runs of a trial that count: those that ended as a server ends that has
reported. -/
def Trial.reported (trial : Trial) : List Transcript :=
  trial.measured.reduceOption.filter fun transcript => transcript.exitCode = reportedExitCode

/-- What is captured of a run. -/
def Campaign.captureOf (campaign : Campaign) (transcript : Transcript) : Capture :=
  Capture.ofLines transcript.lines campaign.collectsFailures

/-- What counts is captured, and nothing else. -/
theorem reduceOption_map_capture? (campaign : Campaign) (runs : List (Option Transcript)) :
    (runs.map campaign.capture?).reduceOption =
      (runs.reduceOption.filter fun transcript =>
        transcript.exitCode = reportedExitCode).map campaign.captureOf := by
  induction runs with
  | nil => rfl
  | cons run rest inductionHypothesis =>
    cases run with
    | none =>
      rw [List.map_cons, Campaign.capture?, List.reduceOption_cons_of_none, inductionHypothesis,
        List.reduceOption_cons_of_none]
    | some transcript =>
      rw [List.map_cons, Campaign.capture?, List.reduceOption_cons_of_some, List.filter_cons]
      by_cases reported : transcript.exitCode = reportedExitCode
      · rw [if_pos reported, List.reduceOption_cons_of_some, inductionHypothesis,
          if_pos (by simpa using reported), List.map_cons, Campaign.captureOf]
      · rw [if_neg reported, List.reduceOption_cons_of_none, inductionHypothesis,
          if_neg (by simpa using reported)]

/-- Every measured run counts or is dropped. -/
theorem reported_length_add_dropped (campaign : Campaign) (trial : Trial) :
    trial.reported.length + (trial.measured.map campaign.capture?).countP Option.isNone =
      trial.measured.length := by
  have whole := reduceOption_length_add_countP (trial.measured.map campaign.capture?)
  rwa [reduceOption_map_capture?, List.length_map, List.length_map] at whole

/-! ### What is written of a trial -/

/-- What is written of a trial whose build succeeded. -/
def Trial.content (trial : Trial) (campaign : Campaign) (withFailures : Bool) : BlockContent := {
  mode := trial.mode
  fragment := trial.reported.flatMap fun transcript => (campaign.captureOf transcript).fragment
  dropped := (trial.measured.map campaign.capture?).countP Option.isNone
  failureRuns :=
    if withFailures && campaign.collectsFailures then
      trial.reported.map fun transcript => (campaign.captureOf transcript).failures
    else [] }

/-- The trials whose build succeeded. -/
def Campaign.built (campaign : Campaign) (trials : List Trial) : List Trial :=
  trials.filter fun trial => (trial.artifact? campaign).isSome

theorem content_ofRuns (campaign : Campaign) (trial : Trial) (withFailures : Bool) :
    (Measurement.ofRuns campaign.collectsFailures (trial.measured.map campaign.capture?)).content
      trial.mode withFailures = trial.content campaign withFailures := by
  rw [ofRuns_eq, reduceOption_map_capture?, Measurement.content, Trial.content, Trial.reported]
  simp only [List.flatMap_map, List.map_map, Function.comp_def]
  cases withFailures <;> cases campaign.collectsFailures <;> rfl

/-- The contents of the blocks that are written of trials. -/
def Campaign.contents (campaign : Campaign) (trials : List Trial) (withFailures : Bool) :
    List BlockContent :=
  (campaign.built trials).map (·.content campaign withFailures)

/-- The document of trials, with their failures or without. -/
def Campaign.documentOf (campaign : Campaign) (trials : List Trial) (withFailures : Bool) :
    DocumentWriter :=
  (campaign.contents trials withFailures).foldl DocumentWriter.add {}

/-- What is recorded of trials is written of those whose build succeeded. -/
theorem recordAll_outcomes (campaign : Campaign) (trials : List Trial) (documents : Documents) :
    documents.recordAll (trials.map (·.outcome campaign)) = {
      results := (campaign.contents trials false).foldl DocumentWriter.add documents.results
      failures? := documents.failures?.map fun failures =>
        (campaign.contents trials true).foldl DocumentWriter.add failures } := by
  induction trials generalizing documents with
  | nil => simp [Documents.recordAll, Campaign.contents, Campaign.built]
  | cons trial rest inductionHypothesis =>
    have step : documents.recordAll ((trial :: rest).map (·.outcome campaign)) =
        (documents.record (trial.outcome campaign)).recordAll (rest.map (·.outcome campaign)) := rfl
    rw [step, inductionHypothesis, Trial.outcome]
    cases built : trial.artifact? campaign with
    | none =>
      have rest (withFailures : Bool) : campaign.contents (trial :: rest) withFailures =
          campaign.contents rest withFailures := by
        rw [Campaign.contents, Campaign.built, List.filter_cons_of_neg (by simp [built])]
        rfl
      simp only [rest]
      rfl
    | some artifact =>
      have more (withFailures : Bool) : campaign.contents (trial :: rest) withFailures =
          trial.content campaign withFailures :: campaign.contents rest withFailures := by
        rw [Campaign.contents, Campaign.built, List.filter_cons_of_pos (by simp [built])]
        rfl
      simp only [more, List.foldl_cons, ← content_ofRuns, Documents.record, Documents.add,
        Option.map_map, Function.comp_def]

/-- The documents of a campaign are those of its trials. -/
theorem recordAll_blankDocuments (campaign : Campaign) (trials : List Trial) :
    campaign.blankDocuments.recordAll (trials.map (·.outcome campaign)) = {
      results := campaign.documentOf trials false
      failures? :=
        if campaign.collectsFailures then some (campaign.documentOf trials true) else none } := by
  rw [recordAll_outcomes, Campaign.blankDocuments]
  cases campaign.collectsFailures <;> rfl

/-! ### Documents of trials -/

/-- The runs of a trial that count can be told from its documents: their fragments print the given
samples, and the failures they name are read as they stand. -/
structure Trial.IsTold (trial : Trial) (campaign : Campaign)
    (samplesOf : Transcript → List Sample) : Prop where
  printed : ∀ transcript ∈ trial.reported,
    Prints (campaign.captureOf transcript).fragment (samplesOf transcript)
  isExact : ∀ transcript ∈ trial.reported, ∀ sample ∈ samplesOf transcript, sample.IsExact
  failures : ∀ transcript ∈ trial.reported,
    ∀ identifier ∈ (campaign.captureOf transcript).failures, ∀ character ∈ identifier.toList,
      Lasts character

/-- A record tells what came of a trial: its mode, the samples of the runs that count, in order,
and how many of the measured runs did not count. -/
structure Record.Tells (record : Record) (campaign : Campaign)
    (samplesOf : Transcript → List Sample) (trial : Trial) : Prop where
  mode : record.mode = trial.mode
  samples : record.samples = trial.reported.flatMap samplesOf
  dropped : record.dropped = campaign.settings.iterations - trial.reported.length

/-- A record tells the failures of a trial: those that were named in any run that counts. -/
def Record.TellsFailures (record : Record) (campaign : Campaign) (trial : Trial) : Prop :=
  ∀ failure, failure ∈ record.failures ↔
    ∃ transcript ∈ trial.reported, failure ∈ (campaign.captureOf transcript).failures

theorem isFaithful_content {campaign : Campaign} {samplesOf : Transcript → List Sample}
    {trial : Trial} (told : trial.IsTold campaign samplesOf)
    (name : ∀ character ∈ trial.mode.name.toList, isXmlChar character = true)
    (short : trial.measured.length < 10 ^ integerDigitLimit) (withFailures : Bool) :
    (trial.content campaign withFailures).IsFaithful (trial.reported.flatMap samplesOf) where
  name := name
  fragment := prints_flatMap told.printed
  isExact sample member := by
    obtain ⟨transcript, reported, isSample⟩ := List.mem_flatMap.mp member
    exact told.isExact transcript reported sample isSample
  dropped := by
    have whole := reported_length_add_dropped campaign trial
    rw [Trial.content, Int.natAbs_natCast]
    omega
  failures run isRun := by
    rw [Trial.content] at isRun
    split at isRun
    · obtain ⟨transcript, reported, rfl⟩ := List.mem_map.mp isRun
      exact told.failures transcript reported
    · cases isRun

theorem tells_content {campaign : Campaign} {samplesOf : Transcript → List Sample} {trial : Trial}
    (complete : trial.IsComplete campaign) (isBuilt : (trial.artifact? campaign).isSome = true)
    (iterations : 0 ≤ campaign.settings.iterations) (withFailures : Bool) :
    ((trial.content campaign withFailures).record (trial.reported.flatMap samplesOf)).Tells
      campaign samplesOf trial where
  mode := rfl
  samples := rfl
  dropped := by
    obtain ⟨artifact, built⟩ := Option.isSome_iff_exists.mp isBuilt
    have measured := (complete.built artifact built).2
    have whole := reported_length_add_dropped campaign trial
    rw [BlockContent.record, Trial.content]
    simp only
    omega

theorem tellsFailures_content {campaign : Campaign} {samplesOf : Transcript → List Sample}
    (trial : Trial) (collects : campaign.collectsFailures = true) :
    ((trial.content campaign true).record (trial.reported.flatMap samplesOf)).TellsFailures
      campaign trial := by
  intro failure
  rw [BlockContent.record, FailureSet.mem_ofList, List.mem_flatten, Trial.content,
    if_pos (by rw [collects]; rfl)]
  simp only [List.mem_map, exists_exists_and_eq_and]

/-- Everything that a campaign asks of its modes and its trials for its documents to be read. -/
structure Campaign.IsTold (campaign : Campaign) (samplesOf : Transcript → List Sample)
    (trials : List Trial) : Prop where
  complete : ∀ trial ∈ trials, trial.IsComplete campaign
  names : ∀ trial ∈ trials, ∀ character ∈ trial.mode.name.toList, isXmlChar character = true
  told : ∀ trial ∈ trials, trial.IsTold campaign samplesOf
  iterations : 0 ≤ campaign.settings.iterations
  short : campaign.settings.iterations < 10 ^ integerDigitLimit

/-- The document of trials has one record for each whose build succeeded, in order. -/
theorem readDocument_trials {campaign : Campaign} {samplesOf : Transcript → List Sample}
    {trials : List Trial} (told : campaign.IsTold samplesOf trials) (withFailures : Bool) :
    readDocument (campaign.documentOf trials withFailures).render =
      .ok ((campaign.built trials).map fun trial =>
        (trial.content campaign withFailures).record (trial.reported.flatMap samplesOf)) := by
  have faithful : ∀ entry ∈ (campaign.built trials).map (fun trial =>
      (trial.content campaign withFailures, trial.reported.flatMap samplesOf)),
      entry.1.IsFaithful entry.2 := by
    intro entry member
    obtain ⟨trial, isBuilt, rfl⟩ := List.mem_map.mp member
    obtain ⟨isTrial, built⟩ := List.mem_filter.mp isBuilt
    obtain ⟨artifact, found⟩ := Option.isSome_iff_exists.mp built
    refine isFaithful_content (told.told trial isTrial) (told.names trial isTrial) ?_ withFailures
    rw [((told.complete trial isTrial).built artifact found).2]
    have short := told.short
    have iterations := told.iterations
    exact_mod_cast (Int.toNat_lt_toNat (by positivity)).mpr short
  have read := readDocument_render_eq _ faithful
  rw [List.map_map, List.map_map] at read
  exact read

/-- The records of a document tell what came of the trials whose build succeeded. -/
theorem tells_records {campaign : Campaign} {samplesOf : Transcript → List Sample}
    {trials : List Trial} (told : campaign.IsTold samplesOf trials) (withFailures : Bool) :
    List.Forall₂ (fun trial record => Record.Tells record campaign samplesOf trial)
      (campaign.built trials)
      ((campaign.built trials).map fun trial =>
        (trial.content campaign withFailures).record (trial.reported.flatMap samplesOf)) := by
  rw [List.forall₂_map_right_iff, List.forall₂_same]
  intro trial isBuilt
  obtain ⟨isTrial, built⟩ := List.mem_filter.mp isBuilt
  exact tells_content (told.complete trial isTrial) built told.iterations withFailures

/-! ### Documents in files -/

namespace FileTree

/-- The files at the ends of these paths can be written, unless it is excused that they cannot. -/
def IsReadyFor (paths : List Path) (excused : Prop) (files : FileTree) : Prop :=
  excused ∨ ∀ path ∈ paths, files.Accepts path

/-- A directory can be made, and then the files at the ends of these paths can be written. -/
def CanWriteIn (directory : Path) (paths : List Path) (files : FileTree) : Prop :=
  ∃ made, files.makeDirectory directory = .ok made ∧ ∀ path ∈ paths, made.Accepts path

variable {paths : List Path}

theorem CanWriteIn.mono {files : FileTree} {directory : Path} {fewer : List Path}
    (can : files.CanWriteIn directory paths) (subset : fewer ⊆ paths) :
    files.CanWriteIn directory fewer := by
  obtain ⟨made, making, accepts⟩ := can
  exact ⟨made, making, fun path member => accepts path (subset member)⟩

/-- Where nothing is in the way, files can be written in the directory of the invocation. -/
theorem canWriteIn_of_free {files : FileTree}
    (free : ∀ path ∈ paths, path.text.contains '\x00' = false ∧
      files.locate path = .ok (path.steps, none)) : files.CanWriteIn {} paths := by
  refine ⟨files, makeDirectory_here files, fun path member => ?_⟩
  obtain ⟨plain, located⟩ := free path member
  exact accepts_of_free plain located

/-- What was ready to be written is so behind each write. -/
theorem ends_writeFile {excused : Prop} (workspace : Workspace)
    (ready : workspace.files.IsReadyFor paths excused) {path : Path} (isWritten : path ∈ paths)
    (text : String) :
    Ends excused (Workspace.writeFile path text) workspace fun _ after =>
      after.files.IsReadyFor paths excused ∧ after.session = workspace.session ∧
        workspace.files.write path text.toUTF8 = .ok after.files := by
  refine .writeFile (ready.imp_right fun accepts => accepts path isWritten) fun files written => ?_
  exact ⟨ready.imp_right fun accepts other member => (accepts other member).behind_write written,
    rfl, written⟩

theorem ends_makeDirectory (directory : Path) (workspace : Workspace) :
    Ends (¬ workspace.files.CanWriteIn directory paths) (Workspace.makeDirectory directory)
      workspace fun _ after =>
        after.files.IsReadyFor paths (¬ workspace.files.CanWriteIn directory paths) ∧
          after.session = workspace.session := by
  by_cases can : workspace.files.CanWriteIn directory paths
  · obtain ⟨made, making, accepts⟩ := can
    refine .changeFiles (.inr ⟨made, making⟩) fun files changed => ⟨.inr ?_, rfl⟩
    obtain rfl : made = files := Except.ok.inj (making.symm.trans changed)
    exact accepts
  · exact .changeFiles (.inl can) fun files _ => ⟨.inl can, rfl⟩

end FileTree

namespace Campaign

/-- The paths of the files that a campaign leaves. -/
def leftPaths (campaign : Campaign) : List Path :=
  [campaign.settings.buildLogPath, campaign.settings.runLogPath, campaign.settings.resultsPath,
    campaign.settings.failuresPath]

/-- A campaign can leave its files: its directory can be made, and then they can be written. -/
def CanLeave (campaign : Campaign) (files : FileTree) : Prop :=
  ∃ made, files.makeDirectory campaign.settings.outputDirectory = .ok made ∧
    ∀ path ∈ campaign.leftPaths, made.Accepts path

/-- The trials that a campaign goes through from a session on. -/
def scheduled (campaign : Campaign) (matrix : Matrix) (session : Session) : List Trial :=
  campaign.schedule session.runner (campaign.taken matrix) session.coming

/-- The files of a campaign can be written, unless it is excused that they cannot. -/
def IsReady (campaign : Campaign) (excused : Prop) (files : FileTree) : Prop :=
  excused ∨ ∀ path ∈ campaign.leftPaths, files.Accepts path

theorem ends_writeFile {campaign : Campaign} {excused : Prop} (workspace : Workspace)
    (ready : campaign.IsReady excused workspace.files) {path : Path}
    (isLeft : path ∈ campaign.leftPaths) (text : String) :
    Ends excused (Workspace.writeFile path text) workspace fun _ after =>
      campaign.IsReady excused after.files ∧ after.session = workspace.session ∧
        workspace.files.write path text.toUTF8 = .ok after.files :=
  FileTree.ends_writeFile workspace ready isLeft text

/-- Whatever was done before, processing the modes that are taken goes through the scheduled trials.
It gives what comes of them, and that is recorded. -/
theorem processAll_eq (campaign : Campaign) (matrix : Matrix) (session : Session)
    {places : List (Mode × Nat)} (taken : places.map Prod.fst = campaign.taken matrix)
    (total : Nat) (documents : Documents) :
    let outcomes := (campaign.scheduled matrix session).map (·.outcome campaign)
    (∀ trial ∈ campaign.scheduled matrix session, trial.IsComplete campaign) ∧
      session.GoesOn ((campaign.scheduled matrix session).flatMap (·.launches campaign))
        ((campaign.processAll places total documents).run session).2 ∧
      ((campaign.processAll places total documents).run session).1 =
        (outcomes, documents.recordAll outcomes) := by
  obtain ⟨launches, goesOn, trials, modes, complete, rfl, result⟩ :=
    campaign.ensures_processAll places total documents session
  have scheduled : campaign.scheduled matrix session = trials := by
    rw [Campaign.scheduled, ← taken, ← modes]
    exact schedule_eq complete goesOn.results
  rw [scheduled]
  exact ⟨complete, goesOn, result⟩

/-- A campaign goes through the scheduled trials unless its directory cannot be made or some of the
given paths, among them those of the logs, cannot be written. -/
theorem ends_runLogged_among {campaign : Campaign} {matrix : Matrix}
    {places : List (Mode × Nat)} {total : Nat} {paths : List Path}
    (buildLog : campaign.settings.buildLogPath ∈ paths)
    (runLog : campaign.settings.runLogPath ∈ paths)
    (selected : campaign.selected matrix = .ok (places, total)) (workspace : Workspace) :
    let trials := campaign.scheduled matrix workspace.session
    let excused := ¬ workspace.files.CanWriteIn campaign.settings.outputDirectory paths
    Ends excused (campaign.runLogged matrix) workspace
      fun documents after => after.files.IsReadyFor paths excused ∧
        workspace.session.GoesOn (trials.flatMap (·.launches campaign)) after.session ∧
          documents = campaign.blankDocuments.recordAll (trials.map (·.outcome campaign)) := by
  obtain ⟨-, goesOn, result⟩ := processAll_eq campaign matrix workspace.session
    (taken_of_selected selected) total campaign.blankDocuments
  intro trials excused
  refine (FileTree.ends_makeDirectory campaign.settings.outputDirectory workspace).bind ?_
  rintro _ made ⟨ready, sameMade⟩
  refine (FileTree.ends_writeFile _ ready buildLog "").bind ?_
  rintro _ opened ⟨ready, sameOpened, -⟩
  refine (FileTree.ends_writeFile _ ready runLog "").bind ?_
  rintro _ begun ⟨ready, sameBegun, -⟩
  -- No launch was made up to here, so the schedule is that of the first session.
  have same : begun.session = workspace.session :=
    sameBegun.trans (sameOpened.trans sameMade)
  refine .follow (run_orEnd .limit selected begun) ?_
  refine .follow (run_inSession (campaign.processAll places total campaign.blankDocuments) begun) ?_
  refine .follow (run_get _) ?_
  refine Ends.bind (FileTree.ends_writeFile _ (by exact ready) buildLog _) ?_
  rintro _ closing ⟨ready, sameClosing, -⟩
  refine (FileTree.ends_writeFile _ ready runLog _).bind ?_
  rintro _ closed ⟨ready, sameClosed, -⟩
  refine .pure ⟨ready, ?_, ?_⟩
  · rw [sameClosed, sameClosing, same]
    exact goesOn
  · rw [same]
    exact congrArg Prod.snd result

theorem ends_runLogged_of_selected {campaign : Campaign} {matrix : Matrix}
    {places : List (Mode × Nat)} {total : Nat}
    (selected : campaign.selected matrix = .ok (places, total)) (workspace : Workspace) :
    let trials := campaign.scheduled matrix workspace.session
    Ends (¬ campaign.CanLeave workspace.files) (campaign.runLogged matrix) workspace
      fun documents after =>
        campaign.IsReady (¬ campaign.CanLeave workspace.files) after.files ∧
          workspace.session.GoesOn (trials.flatMap (·.launches campaign)) after.session ∧
          documents = campaign.blankDocuments.recordAll (trials.map (·.outcome campaign)) :=
  ends_runLogged_among (by simp [leftPaths]) (by simp [leftPaths])
    selected workspace

theorem ends_runLogged (campaign : Campaign) (matrix : Matrix) (workspace : Workspace)
    (firstModes : 0 ≤ campaign.settings.firstModes) (countable : matrix.count < Matrix.countLimit) :
    let trials := campaign.scheduled matrix workspace.session
    Ends (¬ campaign.CanLeave workspace.files) (campaign.runLogged matrix) workspace
      fun documents after =>
        campaign.IsReady (¬ campaign.CanLeave workspace.files) after.files ∧
          documents = campaign.blankDocuments.recordAll (trials.map (·.outcome campaign)) := by
  obtain ⟨places, total, selected, -⟩ := selected_eq_ok campaign matrix firstModes countable
  refine (ends_runLogged_of_selected selected workspace).imp ?_
  rintro documents after ⟨ready, -, equal⟩
  exact ⟨ready, equal⟩

/-- The document of a path is loaded as records that tell what came of the built trials. -/
structure Left (campaign : Campaign) (samplesOf : Transcript → List Sample) (trials : List Trial)
    (after : Workspace) : Prop where
  results : ∃ records,
    (loadDocument .plain campaign.settings.resultsPath).run.run after = (.ok records, after) ∧
      List.Forall₂ (fun trial record => Record.Tells record campaign samplesOf trial)
        (campaign.built trials) records
  failures : campaign.collectsFailures = true → ∃ records,
    (loadDocument .plain campaign.settings.failuresPath).run.run after = (.ok records, after) ∧
      List.Forall₂ (fun trial record => Record.Tells record campaign samplesOf trial ∧
        record.TellsFailures campaign trial) (campaign.built trials) records

theorem mem_matrix_of_taken (campaign : Campaign) {matrix : Matrix} {mode : Mode}
    (taken : mode ∈ campaign.taken matrix) : mode ∈ matrix.modes := by
  rw [Campaign.taken] at taken
  split at taken
  · exact taken
  · exact List.mem_of_mem_take taken

/-- The scheduled trials can be told when their modes have names that a document may hold. -/
theorem isTold_scheduled {campaign : Campaign} {matrix : Matrix} {session : Session}
    {samplesOf : Transcript → List Sample}
    (iterations : 0 ≤ campaign.settings.iterations)
    (firstModes : 0 ≤ campaign.settings.firstModes) (countable : matrix.count < Matrix.countLimit)
    (short : campaign.settings.iterations < 10 ^ integerDigitLimit)
    (names : ∀ mode ∈ matrix.modes, ∀ character ∈ mode.name.toList, isXmlChar character = true)
    (told : ∀ trial ∈ campaign.scheduled matrix session, trial.IsTold campaign samplesOf) :
    campaign.IsTold samplesOf (campaign.scheduled matrix session) := by
  obtain ⟨places, total, -, taken⟩ := selected_eq_ok campaign matrix firstModes countable
  obtain ⟨complete, -⟩ :=
    processAll_eq campaign matrix session taken total campaign.blankDocuments
  refine ⟨complete, fun trial member => names trial.mode ?_, told, iterations, short⟩
  refine mem_matrix_of_taken campaign ?_
  rw [← campaign.map_mode_schedule session.runner (campaign.taken matrix) session.coming]
  exact List.mem_map_of_mem member

/-- A file with the document of trials is loaded as records that tell what came of them. -/
theorem loads_trials {campaign : Campaign} {samplesOf : Transcript → List Sample}
    {trials : List Trial} (told : campaign.IsTold samplesOf trials) {after : Workspace}
    {path : Path} (withFailures : Bool)
    (reads : after.files.read path =
      .ok (campaign.documentOf trials withFailures).render.toUTF8) :
    ∃ records, (loadDocument .plain path).run.run after = (.ok records, after) ∧
      List.Forall₂ (fun trial record => Record.Tells record campaign samplesOf trial)
        (campaign.built trials) records :=
  ⟨_, run_loadDocument reads (readDocument_trials told withFailures),
    tells_records told withFailures⟩

/-- A file with the document of trials and their failures tells the failures, too. -/
theorem loads_failures {campaign : Campaign} {samplesOf : Transcript → List Sample}
    {trials : List Trial} (told : campaign.IsTold samplesOf trials)
    (collects : campaign.collectsFailures = true) {after : Workspace} {path : Path}
    (reads : after.files.read path = .ok (campaign.documentOf trials true).render.toUTF8) :
    ∃ records, (loadDocument .plain path).run.run after = (.ok records, after) ∧
      List.Forall₂ (fun trial record => Record.Tells record campaign samplesOf trial ∧
        record.TellsFailures campaign trial) (campaign.built trials) records := by
  refine ⟨_, run_loadDocument reads (readDocument_trials told true), ?_⟩
  rw [List.forall₂_map_right_iff, List.forall₂_same]
  intro trial isBuilt
  obtain ⟨isTrial, built⟩ := List.mem_filter.mp isBuilt
  exact ⟨tells_content (told.complete trial isTrial) built told.iterations true,
    tellsFailures_content trial collects⟩

end Campaign

/-- The documents that a campaign leaves tell what came of it: one record for each mode that is
taken and whose build succeeded, in order. They are left unless the files of the campaign cannot
be. -/
theorem runBenchmarks_leaves (campaign : Campaign) (matrix : Matrix) (workspace : Workspace)
    (samplesOf : Transcript → List Sample) (iterations : 0 ≤ campaign.settings.iterations)
    (firstModes : 0 ≤ campaign.settings.firstModes) (countable : matrix.count < Matrix.countLimit)
    (short : campaign.settings.iterations < 10 ^ integerDigitLimit)
    (names : ∀ mode ∈ matrix.modes, ∀ character ∈ mode.name.toList, isXmlChar character = true)
    (told : ∀ trial ∈ campaign.scheduled matrix workspace.session,
      trial.IsTold campaign samplesOf) :
    Ends (¬ campaign.CanLeave workspace.files) (campaign.runBenchmarks matrix) workspace
      fun path after =>
        path = (if campaign.collectsFailures then campaign.settings.failuresPath
          else campaign.settings.resultsPath) ∧
        campaign.Left samplesOf (campaign.scheduled matrix workspace.session) after := by
  have isTold := Campaign.isTold_scheduled iterations firstModes countable short names told
  have resultsLeft : campaign.settings.resultsPath ∈ campaign.leftPaths := by
    simp [Campaign.leftPaths]
  have failuresLeft : campaign.settings.failuresPath ∈ campaign.leftPaths := by
    simp [Campaign.leftPaths]
  refine (campaign.ends_runLogged matrix workspace firstModes countable).bind ?_
  rintro _ logged ⟨ready, rfl⟩
  rw [recordAll_blankDocuments]
  refine .follow (run_inSession _ logged) (.follow (run_inSession _ _) ?_)
  refine Ends.bind (Campaign.ends_writeFile _ (by exact ready) resultsLeft _) ?_
  rintro _ written ⟨ready, -, wrote⟩
  have results := FileTree.read_of_write wrote
  cases collects : campaign.collectsFailures with
  | false =>
    refine .pure ⟨rfl, Campaign.loads_trials isTold false results, fun impossible => ?_⟩
    rw [collects] at impossible
    cases impossible
  | true =>
    refine (Campaign.ends_writeFile _ ready failuresLeft _).bind ?_
    rintro _ after ⟨-, -, wroteFailures⟩
    refine .pure ⟨rfl, ?_, fun _ =>
      Campaign.loads_failures isTold collects (FileTree.read_of_write wroteFailures)⟩
    -- Should both paths lead to one place, the failures have replaced the results.
    rcases FileTree.read_behind_write wroteFailures results with kept | replaced
    · exact Campaign.loads_trials isTold false kept
    · exact Campaign.loads_trials isTold true replaced

/-- A sample on a line of its own is printed by the first measured run of the first mode, with a
failure behind it. The second is dropped, and the build of the second mode cannot be started. -/
def timedWorkspace : Workspace := {
  session := {
    coming := [.printing 0 [], .printing 1 [],
      .printing 143 [(.output, "XMLXMLXML\n"),
        (.output, Sample.line ⟨"RUNTIME", 950, 600, 35⟩ ++ "\n"), (.output, "LMXLMXLMX\n"),
        (.output, "<R2RResolutionFailed>First</R2RResolutionFailed>\n")],
      .printing 2 [], .refused 13 "Permission denied"] } }

theorem canLeave_mixedCampaign : mixedCampaign.CanLeave timedWorkspace.files := by
  refine FileTree.canWriteIn_of_free ?_
  simp only [String.contains_char_eq]
  decide +kernel

theorem scheduled_timedWorkspace :
    mixedCampaign.scheduled ⟨Mode.templates⟩ timedWorkspace.session = [
      { mode := { name := "baseline", readyToRun := true }
        build := some { exitCode := 0 }
        warmups := [some { exitCode := 1 }]
        measured := [
          some {
            exitCode := 143
            lines := ["XMLXMLXML", Sample.line ⟨"RUNTIME", 950, 600, 35⟩, "LMXLMXLMX",
              "<R2RResolutionFailed>First</R2RResolutionFailed>"] },
          some { exitCode := 2 }] },
      { mode := { name := "r2r", appPrecompiled := true, readyToRun := true }
        build := none }] := by
  decide +kernel

theorem isTold_timedWorkspace :
    ∀ trial ∈ mixedCampaign.scheduled ⟨Mode.templates⟩ timedWorkspace.session,
      trial.IsTold mixedCampaign fun _ => [⟨"RUNTIME", 950, 600, 35⟩] := by
  rw [scheduled_timedWorkspace]
  refine List.forall_mem_cons.mpr ⟨⟨?_, ?_, ?_⟩, List.forall_mem_singleton.mpr ⟨?_, ?_, ?_⟩⟩
  · exact List.forall_mem_singleton.mpr (prints_line [⟨"RUNTIME", 950, 600, 35⟩])
  · refine List.forall_mem_singleton.mpr (List.forall_mem_singleton.mpr ?_)
    exact ⟨by decide, by decide, by decide, by decide⟩
  · refine List.forall_mem_singleton.mpr (List.forall_mem_singleton.mpr ?_)
    exact List.all_iff_forall_prop.mp (by decide)
  all_goals exact List.forall_mem_nil _

theorem runBenchmarks_leaves_timedWorkspace :
    (∀ mode ∈ Mode.templates, ∀ character ∈ mode.name.toList, isXmlChar character = true) ∧
    (∀ trial ∈ mixedCampaign.scheduled ⟨Mode.templates⟩ timedWorkspace.session,
      trial.IsTold mixedCampaign fun _ => [⟨"RUNTIME", 950, 600, 35⟩]) ∧
    mixedCampaign.CanLeave timedWorkspace.files ∧
    Ends (¬ mixedCampaign.CanLeave timedWorkspace.files)
      (mixedCampaign.runBenchmarks ⟨Mode.templates⟩) timedWorkspace fun path after =>
        path = (if mixedCampaign.collectsFailures then mixedCampaign.settings.failuresPath
          else mixedCampaign.settings.resultsPath) ∧
        mixedCampaign.Left (fun _ => [⟨"RUNTIME", 950, 600, 35⟩])
          (mixedCampaign.scheduled ⟨Mode.templates⟩ timedWorkspace.session) after := by
  have plain : ∀ mode ∈ Mode.templates, mode.name.toList.all isXmlChar = true := by decide
  have names : ∀ mode ∈ Mode.templates, ∀ character ∈ mode.name.toList,
      isXmlChar character = true := fun mode member => List.all_eq_true.mp (plain mode member)
  have short : (2 : Int) < 10 ^ integerDigitLimit :=
    lt_of_lt_of_le (by decide : (2 : Int) < 10) (le_self_pow₀ (by decide) (by decide))
  exact ⟨names, isTold_timedWorkspace, canLeave_mixedCampaign,
    runBenchmarks_leaves mixedCampaign ⟨Mode.templates⟩ timedWorkspace _ (by decide) (by decide)
      (by decide) short names isTold_timedWorkspace⟩

end ColdStart
