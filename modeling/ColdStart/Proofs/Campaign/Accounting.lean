/-
This file shows that the runs of a campaign add up. Every launch of a trial is
accounted for: one build, and behind a build that succeeded so many runs, each of
which counts or is dropped. What is recorded goes into the documents block by
block, and the two documents always have blocks for the same modes.
-/

import ColdStart.Proofs.Campaign.Launching
import Mathlib.Data.List.Forall2
import Mathlib.Data.List.ReduceOption

namespace ColdStart

/-! ### Measurements -/

/-- A launch is dropped: it was refused, or it did not end as a server ends that has reported. -/
def isDropped (transcript? : Option Transcript) : Bool :=
  !transcript?.any fun transcript => transcript.exitCode = reportedExitCode

theorem capture?_isNone (campaign : Campaign) (transcript? : Option Transcript) :
    (campaign.capture? transcript?).isNone = isDropped transcript? := by
  cases transcript? with
  | none => rfl
  | some transcript =>
    rw [Campaign.capture?, isDropped, Option.any_some]
    by_cases reported : transcript.exitCode = reportedExitCode
    · simp [reported]
    · simp [reported]

/-- Runs are added to a measurement one after the other: those that count add what was captured of
them, the others are dropped. -/
theorem foldl_add (collectFailures : Bool) (captures : List (Option Capture))
    (start : Measurement) :
    captures.foldl (Measurement.add collectFailures) start = {
      fragment := start.fragment ++ captures.reduceOption.flatMap Capture.fragment
      failureRuns := start.failureRuns ++
        if collectFailures then captures.reduceOption.map Capture.failures else []
      measured := start.measured + captures.reduceOption.length
      dropped := start.dropped + captures.countP Option.isNone } := by
  induction captures generalizing start with
  | nil => cases collectFailures <;> simp
  | cons capture? rest inductionHypothesis =>
    rw [List.foldl_cons, inductionHypothesis]
    cases capture? with
    | none =>
      rw [List.reduceOption_cons_of_none, List.countP_cons_of_pos Option.isNone_none]
      simp only [Measurement.add, Measurement.mk.injEq, true_and]
      omega
    | some capture =>
      rw [List.reduceOption_cons_of_some, List.countP_cons_of_neg (by simp)]
      cases collectFailures
      all_goals
        simp only [Measurement.add, List.flatMap_cons, List.map_cons, List.length_cons]
        simp
        omega

/-- What so many runs gave. -/
theorem ofRuns_eq (collectFailures : Bool) (captures : List (Option Capture)) :
    Measurement.ofRuns collectFailures captures = {
      fragment := captures.reduceOption.flatMap Capture.fragment
      failureRuns := if collectFailures then captures.reduceOption.map Capture.failures else []
      measured := captures.reduceOption.length
      dropped := captures.countP Option.isNone } := by
  rw [Measurement.ofRuns, foldl_add]
  simp

/-- Every launch of a measured run counts or is dropped. -/
theorem reduceOption_length_add_countP (captures : List (Option Capture)) :
    captures.reduceOption.length + captures.countP Option.isNone = captures.length := by
  induction captures with
  | nil => rfl
  | cons capture? rest inductionHypothesis =>
    cases capture? with
    | none =>
      rw [List.reduceOption_cons_of_none, List.countP_cons_of_pos Option.isNone_none,
        List.length_cons]
      omega
    | some capture =>
      rw [List.reduceOption_cons_of_some, List.countP_cons_of_neg (by simp), List.length_cons,
        List.length_cons]
      omega

/-! ### Trials -/

/-- The launches of a trial are accounted for by what comes of it. -/
inductive Trial.Accounts (campaign : Campaign) (trial : Trial) : Outcome → Prop where
  /-- The only launch was that of a build that gave nothing. -/
  | buildFailed (nothing : trial.artifact? campaign = none)
      (launches : (trial.launches campaign).length = 1) :
      Accounts campaign trial (.buildFailed trial.mode)
  /-- Behind the build stand as many runs as were asked for. Those that are measured count or are
  dropped, and those that count have a list of failures each, if these are collected. -/
  | recorded (artifact : String) (measurement : Measurement)
      (built : trial.artifact? campaign = some artifact)
      (launches : ((trial.launches campaign).length : Int) =
        1 + campaign.settings.warmups + campaign.settings.iterations)
      (warmups : (trial.warmups.length : Int) = campaign.settings.warmups)
      (measured : (trial.measured.length : Int) = campaign.settings.iterations)
      (sum : (measurement.measured + measurement.dropped : Int) = campaign.settings.iterations)
      (dropped : measurement.dropped = trial.measured.countP isDropped)
      (failureRuns : campaign.collectsFailures = true →
        measurement.failureRuns.length = measurement.measured) :
      Accounts campaign trial (.recorded trial.mode artifact measurement)

theorem Trial.accounts {campaign : Campaign} {trial : Trial} (complete : trial.IsComplete campaign)
    (warmups : 0 ≤ campaign.settings.warmups) (iterations : 0 ≤ campaign.settings.iterations) :
    trial.Accounts campaign (trial.outcome campaign) := by
  rw [Trial.outcome]
  cases built : trial.artifact? campaign with
  | none =>
    refine .buildFailed built ?_
    rw [Trial.launches, built]
    rfl
  | some artifact =>
    obtain ⟨warmupCount, measuredCount⟩ := complete.built artifact built
    have total := reduceOption_length_add_countP (trial.measured.map campaign.capture?)
    rw [List.length_map, measuredCount] at total
    refine .recorded artifact _ built ?_ ?_ ?_ ?_ ?_ ?_
    · rw [Trial.launches, built]
      simp only [List.length_cons, List.length_map, List.length_append]
      omega
    · omega
    · omega
    · rw [ofRuns_eq]
      simp only
      omega
    · rw [ofRuns_eq, List.countP_map]
      simp only [Function.comp_def, capture?_isNone]
    · intro collects
      rw [ofRuns_eq, if_pos collects, List.length_map]

/-! ### Documents -/

/-- The mode of an outcome that is recorded. -/
def Outcome.recordedMode? : Outcome → Option Mode
  | .buildFailed _ => none
  | .recorded mode _ _ => some mode

/-- A document has blocks for these modes, in order and none else. -/
structure DocumentWriter.Holds (document : DocumentWriter) (modes : List Mode) : Prop where
  blocks : ∃ contents : List BlockContent, document = contents.foldl DocumentWriter.add {} ∧
    contents.map BlockContent.mode = modes
  size : document.size = modes.length

namespace DocumentWriter.Holds

theorem blank : ({} : DocumentWriter).Holds [] := ⟨⟨[], rfl, rfl⟩, rfl⟩

theorem add {document : DocumentWriter} {modes : List Mode} (holds : document.Holds modes)
    (content : BlockContent) : (document.add content).Holds (modes ++ [content.mode]) where
  blocks := by
    obtain ⟨contents, rfl, rfl⟩ := holds.blocks
    exact ⟨contents ++ [content], (List.foldl_concat ..).symm, by simp⟩
  size := by
    have size := holds.size
    simp only [DocumentWriter.size, DocumentWriter.add, List.length_append,
      List.length_singleton] at size ⊢
    rw [size]

end DocumentWriter.Holds

/-- The documents have blocks for the same modes, and there is one of the failures exactly when
these are collected. -/
structure Campaign.InStep (campaign : Campaign) (modes : List Mode) (documents : Documents) :
    Prop where
  results : documents.results.Holds modes
  failures : ∀ document ∈ documents.failures?, document.Holds modes
  collected : documents.failures?.isSome = campaign.collectsFailures

namespace Campaign.InStep

variable {campaign : Campaign} {modes : List Mode} {documents : Documents}

theorem blank : campaign.InStep [] campaign.blankDocuments where
  results := .blank
  failures document isDocument := by
    rw [blankDocuments] at isDocument
    split at isDocument
    · cases isDocument
      exact .blank
    · cases isDocument
  collected := by
    rw [blankDocuments]
    cases campaign.collectsFailures <;> rfl

theorem add (inStep : campaign.InStep modes documents) (mode : Mode) (measurement : Measurement) :
    campaign.InStep (modes ++ [mode]) (documents.add mode measurement) where
  results := inStep.results.add (measurement.content mode false)
  failures document isDocument := by
    obtain ⟨before, isBefore, rfl⟩ := Option.map_eq_some_iff.mp isDocument
    exact (inStep.failures before isBefore).add (measurement.content mode true)
  collected := Option.isSome_map.trans inStep.collected

/-- The documents stay in step, with the recorded modes, when outcomes are recorded. -/
theorem recordAll (inStep : campaign.InStep modes documents) (outcomes : List Outcome) :
    campaign.InStep (modes ++ outcomes.filterMap Outcome.recordedMode?)
      (documents.recordAll outcomes) := by
  induction outcomes generalizing modes documents with
  | nil => rwa [List.filterMap_nil, List.append_nil]
  | cons outcome rest inductionHypothesis =>
    cases outcome with
    | buildFailed mode =>
      rw [List.filterMap_cons_none rfl]
      exact inductionHypothesis inStep
    | recorded mode artifact measurement =>
      have recorded : (Outcome.recorded mode artifact measurement).recordedMode? = some mode := rfl
      rw [List.filterMap_cons_some recorded, List.append_cons]
      exact inductionHypothesis (inStep.add mode measurement)

end Campaign.InStep

/-- What an outcome adds to the documents: nothing when the build failed, else one block to each. -/
inductive Outcome.Adds : Outcome → Documents → Documents → Prop where
  | nothing (mode : Mode) (documents : Documents) : Adds (.buildFailed mode) documents documents
  | block (mode : Mode) (artifact : String) (measurement : Measurement) {before after : Documents}
      (content failing : BlockContent) (modes : content.mode = mode ∧ failing.mode = mode)
      (failureRuns : failing.failureRuns = measurement.failureRuns)
      (results : after.results = before.results.add content)
      (failures : after.failures? = before.failures?.map (·.add failing)) :
      Adds (.recorded mode artifact measurement) before after

theorem adds_record (outcome : Outcome) (documents : Documents) :
    outcome.Adds documents (documents.record outcome) := by
  cases outcome with
  | buildFailed mode => exact .nothing mode documents
  | recorded mode artifact measurement =>
    exact .block mode artifact measurement (measurement.content mode false)
      (measurement.content mode true) ⟨rfl, rfl⟩ rfl rfl rfl

/-- What came of the first modes does not depend on those behind them. -/
theorem outcomes_processAll_take (campaign : Campaign) (places : List (Mode × Nat))
    (total count : Nat) (documents : Documents) (session : Session) :
    ((campaign.processAll (places.take count) total documents).run session).1.1 =
      ((campaign.processAll places total documents).run session).1.1.take count := by
  induction places generalizing count documents session with
  | nil =>
    rw [List.take_nil]
    exact List.take_nil.symm
  | cons place rest inductionHypothesis =>
    cases count with
    | zero => rfl
    | succ count =>
      rw [List.take_succ_cons]
      exact congrArg (_ :: ·) (inductionHypothesis count _ _)

/-! ### Campaigns -/

/-- The modes that are taken: the first of a matrix, as many as the settings say, or all. -/
def Campaign.taken (campaign : Campaign) (matrix : Matrix) : List Mode :=
  if campaign.settings.firstModes = 0 then matrix.modes
  else matrix.modes.take campaign.settings.firstModes.toNat

/-- The modes that are taken are selected with their places and their number. No list has more
members than can be counted. -/
theorem selected_eq (campaign : Campaign) (matrix : Matrix)
    (firstModes : 0 ≤ campaign.settings.firstModes) (countable : matrix.count < Matrix.countLimit) :
    campaign.selected matrix =
      .ok ((campaign.taken matrix).zipIdx, (campaign.taken matrix).length) := by
  rw [Campaign.selected, Campaign.taken]
  by_cases none : campaign.settings.firstModes = 0
  · rw [if_neg (by omega), if_pos none, Matrix.each, Matrix.count]
  · rw [if_neg none]
    by_cases fewer : campaign.settings.firstModes < matrix.count
    · have length : (matrix.modes.take campaign.settings.firstModes.toNat).length =
          campaign.settings.firstModes.toNat := by
        rw [List.length_take, Nat.min_eq_left]
        rw [Matrix.count] at fewer
        omega
      rw [if_pos ⟨none, fewer⟩, Matrix.eachUntil, if_neg, if_neg (by omega), length]
      · rfl
      · simp only [Bool.or_eq_true, decide_eq_true_eq]
        unfold Matrix.countLimit at countable ⊢
        omega
    · rw [if_neg fun both => fewer both.2, List.take_of_length_le, Matrix.each, Matrix.count]
      rw [Matrix.count] at fewer
      omega

/-- The modes that are selected are those that are taken. -/
theorem selected_eq_ok (campaign : Campaign) (matrix : Matrix)
    (firstModes : 0 ≤ campaign.settings.firstModes) (countable : matrix.count < Matrix.countLimit) :
    ∃ places total, campaign.selected matrix = .ok (places, total) ∧
      places.map Prod.fst = campaign.taken matrix :=
  ⟨_, _, selected_eq campaign matrix firstModes countable, List.zipIdx_map_fst 0 _⟩

/-- Whatever the limit is, modes that are selected are those that are taken. -/
theorem taken_of_selected {campaign : Campaign} {matrix : Matrix} {places : List (Mode × Nat)}
    {total : Nat} (selected : campaign.selected matrix = .ok (places, total)) :
    places.map Prod.fst = campaign.taken matrix := by
  rw [Campaign.selected] at selected
  rw [Campaign.taken]
  split at selected
  · next limited =>
    rw [if_neg limited.1]
    cases cut : matrix.eachUntil campaign.settings.firstModes with
    | error fault =>
      rw [cut] at selected
      cases selected
    | ok first =>
      rw [cut] at selected
      cases selected
      rw [Matrix.eachUntil] at cut
      split at cut
      · cases cut
      · split at cut
        · cases cut
        · cases cut
          exact List.zipIdx_map_fst 0 _
  · next whole =>
    cases selected
    have every : matrix.each.map Prod.fst = matrix.modes := List.zipIdx_map_fst 0 _
    rw [every]
    split
    · rfl
    · next limit =>
      have long : matrix.modes.length ≤ campaign.settings.firstModes.toNat := by
        rw [Matrix.count] at whole
        omega
      rw [List.take_of_length_le long]

/-- The launches, the outcomes and the documents of a campaign over some modes add up. What was
reached when so many modes were done is given for each number of them. -/
structure Campaign.AddsUp (campaign : Campaign) (modes : List Mode) (session : Session)
    (reached : Nat → List Outcome × Documents) (outcomes : List Outcome) (after : Session) :
    Prop where
  /-- The session went on by one trial of each mode, and the outcomes are theirs, in order. -/
  trials : ∃ trials : List Trial, trials.map Trial.mode = modes ∧
    session.GoesOn (trials.flatMap (·.launches campaign)) after ∧
    List.Forall₂ (Trial.Accounts campaign) trials outcomes
  /-- The outcomes came one after another. -/
  partly : ∀ count, (reached count).1 = outcomes.take count
  /-- Each outcome added to the documents what it had to. -/
  adds : ∀ (count : Nat) (outcome : Outcome), outcomes[count]? = some outcome →
    outcome.Adds (reached count).2 (reached (count + 1)).2
  /-- The documents were in step all the time, with blocks for the recorded modes. -/
  inStep : ∀ count, campaign.InStep ((reached count).1.filterMap Outcome.recordedMode?)
    (reached count).2

/-- Whatever the launches of a campaign leave, they add up. -/
theorem processAll_addsUp (campaign : Campaign) (matrix : Matrix) (session : Session)
    (warmups : 0 ≤ campaign.settings.warmups) (iterations : 0 ≤ campaign.settings.iterations)
    (firstModes : 0 ≤ campaign.settings.firstModes) (countable : matrix.count < Matrix.countLimit) :
    ∃ places total, campaign.selected matrix = .ok (places, total) ∧
      let run (places : List (Mode × Nat)) :=
        (campaign.processAll places total campaign.blankDocuments).run session
      campaign.AddsUp (campaign.taken matrix) session (fun count => (run (places.take count)).1)
        (run places).1.1 (run places).2 := by
  obtain ⟨places, total, selected, taken⟩ :=
    selected_eq_ok campaign matrix firstModes countable
  refine ⟨places, total, selected, ?_⟩
  intro run
  have documents (places : List (Mode × Nat)) :
      (run places).1.2 = campaign.blankDocuments.recordAll (run places).1.1 := by
    obtain ⟨-, -, trials, -, -, -, result⟩ :=
      campaign.ensures_processAll places total campaign.blankDocuments session
    simp only [run, result]
  have outcomes (count : Nat) : (run (places.take count)).1.1 = (run places).1.1.take count :=
    outcomes_processAll_take campaign places total count _ session
  constructor
  case trials =>
    obtain ⟨launches, goesOn, trials, modes, complete, rfl, result⟩ :=
      campaign.ensures_processAll places total campaign.blankDocuments session
    refine ⟨trials, modes.trans taken, goesOn, ?_⟩
    simp only [run, result]
    rw [List.forall₂_map_right_iff, List.forall₂_same]
    exact fun trial member => Trial.accounts (complete trial member) warmups iterations
  case partly => exact outcomes
  case adds =>
    intro count outcome isOutcome
    rw [documents, documents, outcomes, outcomes, List.take_add_one, isOutcome,
      Documents.recordAll, Documents.recordAll, List.foldl_append]
    exact adds_record outcome _
  case inStep =>
    intro count
    rw [documents]
    exact Campaign.InStep.blank.recordAll _

/-- A campaign that collects failures, over the first two modes. -/
def mixedCampaign : Campaign := {
  settings := {
    warmups := 1, iterations := 2, firstModes := 2, resolutionFails := true, timestamp := "t" }
  backend := .script }

/-- The first mode is built, warmed up and measured twice, and one of the runs is dropped. The
build of the second mode cannot be started. -/
def mixedSession : Session := {
  coming := [.printing 0 [], .printing 1 [], .printing 143 [(.output, "XMLXMLXML\n")],
    .printing 2 [], .refused 13 "Permission denied"] }

theorem processAll_addsUp_mixedSession :
    0 ≤ mixedCampaign.settings.warmups ∧ 0 ≤ mixedCampaign.settings.iterations ∧
    0 ≤ mixedCampaign.settings.firstModes ∧ Matrix.count ⟨Mode.templates⟩ < Matrix.countLimit ∧
    ∃ places total, mixedCampaign.selected ⟨Mode.templates⟩ = .ok (places, total) ∧
      let run (places : List (Mode × Nat)) :=
        (mixedCampaign.processAll places total mixedCampaign.blankDocuments).run mixedSession
      mixedCampaign.AddsUp (mixedCampaign.taken ⟨Mode.templates⟩) mixedSession
        (fun count => (run (places.take count)).1) (run places).1.1 (run places).2 := by
  have warmups : 0 ≤ mixedCampaign.settings.warmups := by decide
  have iterations : 0 ≤ mixedCampaign.settings.iterations := by decide
  have firstModes : 0 ≤ mixedCampaign.settings.firstModes := by decide
  have countable : Matrix.count ⟨Mode.templates⟩ < Matrix.countLimit := by decide
  exact ⟨warmups, iterations, firstModes, countable,
    processAll_addsUp mixedCampaign ⟨Mode.templates⟩ mixedSession warmups iterations firstModes
      countable⟩

end ColdStart
