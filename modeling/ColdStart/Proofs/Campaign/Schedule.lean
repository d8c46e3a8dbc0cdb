/-
This file says beforehand what a campaign will launch. Given what becomes of the
launches to come, every build and every run of every mode is settled: the trials
are cut from the launches to come one after the other. The trials that a campaign
goes through are those of its schedule.
-/

import ColdStart.Proofs.Campaign.Launching

namespace ColdStart

theorem length_resultsOf (runner : Runner) (coming : List Child) (commands : List Command) :
    (resultsOf runner coming commands).length = commands.length := by
  induction commands generalizing coming with
  | nil => rfl
  | cons command rest inductionHypothesis =>
    rw [resultsOf, List.length_cons, inductionHypothesis, List.length_cons]

namespace Campaign

/-- How often a mode that was built is started. -/
def runCount (campaign : Campaign) : Nat :=
  campaign.settings.warmups.toNat + campaign.settings.iterations.toNat

/-- The trial of a mode, given what becomes of the launches to come. The runs behind a build that
succeeded are warm-ups first. -/
def trialOf (campaign : Campaign) (runner : Runner) (mode : Mode) (coming : List Child) : Trial :=
  let build := (runner (coming.headD .absent) (campaign.buildOf mode)).transcript?
  match build.bind campaign.backend.artifact? with
  | none => { mode, build }
  | some artifact =>
    let runs := resultsOf runner coming.tail
      (List.replicate campaign.runCount (campaign.runOf mode artifact))
    { mode, build
      warmups := runs.take campaign.settings.warmups.toNat
      measured := runs.drop campaign.settings.warmups.toNat }

/-- The trials of modes, in order, given what becomes of the launches to come. -/
def schedule (campaign : Campaign) (runner : Runner) : List Mode → List Child → List Trial
  | [], _ => []
  | mode :: rest, coming =>
    let trial := campaign.trialOf runner mode coming
    trial :: campaign.schedule runner rest (coming.drop (trial.launches campaign).length)

theorem mode_trialOf (campaign : Campaign) (runner : Runner) (mode : Mode) (coming : List Child) :
    (campaign.trialOf runner mode coming).mode = mode := by
  rw [trialOf]
  split <;> rfl

/-- There is one trial of each mode, in order. -/
theorem map_mode_schedule (campaign : Campaign) (runner : Runner) (modes : List Mode)
    (coming : List Child) : (campaign.schedule runner modes coming).map Trial.mode = modes := by
  induction modes generalizing coming with
  | nil => rfl
  | cons mode rest inductionHypothesis =>
    rw [schedule, List.map_cons, mode_trialOf, inductionHypothesis]

/-- A complete trial whose results are those of the launches to come is the scheduled one. -/
theorem trialOf_eq {campaign : Campaign} {runner : Runner} {trial : Trial} {coming : List Child}
    (complete : trial.IsComplete campaign)
    (results : resultsOf runner coming ((trial.launches campaign).map Prod.fst) =
      (trial.launches campaign).map Prod.snd) :
    campaign.trialOf runner trial.mode coming = trial := by
  obtain ⟨mode, build, warmups, measured⟩ := trial
  cases built : build.bind campaign.backend.artifact? with
  | none =>
    have failed : Trial.artifact? ⟨mode, build, warmups, measured⟩ campaign = none := built
    obtain ⟨rfl, rfl⟩ := complete.unbuilt failed
    rw [Trial.launches, failed] at results
    obtain ⟨same, -⟩ := List.cons.inj results
    rw [trialOf, same]
    simp only [built]
  | some artifact =>
    have found : Trial.artifact? ⟨mode, build, warmups, measured⟩ campaign = some artifact := built
    obtain ⟨warmupCount, measuredCount⟩ := complete.built artifact found
    rw [Trial.launches, found, List.map_cons, List.map_cons, List.map_map, List.map_map,
      Function.comp_def, Function.comp_def, List.map_const', List.map_id', List.length_append,
      warmupCount, measuredCount] at results
    obtain ⟨same, runs⟩ := List.cons.inj results
    rw [trialOf, same]
    simp only [built]
    rw [runCount, runs, ← warmupCount, List.take_left, List.drop_left]

/-- Complete trials whose results are those of the launches to come are the scheduled ones. -/
theorem schedule_eq {campaign : Campaign} {runner : Runner} {trials : List Trial}
    (complete : ∀ trial ∈ trials, trial.IsComplete campaign) {coming : List Child}
    (results : resultsOf runner coming ((trials.flatMap (·.launches campaign)).map Prod.fst) =
      (trials.flatMap (·.launches campaign)).map Prod.snd) :
    campaign.schedule runner (trials.map Trial.mode) coming = trials := by
  induction trials generalizing coming with
  | nil => rfl
  | cons trial rest inductionHypothesis =>
    rw [List.flatMap_cons, List.map_append, List.map_append, resultsOf_append,
      List.length_map] at results
    -- The first trial takes as many of the results as it has launches, the others take the rest.
    obtain ⟨here, later⟩ := List.append_inj results (by
      rw [length_resultsOf, List.length_map, List.length_map])
    have first := trialOf_eq (complete trial List.mem_cons_self) here
    have others := inductionHypothesis
      (fun other member => complete other (List.mem_cons_of_mem _ member)) later
    rw [List.map_cons, schedule, first, others]

end Campaign

end ColdStart
