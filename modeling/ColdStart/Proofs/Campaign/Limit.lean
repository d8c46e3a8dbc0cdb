/-
This file says which modes the limit of a campaign leaves to it. Zero stands for no limit,
and a limit past the number of modes takes all of them as well. So cutting the limit down
to that number changes nothing: if it becomes zero, that is because there are no modes,
and then it does not matter that zero stands for all of them.
-/

import ColdStart.Invocation
import ColdStart.Proofs.Campaign.Accounting
import ColdStart.Proofs.Selection

namespace ColdStart

namespace Campaign

/-- How many of so many modes are taken under a limit. -/
def takenCount (limit : Int) (count : Nat) : Nat :=
  if limit = 0 then count else min limit.toNat count

theorem taken_eq_take (campaign : Campaign) (matrix : Matrix) :
    campaign.taken matrix =
      matrix.modes.take (takenCount campaign.settings.firstModes matrix.count) := by
  rw [taken, takenCount, Matrix.count]
  split
  · rw [List.take_length]
  · rw [List.take_eq_take_min]

theorem length_taken (campaign : Campaign) (matrix : Matrix) :
    (campaign.taken matrix).length =
      takenCount campaign.settings.firstModes matrix.count := by
  rw [taken, takenCount, Matrix.count]
  split
  · rfl
  · rw [List.length_take]

/-! ### Cutting the limit -/

section

variable (campaign : Campaign) (matrix : Matrix)

/-- The same modes are selected when the limit is cut, whatever the limit is. -/
theorem selected_clamped :
    (campaign.clamped matrix).selected matrix = campaign.selected matrix := by
  have cut : (campaign.clamped matrix).settings.firstModes =
      min campaign.settings.firstModes matrix.count := rfl
  by_cases fewer : campaign.settings.firstModes < matrix.count
  · rw [selected, selected, cut, Int.min_eq_left (Int.le_of_lt fewer)]
  · -- A limit that is cut is the number of modes, so neither it nor the cut one leaves any out.
    rw [selected, selected, cut, Int.min_eq_right (Int.not_lt.mp fewer),
      if_neg fun both => Int.lt_irrefl _ both.2, if_neg fun both => fewer both.2]

theorem runTimes_clamped (mode : Mode) (artifact : String) (count : Nat) :
    (campaign.clamped matrix).runTimes mode artifact count =
      campaign.runTimes mode artifact count := by
  induction count with
  | zero => rfl
  | succ count inductionHypothesis =>
    have once : (campaign.clamped matrix).runOnce mode artifact =
        campaign.runOnce mode artifact := rfl
    rw [runTimes, runTimes, inductionHypothesis, once]

theorem process_clamped (mode : Mode) (index total : Nat) :
    (campaign.clamped matrix).process mode index total = campaign.process mode index total := by
  funext documents
  have build : (campaign.clamped matrix).build mode index total =
      campaign.build mode index total := rfl
  rw [process, process, build]
  simp only [runTimes_clamped]
  rfl

theorem processAll_clamped (places : List (Mode × Nat)) (total : Nat) (documents : Documents) :
    (campaign.clamped matrix).processAll places total documents =
      campaign.processAll places total documents := by
  induction places generalizing documents with
  | nil => rfl
  | cons place rest inductionHypothesis =>
    rw [processAll, processAll, process_clamped]
    simp only [inductionHypothesis]

theorem runLogged_clamped :
    (campaign.clamped matrix).runLogged matrix = campaign.runLogged matrix := by
  have blank : (campaign.clamped matrix).blankDocuments = campaign.blankDocuments := rfl
  rw [runLogged, runLogged, selected_clamped, blank]
  simp only [processAll_clamped]
  rfl

/-- A campaign runs and leaves the same when its limit is cut. -/
theorem runBenchmarks_clamped :
    (campaign.clamped matrix).runBenchmarks matrix = campaign.runBenchmarks matrix := by
  rw [runBenchmarks, runBenchmarks, runLogged_clamped]
  rfl

end

/-! ### Taking the first modes -/

/-- A campaign takes so many modes of a matrix, the first ones. -/
structure TakesFirst (campaign : Campaign) (matrix : Matrix) (number : Nat) : Prop where
  /-- The modes are selected in order with their places, which are counted from zero, and the
  total is their number. -/
  selected : ∃ places, campaign.selected matrix = .ok (places, number) ∧
    places.map Prod.fst = matrix.modes.take number ∧ places.map Prod.snd = List.range number
  /-- With its limit cut it selects the same modes, with the same total. -/
  clamped : (campaign.clamped matrix).selected matrix = campaign.selected matrix
  /-- With its limit cut it runs and leaves the same. -/
  runs : (campaign.clamped matrix).runBenchmarks matrix = campaign.runBenchmarks matrix

/-- The limit of a campaign, if it is not negative, is the number of modes that it takes, unless
it is zero or there are fewer modes. Then all modes are taken. Cutting the limit to the number of
modes changes nothing. No list has more members than can be counted. -/
theorem takesFirst_limit (campaign : Campaign) (matrix : Matrix)
    (firstModes : 0 ≤ campaign.settings.firstModes) (countable : matrix.count < Matrix.countLimit) :
    campaign.TakesFirst matrix (takenCount campaign.settings.firstModes matrix.count) := by
  have number := length_taken campaign matrix
  refine ⟨⟨(campaign.taken matrix).zipIdx, ?_, ?_, ?_⟩, selected_clamped campaign matrix,
    runBenchmarks_clamped campaign matrix⟩
  · rw [selected_eq campaign matrix firstModes countable, number]
  · rw [List.zipIdx_map_fst, taken_eq_take]
  · rw [List.zipIdx_map_snd, number, List.range_eq_range']

/-- A campaign that takes so many modes, or all if the number is zero. -/
def limitedCampaign (firstModes : Int) : Campaign :=
  { settings := { firstModes, timestamp := "t" }, backend := .docker }

/-- Of four modes two are taken, and of none none, though the limit is three. -/
theorem takesFirst_limit_limitedCampaign :
    let fourModes := Matrix.narrowedBy .plain ⟨Mode.templates⟩ ["avx2"]
    let noModes := Matrix.narrowedBy .plain ⟨Mode.templates⟩ ["avx2", "nothing-like-this"]
    (0 ≤ (limitedCampaign 2).settings.firstModes ∧ fourModes.count < Matrix.countLimit ∧
      fourModes.count = 4 ∧ (limitedCampaign 2).TakesFirst fourModes 2) ∧
    0 ≤ (limitedCampaign 3).settings.firstModes ∧ noModes.count < Matrix.countLimit ∧
      noModes.count = 0 ∧ (limitedCampaign 3).TakesFirst noModes 0 := by
  intro fourModes noModes
  have four : fourModes.count = 4 := by decide +kernel
  have zero : noModes.count = 0 := by decide +kernel
  have fourCountable : fourModes.count < Matrix.countLimit := by
    rw [four]
    decide
  have noneCountable : noModes.count < Matrix.countLimit := by
    rw [zero]
    decide
  have two : takenCount (limitedCampaign 2).settings.firstModes fourModes.count = 2 := by
    rw [four]
    rfl
  have nothing : takenCount (limitedCampaign 3).settings.firstModes noModes.count = 0 := by
    rw [zero]
    rfl
  have twoTaken := takesFirst_limit (limitedCampaign 2) fourModes (by decide) fourCountable
  have noneTaken := takesFirst_limit (limitedCampaign 3) noModes (by decide) noneCountable
  rw [two] at twoTaken
  rw [nothing] at noneTaken
  exact ⟨⟨by decide, fourCountable, four, twoTaken⟩, by decide, noneCountable, zero, noneTaken⟩

end Campaign

end ColdStart
