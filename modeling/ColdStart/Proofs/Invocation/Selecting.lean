/-
This file shows that a selection of modes is heeded, whatever else is asked for. A text that
is no selection ends an invocation before anything is shown, built or started. Otherwise
the modes that are listed, shown or built are among those that the selection keeps. Only
an empty text is taken for no selection at all, and then all modes are kept.
-/

import ColdStart.Proofs.Invocation.Course
import ColdStart.Proofs.Selection.Lookup

namespace ColdStart

open Workspace

/-! ### Faults of selections -/

/-- The faults of a text that is no selection: it has no fragments, or one that is no pattern. -/
inductive PatternEngine.IsFaultOf (engine : PatternEngine) (selection : String) :
    SelectionFault → Prop where
  | noPatterns (empty : ∀ fragment, ¬ IsFragmentOf fragment selection) :
      IsFaultOf engine selection .noPatterns
  | badPattern {fragment : String} {cause : PatternFault}
      (isFragment : IsFragmentOf fragment selection)
      (refused : engine.parse fragment = .error cause) :
      IsFaultOf engine selection (.badPattern fragment cause)

variable {engine : PatternEngine}

theorem isFaultOf_of_readSelection {selection : String} {fault : SelectionFault}
    (refused : readSelection engine selection = .error fault) :
    engine.IsFaultOf selection fault := by
  by_cases empty : selectionFragments selection = []
  · rw [readSelection, empty] at refused
    cases refused
    refine .noPatterns fun fragment isFragment => ?_
    rw [← mem_selectionFragments_iff, empty] at isFragment
    cases isFragment
  · rw [readSelection_eq empty, mapM_eq_error_iff] at refused
    obtain ⟨before, fragment, after, whole, -, unread⟩ := refused
    obtain ⟨cause, unparsed, rfl⟩ := (readPattern_eq_error_iff _ _).mp unread
    refine .badPattern ((mem_selectionFragments_iff _ _).mp ?_) unparsed
    rw [whole]
    exact List.mem_append_right _ List.mem_cons_self

/-- A text that is no selection is refused for a fault of its own. -/
theorem exists_isFaultOf (matrix : Matrix) {selection : String}
    (noSelection : ¬ engine.IsSelection selection) :
    ∃ fault, matrix.select selection engine = .error fault ∧
      engine.IsFaultOf selection fault := by
  obtain ⟨fault, refused⟩ := exists_readSelection_error noSelection
  exact ⟨fault, by rw [Matrix.select, refused]; rfl, isFaultOf_of_readSelection refused⟩

/-- Where no number is too large, the fault is reported to the user. -/
theorem isReported_of_isFaultOf {selection : String} {fault : SelectionFault}
    (isFault : engine.IsFaultOf selection fault)
    (small : ∀ fragment, IsFragmentOf fragment selection → ¬ engine.HasTooLargeNumber fragment) :
    (Fault.selection fault).isReported = true := by
  cases isFault with
  | noPatterns empty => rfl
  | @badPattern fragment cause isFragment unparsed =>
    have unread : readPattern engine fragment = .error (.badPattern fragment cause) :=
      (readPattern_eq_error_iff _ _).mpr ⟨cause, unparsed, rfl⟩
    exact ((isMisspelling_of_readPattern unread).mpr (small fragment isFragment)).1

/-! ### Invocations -/

namespace Invocation

variable (invocation : Invocation) (options : Options) (workspace : Workspace)

/-- Whatever is asked of modes, it is done for these and no others. -/
structure KeepsTo (modes : List Mode) : Prop where
  /-- These are listed, in order, and nothing else is done. -/
  listed : options.listConfigs = true → invocation.run.run workspace =
    (.exit successCode, workspace.printing (linesText (modes.map Mode.describe))
      (invocation.warning options))
  /-- The commands of one of these are shown, or none are. Nothing else is done. -/
  shown : options.listConfigs = false → (nonempty? options.commandOnly).isSome →
    (∃ mode ∈ modes, invocation.run.run workspace =
      (.exit successCode, workspace.printing
        ((invocation.campaign options).commandsText mode)
        (invocation.warning options))) ∨
    ∃ ending errors, invocation.run.run workspace = (ending, workspace.printing "" errors)
  /-- All launches are those of trials of the first of these modes, or there are none. -/
  built : ∃ trials : List Trial, trials.map Trial.mode <+: modes ∧
    workspace.session.GoesOn (trials.flatMap (·.launches (invocation.campaign options)))
      (invocation.run.run workspace).2.session

/-- An invocation heeds a selection, as the engine of its host reads it. -/
structure Heeds (selection : String) : Prop where
  /-- A text that is no selection is refused: its fault is reported, and nothing is listed, shown
  or launched. -/
  refused : ¬ invocation.host.engine.IsSelection selection →
    (∀ fragment, IsFragmentOf fragment selection →
      ¬ invocation.host.engine.HasTooLargeNumber fragment) →
    ∃ fault, invocation.host.engine.IsFaultOf selection fault ∧ invocation.run.run workspace =
      (.exit faultCode, workspace.printing ""
        (invocation.warning options ++ ("Error: " ++ fault.message ++ "\n")))
  /-- Whatever it is refused for, nothing is listed, shown or launched, and it is no success. -/
  undone : ¬ invocation.host.engine.IsSelection selection →
    ∃ ending errors, ending ≠ .exit successCode ∧
      invocation.run.run workspace = (ending, workspace.printing "" errors)
  /-- Only the modes that the selection keeps are listed, shown or built. -/
  kept : invocation.host.engine.IsSelection selection → invocation.KeepsTo options workspace
    ((Matrix.create none options.expandToggles).modes.filter fun mode =>
      decide (invocation.host.engine.Keeps selection mode.name))

variable {invocation options workspace}

/-- A fault ends an invocation without success, and at most something is reported. -/
theorem exists_run_of_fault (accepted : readOptions invocation.arguments = .ok options)
    {fault : Fault} {errors : String}
    (ended : (invocation.perform options).run.run workspace =
      (.error fault, workspace.printing "" errors)) :
    ∃ ending more, ending ≠ .exit successCode ∧
      invocation.run.run workspace = (ending, workspace.printing "" more) := by
  rw [run_eq accepted, ended]
  cases reported : fault.isReported with
  | true =>
    refine ⟨.exit faultCode, errors ++ ("Error: " ++ fault.message ++ "\n"), ?_, ?_⟩
    · simp [faultCode, successCode]
    · simp only [reported, if_true, printing_printing, String.append_empty]
  | false =>
    refine ⟨.brokenOff fault, errors, nofun, ?_⟩
    simp only [reported, Bool.false_eq_true, if_false]

/-- What is launched for modes that are asked for are trials of the first of them. -/
theorem exists_trials (accepted : readOptions invocation.arguments = .ok options)
    (noDocument : nonempty? options.resultsFile = none) {matrix : Matrix}
    (asked : options.matrix invocation.host.engine = .ok matrix) :
    ∃ trials : List Trial, trials.map Trial.mode <+: matrix.modes ∧
      workspace.session.GoesOn (trials.flatMap (·.launches (invocation.campaign options)))
        (invocation.run.run workspace).2.session := by
  obtain ⟨places, total, selected⟩ := exists_selected invocation asked
  rw [Campaign.selected_clamped] at selected
  rcases invocation.atMost_run accepted noDocument asked selected workspace with
    prints | ⟨between, prints, ends⟩
  · exact ⟨[], List.nil_prefix, prints.goesOn⟩
  · obtain ⟨-, goesOn, -⟩ :=
      Campaign.processAll_eq _ matrix between (taken_of_selected selected) total _
    refine ⟨_, ?_, (prints.goesOn.trans goesOn).silently ends.goesOn⟩
    rw [Campaign.scheduled, Campaign.map_mode_schedule, Campaign.taken_eq_take]
    exact List.take_prefix _ _

/-- What is done for modes that are asked for keeps to them. -/
theorem keepsTo_of_matrix (accepted : readOptions invocation.arguments = .ok options)
    (noDocument : nonempty? options.resultsFile = none) {matrix : Matrix}
    (asked : options.matrix invocation.host.engine = .ok matrix) :
    invocation.KeepsTo options workspace matrix.modes where
  listed := run_of_listConfigs accepted noDocument asked
  shown lists shows := by
    obtain ⟨pattern, pattern?⟩ := Option.isSome_iff_exists.mp shows
    cases found : matrix.find pattern invocation.host.engine with
    | ok mode =>
      exact .inl ⟨mode, matrix.mem_of_find found,
        run_of_commandOnly accepted noDocument asked lists pattern? found⟩
    | error fault =>
      have performs := invocation.run_perform_eq noDocument workspace
      simp only [asked, serve, lists, pattern?, Bool.false_eq_true, if_false] at performs
      rw [Campaign.run_showCommands, found] at performs
      obtain ⟨ending, errors, -, ended⟩ := exists_run_of_fault accepted performs
      exact .inr ⟨ending, errors, ended⟩
  built := exists_trials accepted noDocument asked

/-- An invocation without a document heeds the selection that it is given, whatever else is asked
for, unless that is empty. -/
theorem heeds_selection (invocation : Invocation) (workspace : Workspace) {options : Options}
    {selection : String} (accepted : readOptions invocation.arguments = .ok options)
    (noDocument : nonempty? options.resultsFile = none)
    (given : options.configs = some selection) (someText : selection ≠ "") :
    invocation.Heeds options workspace selection := by
  have asked : options.matrix invocation.host.engine =
      (Matrix.create none options.expandToggles).select selection invocation.host.engine := by
    -- This is where an empty text would ask for all modes.
    have nonempty : nonempty? (some selection) = some selection := by simp [nonempty?, someText]
    rw [Options.matrix, given, nonempty]
  have performs := invocation.run_perform_eq noDocument workspace
  refine ⟨fun noSelection small => ?_, fun noSelection => ?_, fun isSelection => ?_⟩
  · obtain ⟨fault, refused, isFault⟩ := exists_isFaultOf
      (Matrix.create none options.expandToggles) noSelection
    rw [asked, refused] at performs
    refine ⟨fault, isFault, ?_⟩
    rw [run_eq accepted, performs]
    simp only [isReported_of_isFaultOf isFault small, if_true, printing_printing,
      String.append_empty]
    rfl
  · obtain ⟨fault, refused, -⟩ := exists_isFaultOf
      (Matrix.create none options.expandToggles) noSelection
    rw [asked, refused] at performs
    exact exists_run_of_fault accepted performs
  · rw [Matrix.select_eq_ok _ isSelection] at asked
    exact keepsTo_of_matrix accepted noDocument asked

end Invocation

/-- The modes that a selection keeps are to be listed. -/
def listingInvocation (selection : String) : Invocation where
  arguments := ["--configs", selection, "--list-configs"]
  workDirectory := "/src"
  moment := ⟨2024, 1, 2, 3, 4, 5⟩

/-- What is asked for with a selection whose modes are to be listed. -/
def listingOptions (selection : String) : Options where
  configs := some selection
  listConfigs := true

/-- One text is a selection and one is not, for its second fragment. -/
theorem heeds_selection_listingInvocation :
    (readOptions (listingInvocation "r2r , ^jit").arguments = .ok (listingOptions "r2r , ^jit") ∧
      nonempty? (listingOptions "r2r , ^jit").resultsFile = none ∧
      (listingOptions "r2r , ^jit").configs = some "r2r , ^jit" ∧ "r2r , ^jit" ≠ "" ∧
      PatternEngine.plain.IsSelection "r2r , ^jit" ∧
      (listingInvocation "r2r , ^jit").Heeds (listingOptions "r2r , ^jit") {} "r2r , ^jit") ∧
    readOptions (listingInvocation "avx2,(").arguments = .ok (listingOptions "avx2,(") ∧
      nonempty? (listingOptions "avx2,(").resultsFile = none ∧
      (listingOptions "avx2,(").configs = some "avx2,(" ∧ "avx2,(" ≠ "" ∧
      ¬ PatternEngine.plain.IsSelection "avx2,(" ∧
      (∀ fragment, IsFragmentOf fragment "avx2,(" →
        ¬ PatternEngine.plain.HasTooLargeNumber fragment) ∧
      (listingInvocation "avx2,(").Heeds (listingOptions "avx2,(") {} "avx2,(" := by
  have accepted : readOptions (listingInvocation "r2r , ^jit").arguments =
      .ok (listingOptions "r2r , ^jit") := by rfl
  have acceptedBad : readOptions (listingInvocation "avx2,(").arguments =
      .ok (listingOptions "avx2,(") := by rfl
  have small : ∀ fragment, IsFragmentOf fragment "avx2,(" →
      ¬ PatternEngine.plain.HasTooLargeNumber fragment := by
    simp only [← mem_selectionFragments_iff]
    decide +kernel
  exact ⟨⟨accepted, rfl, rfl, by decide, by decide +kernel,
      Invocation.heeds_selection _ {} accepted rfl rfl (by decide)⟩,
    acceptedBad, rfl, rfl, by decide, by decide +kernel, small,
    Invocation.heeds_selection _ {} acceptedBad rfl rfl (by decide)⟩

/-- An empty text is no selection, but it is not refused: all six templates are listed. -/
theorem lists_of_emptySelection :
    ∃ options, readOptions (listingInvocation "").arguments = .ok options ∧
      nonempty? options.resultsFile = none ∧ options.configs = some "" ∧
      ¬ PatternEngine.plain.IsSelection "" ∧
      (listingInvocation "").run.run {} =
        (.exit successCode,
          ({} : Workspace).printing (linesText (Mode.templates.map Mode.describe)) "") := by
  have accepted : readOptions (listingInvocation "").arguments = .ok (listingOptions "") := by rfl
  have asked : (listingOptions "").matrix .plain = .ok ⟨Mode.templates⟩ := by rfl
  exact ⟨_, accepted, rfl, rfl, by decide +kernel,
    Invocation.run_of_listConfigs accepted rfl asked rfl⟩

end ColdStart
