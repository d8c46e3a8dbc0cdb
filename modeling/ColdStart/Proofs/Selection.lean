/-
This file says which modes selections leave. A selection is a disjunction of patterns:
it keeps the modes in whose name one of its fragments occurs. Selections that are asked
for one after the other are a conjunction: what is left has passed every one of them,
except those that were refused, which leave everything as it is. So neither the order of
selections matters nor how often one of them is asked for.
-/

import ColdStart.Matrix
import ColdStart.Proofs.Text.Cutting
import ColdStart.Proofs.Text.Trimming
import ColdStart.Proofs.Traversal

namespace ColdStart

/-! ### Fragments -/

/-- A text is a fragment of a selection: with nothing but blanks around it, it stands between two
commas, and it neither is empty nor begins or ends with a blank. -/
def IsFragmentOf (fragment selection : String) : Prop :=
  fragment ≠ "" ∧ (∀ first ∈ fragment.toList.head?, isBlank first = false) ∧
    (∀ final ∈ fragment.toList.getLast?, isBlank final = false) ∧
    ∃ before after, before ++ fragment.toList ++ after ∈ selection.toList.splitOn ',' ∧
      (∀ character ∈ before, isBlank character = true) ∧
      ∀ character ∈ after, isBlank character = true

/-- The fragments of a selection are the patterns that are read of it. -/
theorem mem_selectionFragments_iff (fragment selection : String) :
    fragment ∈ selectionFragments selection ↔ IsFragmentOf fragment selection := by
  rw [selectionFragments, fieldsAt_eq_splitOn, List.mem_map]
  constructor
  · rintro ⟨_, member, rfl⟩
    obtain ⟨isTrimmed, someFragment⟩ := List.mem_filter.mp member
    obtain ⟨piece, isPiece, rfl⟩ := List.mem_map.mp isTrimmed
    obtain ⟨before, after, whole, blankBefore, blankAfter, head, last⟩ :=
      exists_eq_append_trimWhere isBlank piece
    rw [IsFragmentOf, String.toList_ofList]
    refine ⟨?_, head, last, before, after, ?_, blankBefore, blankAfter⟩
    · simpa [trim] using someFragment
    · rw [trim, ← whole]
      exact isPiece
  · rintro ⟨someFragment, head, last, before, after, isPiece, blankBefore, blankAfter⟩
    have trimmed : trim (before ++ fragment.toList ++ after) = fragment.toList :=
      trimWhere_append blankBefore blankAfter head last
    refine ⟨fragment.toList, List.mem_filter.mpr ⟨?_, ?_⟩, String.ofList_toList⟩
    · exact List.mem_map.mpr ⟨_, isPiece, trimmed⟩
    · simpa using someFragment

/-- A text can stand in a selection as one fragment: it is not empty, has no comma, and neither
begins nor ends with a blank. -/
structure IsWholeFragment (fragment : String) : Prop where
  nonempty : fragment ≠ ""
  noComma : ',' ∉ fragment.toList
  head : ∀ first ∈ fragment.toList.head?, isBlank first = false
  last : ∀ final ∈ fragment.toList.getLast?, isBlank final = false

instance (fragment : String) : Decidable (IsWholeFragment fragment) :=
  decidable_of_iff (fragment ≠ "" ∧ ',' ∉ fragment.toList ∧
      fragment.toList.head?.all (!isBlank ·) = true ∧
      fragment.toList.getLast?.all (!isBlank ·) = true) <| by
    simp only [Option.all_eq_true, Bool.not_eq_true']
    exact ⟨fun ⟨nonempty, noComma, head, last⟩ => ⟨nonempty, noComma, head, last⟩,
      fun ⟨nonempty, noComma, head, last⟩ => ⟨nonempty, noComma, head, last⟩⟩

/-- The fragments of a selection that was joined from whole fragments are these. -/
theorem selectionFragments_intercalate {fragments : List String} (someFragment : fragments ≠ [])
    (whole : ∀ fragment ∈ fragments, IsWholeFragment fragment) :
    selectionFragments (",".intercalate fragments) = fragments := by
  have comma : ",".toList = [','] := rfl
  have single : ∀ piece ∈ fragments.map String.toList, ',' ∉ piece :=
    List.forall_mem_map.mpr fun fragment member => (whole fragment member).noComma
  have trimmed : (fragments.map String.toList).map trim = fragments.map String.toList := by
    rw [List.map_map]
    exact List.map_congr_left fun fragment member =>
      trimWhere_eq_self (whole fragment member).head (whole fragment member).last
  have noneEmpty : ∀ piece ∈ fragments.map String.toList, (!piece.isEmpty) = true :=
    List.forall_mem_map.mpr fun fragment member => by simpa using (whole fragment member).nonempty
  rw [selectionFragments, fieldsAt_eq_splitOn, String.toList_intercalate, comma,
    List.splitOn_intercalate ',' single (by simpa using someFragment), trimmed,
    List.filter_eq_self.mpr noneEmpty, List.map_map]
  simp only [Function.comp_def, String.ofList_toList, List.map_id']

/-! ### One selection -/

namespace PatternEngine

variable (engine : PatternEngine)

/-- A text is a pattern. -/
def IsPattern (text : String) : Prop := ∃ pattern, engine.parse text = .ok pattern

/-- A text is a pattern that occurs in a name. -/
def OccursIn (text name : String) : Prop :=
  ∃ pattern, engine.parse text = .ok pattern ∧ engine.occursIn pattern name = true

/-- A selection has fragments, and all of them are patterns. -/
def IsSelection (selection : String) : Prop :=
  (∃ fragment, IsFragmentOf fragment selection) ∧
    ∀ fragment, IsFragmentOf fragment selection → engine.IsPattern fragment

/-- A fragment of a selection occurs in a name. -/
def Keeps (selection name : String) : Prop :=
  ∃ fragment, IsFragmentOf fragment selection ∧ engine.OccursIn fragment name

instance (text : String) : Decidable (engine.IsPattern text) :=
  match parsed : engine.parse text with
  | .ok pattern => .isTrue ⟨pattern, parsed⟩
  | .error _ => .isFalse fun ⟨_, given⟩ => by rw [parsed] at given; cases given

instance (text name : String) : Decidable (engine.OccursIn text name) :=
  match parsed : engine.parse text with
  | .ok pattern => decidable_of_iff (engine.occursIn pattern name = true) <| by
      simp [OccursIn, parsed]
  | .error _ => .isFalse fun ⟨_, given, _⟩ => by rw [parsed] at given; cases given

theorem isSelection_iff (selection : String) :
    engine.IsSelection selection ↔ selectionFragments selection ≠ [] ∧
      ∀ fragment ∈ selectionFragments selection, engine.IsPattern fragment := by
  simp only [IsSelection, ← mem_selectionFragments_iff, ne_eq, List.eq_nil_iff_forall_not_mem,
    not_forall, not_not]

theorem keeps_iff (selection name : String) :
    engine.Keeps selection name ↔
      ∃ fragment ∈ selectionFragments selection, engine.OccursIn fragment name := by
  simp only [Keeps, ← mem_selectionFragments_iff]

instance (selection : String) : Decidable (engine.IsSelection selection) :=
  decidable_of_iff _ (engine.isSelection_iff selection).symm

instance (selection name : String) : Decidable (engine.Keeps selection name) :=
  decidable_of_iff _ (engine.keeps_iff selection name).symm

end PatternEngine

variable {engine : PatternEngine}

theorem readPattern_eq_ok_iff (text : String) (pattern : engine.Compiled) :
    readPattern engine text = .ok pattern ↔ engine.parse text = .ok pattern := by
  rw [readPattern]
  cases engine.parse text with
  | error fault => simp
  | ok parsed => simp

theorem readSelection_eq {selection : String} (someFragment : selectionFragments selection ≠ []) :
    readSelection engine selection = (selectionFragments selection).mapM (readPattern engine) := by
  rw [readSelection]
  cases fragments : selectionFragments selection with
  | nil => exact absurd fragments someFragment
  | cons fragment others => rfl

/-- A selection is read as patterns that select the names it keeps. -/
theorem exists_readSelection {selection : String} (isSelection : engine.IsSelection selection) :
    ∃ patterns, readSelection engine selection = .ok patterns ∧
      ∀ name, selects engine patterns name = decide (engine.Keeps selection name) := by
  obtain ⟨someFragment, allPatterns⟩ := (engine.isSelection_iff selection).mp isSelection
  obtain ⟨patterns, parsed⟩ := (exists_forall₂_iff
    (fun fragment pattern => engine.parse fragment = .ok pattern) _).mpr allPatterns
  refine ⟨patterns, ?_, fun name => ?_⟩
  · rw [readSelection_eq someFragment, mapM_eq_ok_iff]
    exact parsed.imp fun fragment pattern => (readPattern_eq_ok_iff fragment pattern).mpr
  · rw [Bool.eq_iff_iff, decide_eq_true_iff, engine.keeps_iff, selects, List.any_eq_true]
    constructor
    · rintro ⟨pattern, isPattern, occurs⟩
      obtain ⟨fragment, isFragment, parses⟩ := exists_of_forall₂_of_mem parsed isPattern
      exact ⟨fragment, isFragment, pattern, parses, occurs⟩
    · rintro ⟨fragment, isFragment, pattern, parses, occurs⟩
      obtain ⟨other, isOther, parsesOther⟩ := exists_of_forall₂_of_mem parsed.flip isFragment
      obtain rfl : other = pattern := Except.ok.inj (parsesOther.symm.trans parses)
      exact ⟨other, isOther, occurs⟩

/-- What is no selection is refused, wherever in it the fault is. -/
theorem exists_readSelection_error {selection : String}
    (noSelection : ¬ engine.IsSelection selection) :
    ∃ fault, readSelection engine selection = .error fault := by
  cases given : readSelection engine selection with
  | error fault => exact ⟨fault, rfl⟩
  | ok patterns =>
    refine absurd ((engine.isSelection_iff selection).mpr ?_) noSelection
    have someFragment : selectionFragments selection ≠ [] := by
      intro none
      rw [readSelection, none] at given
      cases given
    rw [readSelection_eq someFragment, mapM_eq_ok_iff] at given
    refine ⟨someFragment, fun fragment isFragment => ?_⟩
    obtain ⟨pattern, -, read⟩ := exists_of_forall₂_of_mem given.flip isFragment
    exact ⟨pattern, (readPattern_eq_ok_iff fragment pattern).mp read⟩

namespace Matrix

theorem select_eq_ok (matrix : Matrix) {selection : String}
    (isSelection : engine.IsSelection selection) :
    matrix.select selection engine =
      .ok ⟨matrix.modes.filter fun mode => decide (engine.Keeps selection mode.name)⟩ := by
  obtain ⟨patterns, read, selects⟩ := exists_readSelection isSelection
  rw [select, read]
  simp only [Except.map, selects]

theorem exists_select_error (matrix : Matrix) {selection : String}
    (noSelection : ¬ engine.IsSelection selection) :
    ∃ fault, matrix.select selection engine = .error fault := by
  obtain ⟨fault, refused⟩ := exists_readSelection_error noSelection
  exact ⟨fault, by rw [select, refused]; rfl⟩

theorem exists_select_error_iff (matrix : Matrix) (selection : String) :
    (∃ fault, matrix.select selection engine = .error fault) ↔ ¬ engine.IsSelection selection := by
  refine ⟨?_, matrix.exists_select_error⟩
  rintro ⟨fault, refused⟩ isSelection
  rw [matrix.select_eq_ok isSelection] at refused
  cases refused

/-! ### Selections one after the other -/

/-- The matrix after a selection was asked for: what it leaves, or all that there was if it is
refused. -/
def narrowed (engine : PatternEngine) (matrix : Matrix) (selection : String) : Matrix :=
  match matrix.select selection engine with
  | .ok narrowed => narrowed
  | .error _ => matrix

/-- The matrix after selections were asked for one after the other. -/
def narrowedBy (engine : PatternEngine) (matrix : Matrix) (selections : List String) : Matrix :=
  selections.foldl (narrowed engine) matrix

theorem narrowed_of_not_isSelection (matrix : Matrix) {selection : String}
    (noSelection : ¬ engine.IsSelection selection) : matrix.narrowed engine selection = matrix := by
  obtain ⟨fault, refused⟩ := matrix.exists_select_error noSelection
  rw [narrowed, refused]

theorem narrowed_of_isSelection (matrix : Matrix) {selection : String}
    (isSelection : engine.IsSelection selection) : matrix.narrowed engine selection =
      ⟨matrix.modes.filter fun mode => decide (engine.Keeps selection mode.name)⟩ := by
  rw [narrowed, matrix.select_eq_ok isSelection]

/-- One selection keeps what passes it, if it is one. -/
theorem modes_narrowed (matrix : Matrix) (selection : String) :
    (matrix.narrowed engine selection).modes = matrix.modes.filter fun mode =>
      decide (engine.IsSelection selection → engine.Keeps selection mode.name) := by
  by_cases isSelection : engine.IsSelection selection
  · simp only [matrix.narrowed_of_isSelection isSelection, isSelection, true_imp_iff]
  · simp [matrix.narrowed_of_not_isSelection isSelection, isSelection]

/-- The selections that are asked for keep what passes all of them. -/
theorem modes_narrowedBy (matrix : Matrix) (selections : List String) :
    (matrix.narrowedBy engine selections).modes = matrix.modes.filter fun mode =>
      decide (∀ selection ∈ selections,
        engine.IsSelection selection → engine.Keeps selection mode.name) := by
  induction selections generalizing matrix with
  | nil => simp [narrowedBy]
  | cons first rest inductionHypothesis =>
    have step : matrix.narrowedBy engine (first :: rest) =
        (matrix.narrowed engine first).narrowedBy engine rest := rfl
    rw [step, inductionHypothesis, modes_narrowed, List.filter_filter]
    refine List.filter_congr fun mode _ => ?_
    rw [← Bool.decide_and, decide_eq_decide, List.forall_mem_cons]
    exact and_comm

theorem narrowedBy_concat (matrix : Matrix) (selections : List String) (selection : String) :
    matrix.narrowedBy engine (selections ++ [selection]) =
      (matrix.narrowedBy engine selections).narrowed engine selection := by
  rw [narrowedBy, List.foldl_append]
  rfl

/-- It only matters which selections are asked for, not in which order or how often. -/
theorem narrowedBy_of_mem_iff (matrix : Matrix) {selections others : List String}
    (same : ∀ selection, selection ∈ others ↔ selection ∈ selections) :
    matrix.narrowedBy engine others = matrix.narrowedBy engine selections := by
  have modes : (matrix.narrowedBy engine others).modes =
      (matrix.narrowedBy engine selections).modes := by
    rw [modes_narrowedBy, modes_narrowedBy]
    simp only [same]
  exact congrArg Matrix.mk modes

/-- A selection that keeps the name of every mode keeps every mode. -/
theorem narrowed_of_keeps_all (matrix : Matrix) {selection : String}
    (keeps : ∀ mode ∈ matrix.modes, engine.Keeps selection mode.name) :
    matrix.narrowed engine selection = matrix := by
  have modes : (matrix.narrowed engine selection).modes = matrix.modes := by
    rw [modes_narrowed, List.filter_eq_self]
    exact fun mode member => decide_eq_true fun _ => keeps mode member
  exact congrArg Matrix.mk modes

end Matrix

/-- Selecting is a conjunction of disjunctions, whatever engine reads the patterns. Whatever
selections are asked for, the modes that are left are those of whose name every selection that is
not refused has a fragment in it; they stand in their order and as often as before. A selection is
refused exactly when it has no fragments or a fragment that is no pattern, and leaves all as it is.
So the same selections leave the same, in any order and any number of times, and one that keeps
every name that is left changes nothing. -/
theorem Matrix.narrowedBy_isConjunction (engine : PatternEngine) (matrix : Matrix)
    (selections : List String) :
    let left := matrix.narrowedBy engine selections
    left.modes = matrix.modes.filter (fun mode =>
      decide (∀ selection ∈ selections,
        engine.IsSelection selection → engine.Keeps selection mode.name)) ∧
    (∀ selection,
      ((∃ fault, left.select selection engine = .error fault) ↔ ¬ engine.IsSelection selection) ∧
      (¬ engine.IsSelection selection →
        matrix.narrowedBy engine (selections ++ [selection]) = left)) ∧
    (∀ others, (∀ selection, selection ∈ others ↔ selection ∈ selections) →
      matrix.narrowedBy engine others = left) ∧
    ∀ selection, (∀ mode ∈ left.modes, engine.Keeps selection mode.name) →
      matrix.narrowedBy engine (selections ++ [selection]) = left := by
  refine ⟨matrix.modes_narrowedBy selections, fun selection => ⟨?_, fun refused => ?_⟩,
    fun others same => matrix.narrowedBy_of_mem_iff same, fun selection keeps => ?_⟩
  · exact exists_select_error_iff _ selection
  · rw [narrowedBy_concat, narrowed_of_not_isSelection _ refused]
  · rw [narrowedBy_concat, narrowed_of_keeps_all _ keeps]

example : (Matrix.narrowedBy .plain ⟨Mode.templates⟩
      ["r2r, composite", "avx2,(", " , ", "^r|jit"]).names =
    ["r2r", "r2r-platform-composite-avx2", "jit-platform-composite-avx2"] := by
  decide +kernel

end ColdStart
