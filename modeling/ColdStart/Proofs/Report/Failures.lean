/-
This file shows that failures are compared as sets. The first mode stands for itself; of
every later one the comparison lists what it has more than the first and what it has less,
and from these two lists and the first mode all its failures are had back. No other mode
plays a part. The report prints the lengths of the very lists that it itemises.
-/

import ColdStart.Proofs.FailureSet
import ColdStart.Proofs.Report.Summary
import ColdStart.Report.Failures

namespace ColdStart

/-! ### Two sets of failures -/

/-- The comparison of failures with those of a baseline is exact. It lists those that are not in
the baseline and those of the baseline that are gone; so the failures are the baseline without the
ones and with the others, also in number. -/
structure FailureComparison.IsExact (comparison : FailureComparison)
    (baseline failures : FailureSet) : Prop where
  introduced : comparison.introduced.toFinset = failures.toFinset \ baseline.toFinset
  fixed : comparison.fixed.toFinset = baseline.toFinset \ failures.toFinset
  restored : failures.toFinset =
    baseline.toFinset \ comparison.fixed.toFinset ∪ comparison.introduced.toFinset
  balanced : (failures.size : Int) - comparison.introduced.size =
    baseline.size - comparison.fixed.size

theorem FailureComparison.isExact_against (baseline : FailureSet) (record : Record) :
    (against baseline record).IsExact baseline record.failures where
  introduced := record.failures.toFinset_without baseline
  fixed := baseline.toFinset_without record.failures
  restored := by
    rw [against, FailureSet.toFinset_without, FailureSet.toFinset_without, sdiff_sdiff_right_self,
      Finset.inf_eq_inter, Finset.inter_comm, Finset.union_comm, Finset.sdiff_union_inter]
  balanced := by
    have here := record.failures.size_without_add_card baseline
    have there := baseline.size_without_add_card record.failures
    rw [Finset.inter_comm] at there
    simp only [against]
    omega

/-! ### All records -/

/-- What a comparison depends on: the first record, its own record and whether these are one. -/
theorem getElem?_compareFailures (records : List Record) (index : Nat) :
    (compareFailures records)[index]? = records.head?.bind fun first =>
      records[index]?.map (.against (if index = 0 then .empty else first.failures)) := by
  cases records with
  | nil => rfl
  | cons first others =>
    cases index with
    | zero => rfl
    | succ index => simp [compareFailures]

/-! ### The report -/

/-- What a row of the report tells of a mode. -/
structure FailureCounts where
  failures : Int
  introduced : Int
  fixed : Int
  title : String
  deriving DecidableEq, Repr

/-- What a row tells: it is cut at its first three separators, and what follows is the title. -/
def FailureCounts.read? (row : String) : Option FailureCounts :=
  match splitUpTo columnSeparator.toList 3 row.toList with
  | [failures, introduced, fixed, title] => do
    return {
      failures := ← integerOfColumn? failures
      introduced := ← integerOfColumn? introduced
      fixed := ← integerOfColumn? fixed
      title := String.ofList title }
  | _ => none

/-- The columns of the counts of a comparison. -/
def FailureComparison.columns (comparison : FailureComparison) : List String :=
  [padLeft 8 (integerText comparison.failures.size),
    padLeft 9 (integerText comparison.introduced.size),
    padLeft 9 (integerText comparison.fixed.size)]

/-- The counts of a comparison read back from its row, whatever the name of the mode. -/
theorem FailureCounts.read?_row (comparison : FailureComparison) :
    read? comparison.row = some {
      failures := comparison.failures.size
      introduced := comparison.introduced.size
      fixed := comparison.fixed.size
      title := comparison.mode.describe } := by
  have clean : ∀ column ∈ comparison.columns, '|' ∉ column.toList := by
    intro column member
    simp only [FailureComparison.columns, List.mem_cons, List.not_mem_nil, or_false] at member
    rcases member with rfl | rfl | rfl <;>
      exact notMem_padLeft_integerText (by decide) (by decide) _ _
  have cut : splitUpTo columnSeparator.toList 3 comparison.row.toList =
      (comparison.columns ++ [comparison.mode.describe]).map String.toList :=
    splitUpTo_columns clean comparison.mode.describe
  rw [read?, cut]
  simp [FailureComparison.columns, integerOfColumn?_padLeft, String.ofList_toList]

/-- What the details of the report itemise for a mode. For the first one nothing can be gone. -/
structure ItemisedFailures where
  title : String
  introduced : List String
  fixed? : Option (List String)
  deriving DecidableEq, Repr

/-- The lines of the details of a mode. -/
def ItemisedFailures.lines (items : ItemisedFailures) : List String :=
  underlined items.title ++
    (match items.fixed? with
    | none => underlined "BASELINE FAILURES" ++ items.introduced
    | some fixed => underlined "FAILURES ON TOP OF BASELINE" ++ items.introduced ++
        underlined "MISSING BASELINE FAILURES" ++ fixed) ++ [""]

namespace FailureComparison

/-- What is itemised of a comparison, with what is gone unless it is that of the first mode. -/
def items (comparison : FailureComparison) (isFirst : Bool) : ItemisedFailures where
  title := comparison.mode.describe
  introduced := comparison.introduced.members
  fixed? := if isFirst then none else some comparison.fixed.members

theorem lines_items_first (comparison : FailureComparison) :
    (comparison.items true).lines = comparison.baselineLines := by
  simp [items, ItemisedFailures.lines, baselineLines]

theorem lines_items_later (comparison : FailureComparison) :
    (comparison.items false).lines = comparison.differenceLines := by
  simp [items, ItemisedFailures.lines, differenceLines]

/-- A row and the details of a mode tell a comparison: the lists that are itemised are those of the
comparison, and the row has their lengths. -/
structure IsTold (comparison : FailureComparison) (row : String) (items : ItemisedFailures) :
    Prop where
  counts : FailureCounts.read? row = some {
    failures := comparison.failures.size
    introduced := items.introduced.length
    fixed := (items.fixed?.getD []).length
    title := items.title }
  title : items.title = comparison.mode.describe
  introduced : items.introduced = comparison.introduced.members
  fixed : items.fixed?.getD [] = comparison.fixed.members

end FailureComparison

/-- The report of failures with these rows and details. -/
def failuresText (told : List (String × ItemisedFailures)) : String :=
  joinLines (underlined "Summary" ++ underlined failuresHeader ++ told.map (·.1)) ++ "\n\n" ++
    joinLines (underlined "Details" ++ told.flatMap (·.2.lines)) ++ "\n"

/-- The report tells every comparison. -/
theorem exists_renderFailures_eq (records : List Record) :
    ∃ told, renderFailures records = failuresText told ∧
      List.Forall₂ (fun comparison told => comparison.IsTold told.1 told.2)
        (compareFailures records) told := by
  cases records with
  | nil => exact ⟨[], rfl, .nil⟩
  | cons first others =>
    let later := others.map (FailureComparison.against first.failures)
    let baseline := FailureComparison.against .empty first
    refine ⟨(baseline.row, baseline.items true) ::
      later.map fun comparison => (comparison.row, comparison.items false), ?_, .cons ?_ ?_⟩
    · have details : failureDetails (baseline :: later) = (baseline.items true).lines ++
          later.flatMap fun comparison => (comparison.items false).lines := by
        simp only [failureDetails, FailureComparison.lines_items_first,
          FailureComparison.lines_items_later]
      rw [renderFailures, failuresText, compareFailures, details]
      simp only [List.map_cons, List.map_map, List.flatMap_cons, List.flatMap_map,
        Function.comp_def, later, baseline]
    · exact ⟨FailureCounts.read?_row baseline, rfl, rfl, rfl⟩
    · rw [List.forall₂_map_right_iff, List.forall₂_same]
      exact fun comparison _ => ⟨FailureCounts.read?_row comparison, rfl, rfl, rfl⟩

/-- Comparing failures is exact. Each comparison is that of its record. The first record is set
against nothing, so all its failures are new and none is gone; every later one is set exactly
against the first, and depends on no other record. If the first two records change places, so do
what is new and what is gone between them. The report has the lengths of the lists that it
itemises. These ascend without repetition, as sets of failures do. -/
theorem compareFailures_isExact (records : List Record) :
    (compareFailures records).map (fun comparison => (comparison.mode, comparison.failures)) =
        records.map (fun record => (record.mode, record.failures)) ∧
      (∀ first ∈ records.head?, ∃ comparison ∈ (compareFailures records).head?,
        comparison.introduced = first.failures ∧ comparison.fixed = .empty) ∧
      (∀ first ∈ records.head?, ∀ index ≠ 0, ∀ record ∈ records[index]?,
        ∃ comparison ∈ (compareFailures records)[index]?,
          comparison.IsExact first.failures record.failures) ∧
      (∀ (others : List Record) (index : Nat), others.head? = records.head? →
        others[index]? = records[index]? →
          (compareFailures others)[index]? = (compareFailures records)[index]?) ∧
      (∀ first second rest, records = first :: second :: rest →
        ∃ comparison ∈ (compareFailures (first :: second :: rest))[1]?,
          ∃ exchanged ∈ (compareFailures (second :: first :: rest))[1]?,
            exchanged.introduced = comparison.fixed ∧ exchanged.fixed = comparison.introduced) ∧
      ∃ told, renderFailures records = failuresText told ∧
        List.Forall₂ (fun comparison told => comparison.IsTold told.1 told.2)
          (compareFailures records) told := by
  refine ⟨?_, ?_, ?_, ?_, ?_, exists_renderFailures_eq records⟩
  · cases records with
    | nil => rfl
    | cons first others =>
      simp [compareFailures, FailureComparison.against]
  · intro first isFirst
    rw [List.head?_eq_getElem?, getElem?_compareFailures, ← List.head?_eq_getElem?, isFirst]
    exact ⟨_, rfl, first.failures.without_empty, first.failures.empty_without⟩
  · intro first isFirst index later record isRecord
    refine ⟨.against first.failures record, ?_, ?_⟩
    · rw [getElem?_compareFailures, isFirst, isRecord]
      simp [later]
    · exact FailureComparison.isExact_against first.failures record
  · intro others index sameFirst sameRecord
    rw [getElem?_compareFailures, getElem?_compareFailures, sameFirst, sameRecord]
  · rintro first second rest -
    exact ⟨_, rfl, _, rfl, rfl, rfl⟩

end ColdStart
