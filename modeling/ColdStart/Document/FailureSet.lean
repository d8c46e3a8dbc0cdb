/-
This file holds sets of failures. The members of a set are ascending, so each
stands once, and two sets with the same members are the same.
-/

namespace ColdStart

/-! ### Ascending lists -/

/-- The ascending list with one more member. -/
def insertAscending (member : String) : List String → List String
  | [] => [member]
  | first :: rest =>
    if member < first then member :: first :: rest
    else if member = first then first :: rest
    else first :: insertAscending member rest

theorem mem_insertAscending (member other : String) (members : List String) :
    other ∈ insertAscending member members ↔ other = member ∨ other ∈ members := by
  induction members with
  | nil => simp [insertAscending]
  | cons first rest inductionHypothesis =>
    rw [insertAscending]
    split
    · exact List.mem_cons
    · split
      · next same => simp [same]
      · rw [List.mem_cons, inductionHypothesis, List.mem_cons]
        exact or_left_comm

theorem pairwise_insertAscending (member : String) {members : List String}
    (ascending : members.Pairwise (· < ·)) :
    (insertAscending member members).Pairwise (· < ·) := by
  induction members with
  | nil => simp [insertAscending]
  | cons first rest inductionHypothesis =>
    obtain ⟨above, ascendingRest⟩ := List.pairwise_cons.mp ascending
    rw [insertAscending]
    split
    · next below =>
      refine List.pairwise_cons.mpr ⟨fun other inside => ?_, ascending⟩
      rcases List.mem_cons.mp inside with rfl | inRest
      · exact below
      · exact String.lt_trans below (above other inRest)
    · next notBelow =>
      split
      · exact ascending
      · next different =>
        refine List.pairwise_cons.mpr ⟨fun other inside => ?_, inductionHypothesis ascendingRest⟩
        rcases (mem_insertAscending member other rest).mp inside with rfl | inRest
        · exact String.not_le.mp fun below =>
            different (String.le_antisymm below (String.not_lt.mp notBelow))
        · exact above other inRest

/-! ### Sets -/

/-- A set of failures, as the ascending list of its members. -/
structure FailureSet where
  members : List String
  ascending : members.Pairwise (· < ·)
  deriving DecidableEq, Repr

namespace FailureSet

instance : Membership String FailureSet := ⟨fun set failure => failure ∈ set.members⟩

/-- The set without members. -/
def empty : FailureSet := ⟨[], .nil⟩

/-- The set with one more member. -/
def insert (set : FailureSet) (failure : String) : FailureSet :=
  ⟨insertAscending failure set.members, pairwise_insertAscending failure set.ascending⟩

/-- The set with more members. -/
def insertAll (set : FailureSet) (failures : List String) : FailureSet := failures.foldl insert set

/-- The set of the given failures. -/
def ofList (failures : List String) : FailureSet := empty.insertAll failures

/-- The members that are not in another set. -/
def without (set other : FailureSet) : FailureSet :=
  ⟨set.members.filter fun failure => !other.members.contains failure, set.ascending.filter _⟩

/-- The number of members. -/
def size (set : FailureSet) : Nat := set.members.length

end FailureSet

end ColdStart
