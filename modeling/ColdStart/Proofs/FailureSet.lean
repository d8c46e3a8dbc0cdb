/-
This file shows that a set of failures is a set. It is settled by its members, and
what is inserted or taken away becomes or ceases to be one. Its size is the number
of its members.
-/

import ColdStart.Document.FailureSet
import Mathlib.Data.Finset.Card
import Mathlib.Data.List.Sort
import Mathlib.Data.String.Basic

namespace ColdStart

namespace FailureSet

theorem mem_iff (set : FailureSet) (failure : String) : failure ∈ set ↔ failure ∈ set.members :=
  .rfl

/-- A set is settled by its members. -/
theorem ext {set other : FailureSet} (same : ∀ failure, failure ∈ set ↔ failure ∈ other) :
    set = other := by
  obtain ⟨members, ascending⟩ := set
  obtain ⟨otherMembers, otherAscending⟩ := other
  obtain rfl : members = otherMembers := ascending.eq_of_mem_iff otherAscending same
  rfl

theorem notMem_empty (failure : String) : failure ∉ empty := List.not_mem_nil

theorem mem_insert (set : FailureSet) (member failure : String) :
    failure ∈ set.insert member ↔ failure = member ∨ failure ∈ set :=
  mem_insertAscending member failure set.members

theorem insertAll_append (set : FailureSet) (failures others : List String) :
    set.insertAll (failures ++ others) = (set.insertAll failures).insertAll others :=
  List.foldl_append

theorem mem_insertAll (set : FailureSet) (failures : List String) (failure : String) :
    failure ∈ set.insertAll failures ↔ failure ∈ failures ∨ failure ∈ set := by
  induction failures generalizing set with
  | nil => simp [insertAll]
  | cons first rest inductionHypothesis =>
    have step : set.insertAll (first :: rest) = (set.insert first).insertAll rest := rfl
    rw [step, inductionHypothesis, mem_insert, List.mem_cons]
    tauto

theorem mem_ofList (failures : List String) (failure : String) :
    failure ∈ ofList failures ↔ failure ∈ failures := by
  rw [ofList, mem_insertAll, or_iff_left (notMem_empty failure)]

theorem mem_without (set other : FailureSet) (failure : String) :
    failure ∈ set.without other ↔ failure ∈ set ∧ failure ∉ other := by
  simp only [mem_iff, without, List.mem_filter, List.contains_eq_mem, Bool.not_eq_true',
    decide_eq_false_iff_not]

/-- The members of a set, not in order. -/
def toFinset (set : FailureSet) : Finset String := set.members.toFinset

variable (set other : FailureSet)

theorem toFinset_without : (set.without other).toFinset = set.toFinset \ other.toFinset := by
  ext failure
  simp only [toFinset, Finset.mem_sdiff, List.mem_toFinset, ← mem_iff, mem_without]

theorem without_empty : set.without empty = set :=
  ext fun failure => by rw [mem_without, and_iff_left (notMem_empty failure)]

theorem empty_without : empty.without set = empty := rfl

theorem size_eq_card : set.size = set.toFinset.card :=
  (List.toFinset_card_of_nodup (set.ascending.imp fun below => below.ne)).symm

/-- What two sets have in common is what is left of either without its difference to the other. -/
theorem size_without_add_card :
    (set.without other).size + (set.toFinset ∩ other.toFinset).card = set.size := by
  rw [size_eq_card, size_eq_card, toFinset_without, Finset.card_sdiff_add_card_inter]

end FailureSet

end ColdStart
