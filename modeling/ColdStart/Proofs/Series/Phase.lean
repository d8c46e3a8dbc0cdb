/-
This file follows the three series of a phase through calls of which some are refused. The
series are fed one after the other, so a call that is refused for its second or third
quantity has fed the series in front of it and no other: it is torn. Each series holds what
it was reached with, and the counts of the three agree as long as no call was torn. Then the
samples at one position come from one call.
-/

import ColdStart.Proofs.Series.Intake

namespace ColdStart

/-! ### Calls -/

/-- What one call offers to the three series of a phase. -/
structure PhaseCall where
  total : Quantity
  user : Quantity
  system : Quantity
  deriving DecidableEq, Repr

namespace PhaseCall

/-- The exact values of the three quantities, if all of them are numbers. -/
def values? (call : PhaseCall) : Option (ℚ × ℚ × ℚ) := do
  return (← call.total.value?, ← call.user.value?, ← call.system.value?)

/-- Whether a call reaches the second series. -/
def reachesUser (call : PhaseCall) : Bool := call.total.value?.isSome

/-- Whether a call reaches the third series. -/
def reachesSystem (call : PhaseCall) : Bool := call.reachesUser && call.user.value?.isSome

/-- Whether nothing of a call is refused. -/
def isTaken (call : PhaseCall) : Bool := call.reachesSystem && call.system.value?.isSome

/-- The first quantity is a number, and one of those behind it is not. -/
def IsTorn (call : PhaseCall) : Prop :=
  call.total.value? ≠ none ∧ (call.user.value? = none ∨ call.system.value? = none)

variable {call : PhaseCall}

theorem isTaken_of_not_isTorn (whole : ¬ call.IsTorn) (reached : call.reachesUser = true) :
    call.isTaken = true := by
  rw [IsTorn, not_and_or, not_ne_iff, not_or] at whole
  simp only [reachesUser, reachesSystem, isTaken, Option.isSome_iff_ne_none, Bool.and_eq_true]
    at reached ⊢
  exact ⟨⟨reached, (whole.resolve_left reached).1⟩, (whole.resolve_left reached).2⟩

theorem not_isTaken_of_isTorn (torn : call.IsTorn) :
    call.reachesUser = true ∧ ¬ call.isTaken = true := by
  obtain ⟨reached, refused⟩ := torn
  simp only [reachesUser, reachesSystem, isTaken, Option.isSome_iff_ne_none, Bool.and_eq_true]
  refine ⟨reached, fun taken => ?_⟩
  exact refused.elim taken.1.2 taken.2

/-- What a call that is not torn gives to a series comes with what it gives to the others. -/
theorem values?_of_not_isTorn (whole : ¬ call.IsTorn) :
    call.total.value? = call.values?.map (·.1) ∧
      (if call.reachesUser then call.user.value? else none) = call.values?.map (·.2.1) ∧
      (if call.reachesSystem then call.system.value? else none) =
        call.values?.map (·.2.2) := by
  rw [IsTorn, not_and_or, not_ne_iff, not_or] at whole
  rcases whole with noTotal | ⟨hasUser, hasSystem⟩
  · simp [values?, reachesUser, reachesSystem, noTotal]
  · obtain ⟨user, isUser⟩ := Option.ne_none_iff_exists'.mp hasUser
    obtain ⟨system, isSystem⟩ := Option.ne_none_iff_exists'.mp hasSystem
    cases isTotal : call.total.value? with
    | none => simp [values?, reachesUser, reachesSystem, isTotal]
    | some total => simp [values?, reachesUser, reachesSystem, isTotal, isUser, isSystem]

end PhaseCall

/-! ### What reaches the series -/

/-- The first quantities of calls, which all reach the first series. -/
def offeredTotals (calls : List PhaseCall) : List Quantity := calls.map (·.total)

/-- The second quantities of the calls that reach the second series. -/
def offeredUsers (calls : List PhaseCall) : List Quantity :=
  (calls.filter (·.reachesUser)).map (·.user)

/-- The third quantities of the calls that reach the third series. -/
def offeredSystems (calls : List PhaseCall) : List Quantity :=
  (calls.filter (·.reachesSystem)).map (·.system)

theorem offeredUsers_concat (calls : List PhaseCall) (call : PhaseCall) :
    offeredUsers (calls ++ [call]) =
      offeredUsers calls ++ if call.reachesUser then [call.user] else [] := by
  rw [offeredUsers, List.filter_append, List.map_append, List.filter_singleton]
  cases call.reachesUser <;> rfl

theorem offeredSystems_concat (calls : List PhaseCall) (call : PhaseCall) :
    offeredSystems (calls ++ [call]) =
      offeredSystems calls ++ if call.reachesSystem then [call.system] else [] := by
  rw [offeredSystems, List.filter_append, List.map_append, List.filter_singleton]
  cases call.reachesSystem <;> rfl

/-- There are as many whole parts as there are numbers. -/
theorem length_wholeParts (quantities : List Quantity) :
    (wholeParts quantities).length = (quantities.filter (·.value?.isSome)).length := by
  rw [wholeParts, List.length_map, List.length_filterMap_eq_countP, List.countP_eq_length_filter]

theorem length_wholeParts_totals (calls : List PhaseCall) :
    (wholeParts (offeredTotals calls)).length = (calls.filter (·.reachesUser)).length := by
  rw [length_wholeParts, offeredTotals, List.filter_map, List.length_map]
  rfl

theorem length_wholeParts_users (calls : List PhaseCall) :
    (wholeParts (offeredUsers calls)).length = (calls.filter (·.reachesSystem)).length := by
  rw [length_wholeParts, offeredUsers, List.filter_map, List.length_map, List.filter_filter]
  refine congrArg List.length (List.filter_congr fun call _ => ?_)
  exact Bool.and_comm _ _

theorem length_wholeParts_systems (calls : List PhaseCall) :
    (wholeParts (offeredSystems calls)).length = (calls.filter (·.isTaken)).length := by
  rw [length_wholeParts, offeredSystems, List.filter_map, List.length_map, List.filter_filter]
  refine congrArg List.length (List.filter_congr fun call _ => ?_)
  exact Bool.and_comm _ _

namespace PhaseSeries

/-! ### One call -/

/-- The series behind a call, and why it was refused if it was. -/
def offer (series : PhaseSeries) (call : PhaseCall) : PhaseSeries × Option NumberFault :=
  series.add call.total call.user call.system

/-- What becomes of a call. It is refused for the first quantity that is no number; the series of
that quantity and those behind it stay as they are, and those before it keep their sample. -/
inductive Offered (series : PhaseSeries) (call : PhaseCall) :
    PhaseSeries × Option NumberFault → Prop where
  | refusedTotal (fault : NumberFault) (noNumber : call.total.value? = none)
      (cause : call.total.toWhole = .error fault) : Offered series call (series, some fault)
  | refusedUser (total : ℚ) (fault : NumberFault) (isTotal : call.total.value? = some total)
      (noNumber : call.user.value? = none) (cause : call.user.toWhole = .error fault) :
      Offered series call
        ({ series with total := series.total.push (wholePart total) }, some fault)
  | refusedSystem (total user : ℚ) (fault : NumberFault)
      (isTotal : call.total.value? = some total) (isUser : call.user.value? = some user)
      (noNumber : call.system.value? = none) (cause : call.system.toWhole = .error fault) :
      Offered series call
        ({ series with
          total := series.total.push (wholePart total)
          user := series.user.push (wholePart user) }, some fault)
  | taken (total user system : ℚ) (isTotal : call.total.value? = some total)
      (isUser : call.user.value? = some user) (isSystem : call.system.value? = some system) :
      Offered series call
        (series.push (wholePart total) (wholePart user) (wholePart system), none)

theorem offered_offer (series : PhaseSeries) (call : PhaseCall) :
    series.Offered call (series.offer call) := by
  simp only [offer, add, Series.add]
  cases isTotal : call.total.value? with
  | none =>
    obtain ⟨fault, cause⟩ := Quantity.exists_toWhole_error isTotal
    rw [cause]
    exact .refusedTotal fault isTotal cause
  | some total =>
    rw [Quantity.toWhole_of_value isTotal]
    cases isUser : call.user.value? with
    | none =>
      obtain ⟨fault, cause⟩ := Quantity.exists_toWhole_error isUser
      rw [cause]
      exact .refusedUser total fault isTotal isUser cause
    | some user =>
      rw [Quantity.toWhole_of_value isUser]
      cases isSystem : call.system.value? with
      | none =>
        obtain ⟨fault, cause⟩ := Quantity.exists_toWhole_error isSystem
        rw [cause]
        exact .refusedSystem total user fault isTotal isUser isSystem cause
      | some system =>
        rw [Quantity.toWhole_of_value isSystem]
        exact .taken total user system isTotal isUser isSystem

/-- A call is an offer to each series that it reaches. -/
theorem fst_offer (series : PhaseSeries) (call : PhaseCall) :
    (series.offer call).1 = {
      total := (series.total.offer call.total).1
      user := if call.reachesUser then (series.user.offer call.user).1 else series.user
      system :=
        if call.reachesSystem then (series.system.offer call.system).1 else series.system } := by
  have offered := offered_offer series call
  generalize series.offer call = result at offered ⊢
  cases offered with
  | refusedTotal fault noNumber cause =>
    obtain ⟨_, -, refused⟩ := Series.exists_offer_refused series.total noNumber
    simp [PhaseCall.reachesSystem, PhaseCall.reachesUser, noNumber, refused]
  | refusedUser total fault isTotal noNumber cause =>
    obtain ⟨_, -, refused⟩ := Series.exists_offer_refused series.user noNumber
    simp [PhaseCall.reachesSystem, PhaseCall.reachesUser, isTotal, noNumber, refused,
      Series.offer_of_value _ isTotal]
  | refusedSystem total user fault isTotal isUser noNumber cause =>
    obtain ⟨_, -, refused⟩ := Series.exists_offer_refused series.system noNumber
    simp [PhaseCall.reachesSystem, PhaseCall.reachesUser, isTotal, isUser, refused,
      Series.offer_of_value _ isTotal, Series.offer_of_value _ isUser]
  | taken total user system isTotal isUser isSystem =>
    simp [PhaseCall.reachesSystem, PhaseCall.reachesUser, isTotal, isUser, push,
      Series.offer_of_value _ isTotal, Series.offer_of_value _ isUser,
      Series.offer_of_value _ isSystem]

/-! ### All calls -/

/-- The three series behind all calls. -/
def offerAll (series : PhaseSeries) (calls : List PhaseCall) : PhaseSeries :=
  calls.foldl (fun series call => (series.offer call).1) series

theorem offerAll_concat (series : PhaseSeries) (calls : List PhaseCall) (call : PhaseCall) :
    series.offerAll (calls ++ [call]) = ((series.offerAll calls).offer call).1 := by
  rw [offerAll, List.foldl_append]
  rfl

/-- The running figures of each series are those of the quantities it was reached with. -/
structure Summarizes (series : PhaseSeries) (calls : List PhaseCall) : Prop where
  total : series.total.Summarizes (wholeParts (offeredTotals calls))
  user : series.user.Summarizes (wholeParts (offeredUsers calls))
  system : series.system.Summarizes (wholeParts (offeredSystems calls))

/-- One more call keeps the figures those of what was reached. -/
theorem Summarizes.offer {series : PhaseSeries} {calls : List PhaseCall}
    (same : series.Summarizes calls) (call : PhaseCall) :
    (series.offer call).1.Summarizes (calls ++ [call]) := by
  have totals : offeredTotals (calls ++ [call]) = offeredTotals calls ++ [call.total] :=
    List.map_append
  rw [fst_offer]
  refine ⟨?_, ?_, ?_⟩
  · rw [totals]
    exact same.total.offer call.total
  · rw [offeredUsers_concat]
    cases call.reachesUser with
    | false => simpa using same.user
    | true => exact same.user.offer call.user
  · rw [offeredSystems_concat]
    cases call.reachesSystem with
    | false => simpa using same.system
    | true => exact same.system.offer call.system

theorem summarizes_offerAll (calls : List PhaseCall) :
    (offerAll {} calls).Summarizes calls := by
  induction calls using List.reverseRecOn with
  | nil => exact ⟨.empty, .empty, .empty⟩
  | append_singleton calls call inductionHypothesis =>
    rw [offerAll_concat]
    exact inductionHypothesis.offer call

/-! ### Rows -/

/-- The samples of the three series stand side by side, each row being one of these. -/
structure HasRows (series : PhaseSeries) (rows : List (ℚ × ℚ × ℚ)) : Prop where
  total : series.total.samples = rows.map fun row => wholePart row.1
  user : series.user.samples = rows.map fun row => wholePart row.2.1
  system : series.system.samples = rows.map fun row => wholePart row.2.2

/-- As long as no call is torn, the samples at one position come from one call. -/
theorem Summarizes.hasRows {series : PhaseSeries} {calls : List PhaseCall}
    (same : series.Summarizes calls) (whole : ∀ call ∈ calls, ¬ call.IsTorn) :
    series.HasRows (calls.filterMap PhaseCall.values?) where
  total := by
    rw [same.total.samples, wholeParts, offeredTotals, List.filterMap_map, List.map_filterMap,
      List.map_filterMap]
    refine List.filterMap_congr fun call member => ?_
    rw [Function.comp_apply, (PhaseCall.values?_of_not_isTorn (whole call member)).1,
      Option.map_map]
    rfl
  user := by
    rw [same.user.samples, wholeParts, offeredUsers, List.filterMap_map, List.filterMap_filter,
      List.map_filterMap, List.map_filterMap]
    refine List.filterMap_congr fun call member => ?_
    rw [Function.comp_apply, (PhaseCall.values?_of_not_isTorn (whole call member)).2.1,
      Option.map_map]
    rfl
  system := by
    rw [same.system.samples, wholeParts, offeredSystems, List.filterMap_map,
      List.filterMap_filter, List.map_filterMap, List.map_filterMap]
    refine List.filterMap_congr fun call member => ?_
    rw [Function.comp_apply, (PhaseCall.values?_of_not_isTorn (whole call member)).2.2,
      Option.map_map]
    rfl

/-! ### Counts -/

theorem Summarizes.counts {series : PhaseSeries} {calls : List PhaseCall}
    (same : series.Summarizes calls) :
    series.total.count = (calls.filter (·.reachesUser)).length ∧
      series.user.count = (calls.filter (·.reachesSystem)).length ∧
      series.system.count = (calls.filter (·.isTaken)).length :=
  ⟨same.total.count.trans (length_wholeParts_totals calls),
    same.user.count.trans (length_wholeParts_users calls),
    same.system.count.trans (length_wholeParts_systems calls)⟩

theorem filter_isTaken_sublist (calls : List PhaseCall) :
    (calls.filter (·.isTaken)).Sublist (calls.filter (·.reachesSystem)) :=
  List.monotone_filter_right calls fun _ taken => (Bool.and_eq_true_iff.mp taken).1

theorem filter_reachesSystem_sublist (calls : List PhaseCall) :
    (calls.filter (·.reachesSystem)).Sublist (calls.filter (·.reachesUser)) :=
  List.monotone_filter_right calls fun _ reached => (Bool.and_eq_true_iff.mp reached).1

/-- As many calls are taken as reach the second series if no call is torn. -/
theorem length_isTaken_eq_iff (calls : List PhaseCall) :
    (calls.filter (·.isTaken)).length = (calls.filter (·.reachesUser)).length ↔
      ∀ call ∈ calls, ¬ call.IsTorn := by
  constructor
  · intro same call member torn
    have equal := ((filter_isTaken_sublist calls).trans
      (filter_reachesSystem_sublist calls)).eq_of_length same
    obtain ⟨reached, notTaken⟩ := PhaseCall.not_isTaken_of_isTorn torn
    have taken : call ∈ calls.filter (·.isTaken) :=
      equal ▸ List.mem_filter.mpr ⟨member, reached⟩
    exact notTaken (List.mem_filter.mp taken).2
  · intro whole
    refine congrArg List.length (List.filter_congr fun call member => ?_)
    refine Bool.eq_iff_iff.mpr ⟨fun taken => ?_, ?_⟩
    · exact (Bool.and_eq_true_iff.mp (Bool.and_eq_true_iff.mp taken).1).1
    · exact PhaseCall.isTaken_of_not_isTorn (whole call member)

/-- After any calls, whatever was refused among them, the figures of each series are those of what
it was reached with: the second is reached by the calls whose first quantity is a number, and the
third by those whose first two are. So the counts never grow from one series to the next, and they
agree exactly if no call was torn; then the samples at one position come from one call. What
becomes of the next call is settled by its first quantity that is no number, if there is one: the
series before that quantity keep their sample, and the others stay as they are. -/
theorem offerAll_areAligned (calls : List PhaseCall) :
    let series := offerAll {} calls
    series.Summarizes calls ∧
      (series.system.count ≤ series.user.count ∧ series.user.count ≤ series.total.count) ∧
      (series.user.count = series.total.count ∧ series.system.count = series.total.count ↔
        ∀ call ∈ calls, ¬ call.IsTorn) ∧
      ((∀ call ∈ calls, ¬ call.IsTorn) →
        series.HasRows (calls.filterMap PhaseCall.values?)) ∧
      ∀ call : PhaseCall, series.Offered call (series.offer call) := by
  intro series
  have same : series.Summarizes calls := summarizes_offerAll calls
  obtain ⟨totals, users, systems⟩ := same.counts
  have fewerSystems := (filter_isTaken_sublist calls).length_le
  have fewerUsers := (filter_reachesSystem_sublist calls).length_le
  refine ⟨same, ⟨by omega, by omega⟩, ?_, same.hasRows, offered_offer series⟩
  rw [← length_isTaken_eq_iff]
  omega

/-- A call that is refused for its second quantity has fed the first series all the same. -/
theorem offer_isTorn :
    let call : PhaseCall := ⟨.whole 100, .missing, .whole 20⟩
    (offer {} call).2 = some .missing ∧
      (offer {} call).1 = { total := Series.ofList [100] } ∧ (offer {} call).1 ≠ {} ∧
      (offer {} call).1.total.count ≠ (offer {} call).1.user.count := by
  decide

end PhaseSeries

end ColdStart
