/-
This file says what a traversal that may fail amounts to. It succeeds when every
step does, and then its results are those of the steps; otherwise its fault is
that of the first step that fails. Reading a document is a nest of such
traversals, so which of many faults is reported is settled here once. Two
traversals are alike when their steps are.
-/

import Mathlib.Data.List.Forall2

namespace ColdStart

section

variable {Item Result Cause : Type}

/-! ### One step and what follows it -/

theorem bind_eq_ok_iff {Next : Type} (first : Except Cause Result)
    (continuation : Result → Except Cause Next) (value : Next) :
    first >>= continuation = .ok value ↔
      ∃ result, first = .ok result ∧ continuation result = .ok value := by
  cases first with
  | error cause => simp [bind, Except.bind]
  | ok result => simp [bind, Except.bind]

theorem bind_eq_error_iff {Next : Type} (first : Except Cause Result)
    (continuation : Result → Except Cause Next) (cause : Cause) :
    first >>= continuation = .error cause ↔
      first = .error cause ∨ ∃ result, first = .ok result ∧ continuation result = .error cause := by
  cases first with
  | error other => simp [bind, Except.bind]
  | ok result => simp [bind, Except.bind]

theorem map_eq_ok_iff {Next : Type} (change : Result → Next) (given : Except Cause Result)
    (value : Next) : change <$> given = .ok value ↔ ∃ result, given = .ok result ∧
      change result = value := by
  cases given with
  | error cause => simp
  | ok result => simp

theorem mapError_eq_ok_iff {Other : Type} (change : Cause → Other) (result : Except Cause Result)
    (value : Result) : result.mapError change = .ok value ↔ result = .ok value := by
  cases result with
  | error cause => simp [Except.mapError]
  | ok given => simp [Except.mapError]

theorem mapError_eq_error_iff {Other : Type} (change : Cause → Other)
    (result : Except Cause Result) (other : Other) :
    result.mapError change = .error other ↔
      ∃ cause, result = .error cause ∧ change cause = other := by
  cases result with
  | error cause => simp [Except.mapError]
  | ok given => simp [Except.mapError]

/-! ### The first fault of a list -/

/-- The fault of the first item that is not good: all items before it are. -/
def FirstFault (good : Item → Prop) (faulty : Item → Cause → Prop) (items : List Item)
    (cause : Cause) : Prop :=
  ∃ before item after, items = before ++ item :: after ∧
    (∀ earlier ∈ before, good earlier) ∧ faulty item cause

theorem firstFault_nil (good : Item → Prop) (faulty : Item → Cause → Prop) (cause : Cause) :
    ¬ FirstFault good faulty [] cause := by
  rintro ⟨before, item, after, split, -⟩
  simp at split

/-- The first fault is that of the first item, or the first item is good and it comes later. -/
theorem firstFault_cons (good : Item → Prop) (faulty : Item → Cause → Prop) (first : Item)
    (rest : List Item) (cause : Cause) :
    FirstFault good faulty (first :: rest) cause ↔
      faulty first cause ∨ good first ∧ FirstFault good faulty rest cause := by
  constructor
  · rintro ⟨before, item, after, split, earlier, fault⟩
    cases before with
    | nil =>
      obtain ⟨rfl, rfl⟩ : first = item ∧ rest = after := by simpa using split
      exact .inl fault
    | cons head before =>
      obtain ⟨rfl, rfl⟩ : first = head ∧ rest = before ++ item :: after := by simpa using split
      refine .inr ⟨earlier first List.mem_cons_self, before, item, after, rfl, ?_, fault⟩
      exact fun other member => earlier other (List.mem_cons_of_mem _ member)
  · rintro (fault | ⟨goodFirst, before, item, after, rfl, earlier, fault⟩)
    · exact ⟨[], first, rest, rfl, by simp, fault⟩
    · refine ⟨first :: before, item, after, rfl, ?_, fault⟩
      intro other member
      rcases List.mem_cons.mp member with rfl | member
      · exact goodFirst
      · exact earlier other member

/-! ### Traversals -/

/-- A traversal succeeds exactly when its steps do, with their results in order. -/
theorem mapM_eq_ok_iff (step : Item → Except Cause Result) (items : List Item)
    (results : List Result) :
    items.mapM step = .ok results ↔
      List.Forall₂ (fun item result => step item = .ok result) items results := by
  induction items generalizing results with
  | nil =>
    rw [List.mapM_nil, List.forall₂_nil_left_iff]
    exact ⟨fun equal => by cases equal; rfl, fun equal => by rw [equal]; rfl⟩
  | cons item rest inductionHypothesis =>
    rw [List.mapM_cons, bind_eq_ok_iff, List.forall₂_cons_left_iff]
    constructor
    · rintro ⟨result, taken, later⟩
      obtain ⟨others, traversed, whole⟩ := (bind_eq_ok_iff _ _ _).mp later
      cases whole
      exact ⟨result, others, taken, (inductionHypothesis others).mp traversed, rfl⟩
    · rintro ⟨result, others, taken, related, rfl⟩
      refine ⟨result, taken, (bind_eq_ok_iff _ _ _).mpr ⟨others, ?_, rfl⟩⟩
      exact (inductionHypothesis others).mpr related

/-- Results can be found for all items in order when one can be found for each. -/
theorem exists_forall₂_iff (related : Item → Result → Prop) (items : List Item) :
    (∃ results, List.Forall₂ related items results) ↔
      ∀ item ∈ items, ∃ result, related item result := by
  induction items with
  | nil => exact ⟨fun _ item member => (by cases member), fun _ => ⟨[], .nil⟩⟩
  | cons first rest inductionHypothesis =>
    simp only [List.forall₂_cons_left_iff, List.forall_mem_cons, ← inductionHypothesis]
    constructor
    · rintro ⟨_, result, results, here, later, rfl⟩
      exact ⟨⟨result, here⟩, results, later⟩
    · rintro ⟨⟨result, here⟩, results, later⟩
      exact ⟨_, result, results, here, later, rfl⟩

/-- What stands among the results is the result of an item. -/
theorem exists_of_forall₂_of_mem {related : Item → Result → Prop} {items : List Item}
    {results : List Result} (all : List.Forall₂ related items results) {result : Result}
    (member : result ∈ results) : ∃ item ∈ items, related item result := by
  induction all with
  | nil => cases member
  | @cons item first items results here _ inductionHypothesis =>
    rcases List.mem_cons.mp member with rfl | later
    · exact ⟨item, List.mem_cons_self, here⟩
    · obtain ⟨other, isItem, relates⟩ := inductionHypothesis later
      exact ⟨other, List.mem_cons_of_mem _ isItem, relates⟩

/-- The fault of a traversal is the first fault of its steps. -/
theorem mapM_eq_error_iff (step : Item → Except Cause Result) (items : List Item)
    (cause : Cause) :
    items.mapM step = .error cause ↔
      FirstFault (fun item => ∃ result, step item = .ok result)
        (fun item cause => step item = .error cause) items cause := by
  induction items with
  | nil =>
    rw [List.mapM_nil]
    exact ⟨fun equal => (by cases equal), fun fault => (firstFault_nil _ _ _ fault).elim⟩
  | cons item rest inductionHypothesis =>
    rw [List.mapM_cons, bind_eq_error_iff, firstFault_cons, ← inductionHypothesis]
    refine or_congr_right ?_
    constructor
    · rintro ⟨result, taken, later⟩
      rcases (bind_eq_error_iff _ _ _).mp later with fault | ⟨_, _, impossible⟩
      · exact ⟨⟨result, taken⟩, fault⟩
      · cases impossible
    · rintro ⟨⟨result, taken⟩, fault⟩
      exact ⟨result, taken, (bind_eq_error_iff _ _ _).mpr (.inl fault)⟩

/-- A traversal whose steps fail for one reason only has results if no step fails. -/
theorem mapM_ite (condition : Item → Prop) [DecidablePred condition] (change : Item → Result)
    (cause : Cause) (items : List Item) :
    (items.mapM fun item => if condition item then Except.ok (change item) else .error cause) =
      if ∀ item ∈ items, condition item then .ok (items.map change) else .error cause := by
  induction items with
  | nil => rfl
  | cons item rest inductionHypothesis =>
    rw [List.mapM_cons, inductionHypothesis]
    by_cases here : condition item
    · by_cases later : ∀ other ∈ rest, condition other
      · rw [if_pos here, if_pos later, if_pos (List.forall_mem_cons.mpr ⟨here, later⟩)]
        rfl
      · rw [if_pos here, if_neg later,
          if_neg fun all => later (List.forall_mem_cons.mp all).2]
        rfl
    · rw [if_neg here, if_neg fun all => here (List.forall_mem_cons.mp all).1]
      rfl

/-- Two traversals whose steps agree one by one come to the same. -/
theorem mapM_eq_mapM {Other : Type} {step : Item → Except Cause Result}
    {otherStep : Other → Except Cause Result} {items : List Item} {others : List Other}
    (agree : List.Forall₂ (fun item other => step item = otherStep other) items others) :
    items.mapM step = others.mapM otherStep := by
  induction agree with
  | nil => rfl
  | cons here _ inductionHypothesis =>
    rw [List.mapM_cons, List.mapM_cons, here, inductionHypothesis]

/-- What is made of the results can be made behind the traversal, beside the items. -/
theorem mapM_map_eq {Other : Type} (step : Item → Except Cause Result)
    (change : Item → Result → Other) (items : List Item) :
    (items.mapM fun item => change item <$> step item) =
      List.zipWith change items <$> items.mapM step := by
  induction items with
  | nil => rfl
  | cons first rest inductionHypothesis =>
    rw [List.mapM_cons, List.mapM_cons, inductionHypothesis]
    cases step first with
    | error cause => rfl
    | ok result => cases rest.mapM step <;> rfl

/-! ### Two runs side by side -/

/-- Two runs fail for the same reason, or their results are related. -/
inductive Alike {Other : Type} (related : Result → Other → Prop) :
    Except Cause Result → Except Cause Other → Prop where
  | failed (cause : Cause) : Alike related (.error cause) (.error cause)
  | given {result : Result} {other : Other} (relates : related result other) :
      Alike related (.ok result) (.ok other)

namespace Alike

variable {Other Next OtherNext : Type} {related : Result → Other → Prop}
  {nextRelated : Next → OtherNext → Prop} {first : Except Cause Result}
  {second : Except Cause Other}

theorem rfl : Alike (· = ·) first first := by
  cases first with
  | error cause => exact .failed cause
  | ok result => exact .given (Eq.refl result)

theorem bind {next : Result → Except Cause Next} {otherNext : Other → Except Cause OtherNext}
    (here : Alike related first second)
    (later : ∀ result other, related result other → Alike nextRelated (next result)
      (otherNext other)) : Alike nextRelated (first >>= next) (second >>= otherNext) := by
  cases here with
  | failed cause => exact .failed cause
  | given relates => exact later _ _ relates

/-- Two traversals are alike when their steps are, one by one. -/
theorem mapM {step : Item → Except Cause Result} {otherStep : Next → Except Cause Other}
    {items : List Item} {others : List Next}
    (alike : List.Forall₂ (fun item other => Alike related (step item) (otherStep other))
      items others) : Alike (List.Forall₂ related) (items.mapM step) (others.mapM otherStep) := by
  induction alike with
  | nil => exact .given .nil
  | cons here _ inductionHypothesis =>
    rw [List.mapM_cons, List.mapM_cons]
    exact here.bind fun _ _ relates => inductionHypothesis.bind fun _ _ later =>
      .given (.cons relates later)

end Alike

/-! ### Lists side by side -/

/-- When something can be found between each two, a list of it stands beside both. -/
theorem exists_between {Other : Type} {related : Item → Result → Prop}
    {otherRelated : Other → Result → Prop} {items : List Item} {others : List Other}
    (each : List.Forall₂ (fun item other => ∃ result, related item result ∧
      otherRelated other result) items others) :
    ∃ results, List.Forall₂ related items results ∧ List.Forall₂ otherRelated others results := by
  induction each with
  | nil => exact ⟨[], .nil, .nil⟩
  | cons here _ inductionHypothesis =>
    obtain ⟨result, relates, otherRelates⟩ := here
    obtain ⟨results, later, otherLater⟩ := inductionHypothesis
    exact ⟨result :: results, .cons relates later, .cons otherRelates otherLater⟩

/-- Two lists that stand beside a third stand beside each other. -/
theorem forall₂_of_beside {Other : Type} {related : Item → Result → Prop}
    {otherRelated : Item → Other → Prop} {items : List Item} {results : List Result}
    {others : List Other} (first : List.Forall₂ related items results)
    (second : List.Forall₂ otherRelated items others) :
    List.Forall₂ (fun result other => ∃ item, related item result ∧ otherRelated item other)
      results others := by
  induction first generalizing others with
  | nil =>
    cases second
    exact .nil
  | cons here _ inductionHypothesis =>
    cases second with
    | cons there later => exact .cons ⟨_, here, there⟩ (inductionHypothesis later)

/-- Texts that are read one by one are all read. -/
theorem map_eq_map_some {Text : Type} {read? : Text → Option Result} {texts : List Text}
    {results : List Result}
    (each : List.Forall₂ (fun text result => read? text = some result) texts results) :
    texts.map read? = results.map some := by
  rw [← List.forall₂_eq_eq_eq, List.forall₂_map_left_iff, List.forall₂_map_right_iff]
  exact each

end

end ColdStart
