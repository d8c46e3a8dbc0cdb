/-
This file shows that the reader of documents accepts exactly the documents, and
refuses every other text for the first thing that is wrong with it. Each step of
the reader has two laws, one that says when it gives a value and which, and one
that says when it gives a fault and which; the laws of a step are put together
from those of the steps it takes. The reader of the markup beneath it is left
open: the laws hold whatever it takes to be an element.
-/

import ColdStart.Proofs.FailureSet
import ColdStart.Proofs.Document.Format
import ColdStart.Proofs.Number.Decimal

namespace ColdStart

/-! ### Values -/

theorem readFlag_eq_ok_iff (text : Option String) (tag : String) (on : Bool) :
    readFlag text tag = .ok on ↔ SaysFlag text on := by
  rw [readFlag, SaysFlag]
  simp only [String.ofList_eq]
  by_cases yes : (trim (text.getD "").toList).map Char.toLower = "true".toList
  · rw [if_pos yes, yes]
    cases on with
    | true => simp
    | false => exact ⟨fun equal => (by cases equal), fun equal => absurd equal (by decide)⟩
  · rw [if_neg yes]
    by_cases no : (trim (text.getD "").toList).map Char.toLower = "false".toList
    · rw [if_pos no, no]
      cases on with
      | true => exact ⟨fun equal => (by cases equal), fun equal => absurd equal (by decide)⟩
      | false => simp
    · rw [if_neg no]
      cases on with
      | true => exact ⟨fun equal => (by cases equal), fun equal => absurd equal yes⟩
      | false => exact ⟨fun equal => (by cases equal), fun equal => absurd equal no⟩

theorem readTime_eq_ok_iff (text : Option String) (tag : String) (time : Int) :
    readTime text tag = .ok time ↔ SaysTime text time := by
  rw [readTime, SaysTime]
  cases readBinary64? (trim (text.getD "").toList) with
  | none => simp
  | some double =>
    simp only [Option.map_some, Option.some.injEq, exists_eq_left', ← toWhole_eq_ok_iff]
    cases double.toWhole with
    | error fault => simp
    | ok whole => simp

/-- A reader of texts reads a meaning: its values are those the text has, and a text that has
none gives a fault that shows the text. -/
structure ReadsMeaning {Value : Type} (read : Option String → String → Except DocumentFault Value)
    (meaning : Option String → Value → Prop)
    (senseless : String → Option String → DocumentFault) : Prop where
  ok : ∀ text tag value, read text tag = .ok value ↔ meaning text value
  error : ∀ text tag fault, read text tag = .error fault → fault = senseless tag text

theorem ReadsMeaning.error_iff {Value : Type}
    {read : Option String → String → Except DocumentFault Value}
    {meaning : Option String → Value → Prop}
    {senseless : String → Option String → DocumentFault}
    (reads : ReadsMeaning read meaning senseless) (text : Option String) (tag : String)
    (fault : DocumentFault) :
    read text tag = .error fault ↔
      (∀ value, ¬ meaning text value) ∧ fault = senseless tag text := by
  constructor
  · intro failed
    refine ⟨fun value means => ?_, reads.error text tag fault failed⟩
    rw [(reads.ok text tag value).mpr means] at failed
    cases failed
  · rintro ⟨nothing, rfl⟩
    cases result : read text tag with
    | error fault => rw [reads.error text tag fault result]
    | ok value => exact absurd ((reads.ok text tag value).mp result) (nothing value)

theorem readsMeaning_flag : ReadsMeaning readFlag SaysFlag DocumentFault.badFlag where
  ok := readFlag_eq_ok_iff
  error text tag fault failed := by
    rw [readFlag] at failed
    split at failed
    · cases failed
    · split at failed
      · cases failed
      · exact (Except.error.inj failed).symm

theorem readsMeaning_time : ReadsMeaning readTime SaysTime DocumentFault.badTime where
  ok := readTime_eq_ok_iff
  error text tag fault failed := by
    rw [readTime] at failed
    split at failed
    · cases failed
    · exact (Except.error.inj failed).symm

namespace XmlNode

/-! ### Children -/

theorem required_eq_ok_iff (node : XmlNode) (tag owner : String) (child : XmlNode) :
    node.required tag owner = .ok child ↔ node.child? tag = some child := by
  rw [required]
  cases node.child? tag <;> simp

theorem required_eq_error_iff (node : XmlNode) (tag owner : String) (fault : DocumentFault) :
    node.required tag owner = .error fault ↔
      node.child? tag = none ∧ fault = .missingElement owner tag := by
  rw [required]
  cases node.child? tag with
  | none => simp [eq_comm]
  | some child => simp

section

variable {Value : Type} {read : Option String → String → Except DocumentFault Value}
  {meaning : Option String → Value → Prop} {senseless : String → Option String → DocumentFault}

theorem readChild_eq_ok_iff (reads : ReadsMeaning read meaning senseless) (node : XmlNode)
    (owner tag : String) (value : Value) :
    node.readChild owner tag read = .ok value ↔ node.Holds tag meaning value := by
  rw [readChild, bind_eq_ok_iff, Holds]
  simp only [required_eq_ok_iff, reads.ok]

theorem readChild_eq_error_iff (reads : ReadsMeaning read meaning senseless) (node : XmlNode)
    (owner tag : String) (fault : DocumentFault) :
    node.readChild owner tag read = .error fault ↔
      node.ChildFault owner tag meaning (senseless tag) fault := by
  rw [readChild, bind_eq_error_iff, required_eq_error_iff]
  simp only [required_eq_ok_iff, reads.error_iff]
  constructor
  · rintro (⟨absent, rfl⟩ | ⟨child, found, nothing, rfl⟩)
    · exact .missing absent
    · exact .silent child found nothing
  · rintro (absent | ⟨child, found, nothing⟩)
    · exact .inl ⟨absent, rfl⟩
    · exact .inr ⟨child, found, nothing, rfl⟩

end

/-! ### Samples -/

theorem readSample_eq_ok_iff (node : XmlNode) (phases : List String) (sample : Sample) :
    node.readSample phases = .ok sample ↔ node.IsSample phases sample := by
  rw [readSample]
  cases given : node.attribute? "Phase" with
  | none =>
    refine ⟨fun equal => (by cases equal), fun isSample => ?_⟩
    rw [isSample.phase] at given
    cases given
  | some phase =>
    by_cases known : phase ∈ phases
    · simp only [List.contains_iff_mem.mpr known, Bool.not_true, Bool.false_eq_true, if_false,
        bind_eq_ok_iff, readChild_eq_ok_iff readsMeaning_time]
      constructor
      · rintro ⟨total, holdsTotal, user, holdsUser, system, holdsSystem, whole⟩
        cases whole
        exact ⟨given, known, holdsTotal, holdsUser, holdsSystem⟩
      · intro isSample
        obtain rfl : sample.phase = phase := Option.some.inj (isSample.phase.symm.trans given)
        exact ⟨_, isSample.total, _, isSample.user, _, isSample.system, rfl⟩
    · have strange : phases.contains phase = false := by
        simpa [List.contains_iff_mem] using known
      simp only [strange, Bool.not_false, if_true]
      refine ⟨fun equal => (by cases equal), fun isSample => ?_⟩
      obtain rfl : sample.phase = phase := Option.some.inj (isSample.phase.symm.trans given)
      exact absurd isSample.known known

/-- The three times are read in order, so the first bad one is reported. -/
theorem readSample_eq_error_iff (node : XmlNode) (phases : List String)
    (fault : DocumentFault) :
    node.readSample phases = .error fault ↔ node.SampleFault phases fault := by
  rw [readSample]
  cases given : node.attribute? "Phase" with
  | none =>
    constructor
    · intro equal
      cases equal
      exact .noPhase given
    · rintro (_ | ⟨phase, given', _⟩ | ⟨phase, _, given', _⟩)
      · rfl
      · rw [given] at given'
        cases given'
      · rw [given] at given'
        cases given'
  | some phase =>
    by_cases known : phase ∈ phases
    · simp only [List.contains_iff_mem.mpr known, Bool.not_true, Bool.false_eq_true, if_false]
      have inOrder : ∀ fault, FirstFault (fun tag => ∃ time, node.Holds tag SaysTime time)
          (fun tag => node.ChildFault (sampleOwner phase) tag SaysTime (.badTime tag)) timeTags
          fault ↔ (do
            let total ← node.readChild (sampleOwner phase) totalTag readTime
            let user ← node.readChild (sampleOwner phase) userTag readTime
            let system ← node.readChild (sampleOwner phase) systemTag readTime
            return { phase, total, user, system : Sample }) = .error fault := by
        intro fault
        simp only [timeTags, firstFault_cons, firstFault_nil, and_false, or_false,
          bind_eq_error_iff, readChild_eq_ok_iff readsMeaning_time,
          readChild_eq_error_iff readsMeaning_time, pure, Except.pure, reduceCtorEq,
          exists_false, exists_and_right]
      rw [← inOrder]
      constructor
      · exact fun first => .time phase fault given known first
      · rintro (absent | ⟨other, given', strange⟩ | ⟨other, fault, given', _, first⟩)
        · rw [given] at absent
          cases absent
        · obtain rfl : other = phase := Option.some.inj (given'.symm.trans given)
          exact absurd known strange
        · obtain rfl : other = phase := Option.some.inj (given'.symm.trans given)
          exact first
    · have strange : phases.contains phase = false := by
        simpa [List.contains_iff_mem] using known
      simp only [strange, Bool.not_false, if_true]
      constructor
      · intro equal
        cases equal
        exact .strangePhase phase given known
      · rintro (absent | ⟨other, given', _⟩ | ⟨other, fault, given', known', _⟩)
        · rw [given] at absent
          cases absent
        · obtain rfl : other = phase := Option.some.inj (given'.symm.trans given)
          rfl
        · obtain rfl : other = phase := Option.some.inj (given'.symm.trans given)
          exact absurd known' known

/-! ### Modes -/

theorem readToggle_eq_ok_iff (node : XmlNode) (name : String) (toggle : Toggle)
    (entry : Toggle × Bool) :
    node.readToggle name toggle = .ok entry ↔
      entry.1 = toggle ∧ node.Holds toggle.tag SaysFlag entry.2 := by
  rw [readToggle, bind_eq_ok_iff]
  simp only [readChild_eq_ok_iff readsMeaning_flag]
  constructor
  · rintro ⟨on, holds, whole⟩
    cases whole
    exact ⟨rfl, holds⟩
  · rintro ⟨rfl, holds⟩
    exact ⟨entry.2, holds, rfl⟩

theorem readToggle_eq_error_iff (node : XmlNode) (name : String) (toggle : Toggle)
    (fault : DocumentFault) :
    node.readToggle name toggle = .error fault ↔
      node.ChildFault (modeOwner name) toggle.tag SaysFlag (.badFlag toggle.tag) fault := by
  rw [readToggle, bind_eq_error_iff, readChild_eq_error_iff readsMeaning_flag]
  simp [pure, Except.pure]

theorem exists_readToggle_iff (node : XmlNode) (name : String) (toggle : Toggle) :
    (∃ entry, node.readToggle name toggle = .ok entry) ↔
      ∃ on, node.Holds toggle.tag SaysFlag on := by
  simp only [readToggle_eq_ok_iff]
  constructor
  · rintro ⟨entry, -, holds⟩
    exact ⟨entry.2, holds⟩
  · rintro ⟨on, holds⟩
    exact ⟨(toggle, on), rfl, holds⟩

theorem mem_toggleAll (toggle : Toggle) : toggle ∈ Toggle.all := by
  cases toggle <;> decide

/-- Entries that were read for keys in order are found under their keys. -/
theorem lookup_of_forall₂ {Key Value : Type} [DecidableEq Key] (holds : Key → Value → Prop)
    {keys : List Key} {entries : List (Key × Value)}
    (related : List.Forall₂ (fun key entry => entry.1 = key ∧ holds key entry.2) keys entries)
    (key : Key) (member : key ∈ keys) :
    ∃ value, entries.lookup key = some value ∧ holds key value := by
  induction related with
  | nil => cases member
  | @cons first entry rest entries head tail inductionHypothesis =>
    obtain ⟨name, value⟩ := entry
    obtain ⟨rfl, here⟩ := head
    by_cases same : key = name
    · subst same
      exact ⟨value, by simp, here⟩
    · have later : key ∈ rest := (List.mem_cons.mp member).resolve_left same
      obtain ⟨found, isFound, holdsFound⟩ := inductionHypothesis later
      exact ⟨found, by simp [List.lookup_cons, beq_false_of_ne same, isFound], holdsFound⟩

/-- A mode is settled by its name and its toggles. -/
theorem ofToggles_eq {mode : Mode} {name : String} {on : Toggle → Bool}
    (sameName : mode.name = name) (sameToggles : ∀ toggle, mode.has toggle = on toggle) :
    Mode.ofToggles name on = mode := by
  rw [← sameName, ← funext sameToggles, Mode.ofToggles_has]

theorem readMode_eq_ok_iff (node : XmlNode) (mode : Mode) :
    node.readMode = .ok mode ↔ node.IsMode mode := by
  rw [readMode]
  cases given : node.attribute? "Name" with
  | none =>
    refine ⟨fun equal => (by cases equal), fun isMode => ?_⟩
    rw [isMode.name] at given
    cases given
  | some name =>
    simp only [bind_eq_ok_iff, mapM_eq_ok_iff, readToggle_eq_ok_iff]
    constructor
    · rintro ⟨entries, related, whole⟩
      cases whole
      refine ⟨given, fun toggle => ?_⟩
      obtain ⟨on, found, holds⟩ := lookup_of_forall₂
        (fun toggle on => node.Holds toggle.tag SaysFlag on) related toggle
        (mem_toggleAll toggle)
      rw [Mode.has_ofToggles, found]
      exact holds
    · intro isMode
      refine ⟨Toggle.all.map fun toggle => (toggle, mode.has toggle), ?_, ?_⟩
      · rw [List.forall₂_map_right_iff, List.forall₂_same]
        exact fun toggle _ => ⟨rfl, isMode.flags toggle⟩
      · refine congrArg Except.ok (ofToggles_eq ?_ fun toggle => ?_)
        · exact Option.some.inj (isMode.name.symm.trans given)
        · cases toggle <;> rfl

theorem readMode_eq_error_iff (node : XmlNode) (fault : DocumentFault) :
    node.readMode = .error fault ↔ node.ModeFault fault := by
  rw [readMode]
  cases given : node.attribute? "Name" with
  | none =>
    constructor
    · intro equal
      cases equal
      exact .noName given
    · rintro (_ | ⟨name, _, given', _⟩)
      · rfl
      · rw [given] at given'
        cases given'
  | some name =>
    simp only [bind_eq_error_iff, mapM_eq_error_iff, exists_readToggle_iff,
      readToggle_eq_error_iff, pure, Except.pure, reduceCtorEq, and_false, exists_false, or_false]
    constructor
    · exact fun first => .flag name fault given first
    · rintro (absent | ⟨other, fault, given', first⟩)
      · rw [given] at absent
        cases absent
      · obtain rfl : other = name := Option.some.inj (given'.symm.trans given)
        exact first

/-! ### Results -/

theorem readDropped_eq_ok_iff (results : XmlNode) (dropped : Int) :
    results.readDropped = .ok dropped ↔ results.SaysDropped dropped := by
  rw [readDropped, SaysDropped]
  cases given : results.attribute? "Dropped" with
  | none =>
    have zero : readInteger? "0".toList = some 0 := by decide
    simp only [Option.getD_none, zero, Except.ok.injEq, true_and, reduceCtorEq, false_and,
      exists_false, or_false, eq_comm]
  | some text =>
    simp only [Option.getD_some, reduceCtorEq, false_and, false_or, Option.some.injEq,
      exists_eq_left']
    cases readInteger? text.toList <;> simp

theorem readDropped_eq_error_iff (results : XmlNode) (fault : DocumentFault) :
    results.readDropped = .error fault ↔
      ∃ text, results.attribute? "Dropped" = some text ∧ readInteger? text.toList = none ∧
        fault = .badDropped text := by
  rw [readDropped]
  cases given : results.attribute? "Dropped" with
  | none =>
    have zero : readInteger? "0".toList = some 0 := by decide
    simp only [Option.getD_none, zero, reduceCtorEq, false_and, exists_false]
  | some text =>
    simp only [Option.getD_some, Option.some.injEq, exists_eq_left']
    cases readInteger? text.toList <;> simp [eq_comm]

/-- The texts of the failures among some children of the results, in order. -/
def failuresAmong (children : List XmlNode) : List String :=
  (children.filter fun child => child.tag = "R2RFails").flatMap failureTexts

theorem addResult_of_timing {child : XmlNode} (timing : child.tag = "Timing")
    (record : Record) :
    record.addResult child = (child.readSample knownPhases).map fun sample =>
      { record with samples := record.samples ++ [sample] } := by
  rw [Record.addResult, if_pos timing]
  cases child.readSample knownPhases <;> rfl

theorem addResult_of_failures {child : XmlNode} (fails : child.tag = "R2RFails")
    (record : Record) :
    record.addResult child =
      .ok { record with failures := record.failures.insertAll child.failureTexts } := by
  have notTiming : ¬ child.tag = "Timing" := by rw [fails]; decide
  rw [Record.addResult, if_neg notTiming, if_pos fails]
  rfl

theorem addResult_of_other {child : XmlNode} (notTiming : ¬ child.tag = "Timing")
    (notFails : ¬ child.tag = "R2RFails") (record : Record) :
    record.addResult child = .ok record := by
  rw [Record.addResult, if_neg notTiming, if_neg notFails]
  rfl

/-- A record grows by the samples and the failures among the children that are read. -/
theorem foldlM_addResult_eq_ok_iff (children : List XmlNode) (record final : Record) :
    children.foldlM Record.addResult record = .ok final ↔
      ∃ samples, List.Forall₂ (IsSample knownPhases)
          (children.filter fun child => child.tag = "Timing") samples ∧
        final = { record with
          samples := record.samples ++ samples
          failures := record.failures.insertAll (failuresAmong children) } := by
  -- What was read before is left open, because it grows with every child.
  induction children generalizing record with
  | nil => simp [failuresAmong, FailureSet.insertAll, pure, Except.pure, eq_comm]
  | cons child rest inductionHypothesis =>
    rw [List.foldlM_cons, bind_eq_ok_iff]
    simp only [inductionHypothesis]
    by_cases timing : child.tag = "Timing"
    · have others : failuresAmong (child :: rest) = failuresAmong rest := by
        rw [failuresAmong, failuresAmong, List.filter_cons_of_neg]
        rw [timing]
        decide
      have split : ((child :: rest).filter fun child => child.tag = "Timing") =
          child :: rest.filter fun child => child.tag = "Timing" :=
        List.filter_cons_of_pos (by simp [timing])
      rw [others, split]
      simp only [addResult_of_timing timing, List.forall₂_cons_left_iff]
      constructor
      · rintro ⟨grown, taken, samples, related, rfl⟩
        cases read : child.readSample knownPhases with
        | error fault =>
          rw [read] at taken
          cases taken
        | ok sample =>
          rw [read] at taken
          cases taken
          refine ⟨sample :: samples, ⟨sample, samples, ?_, related, rfl⟩, by simp⟩
          exact (readSample_eq_ok_iff child knownPhases sample).mp read
      · rintro ⟨_, ⟨sample, samples, isSample, related, rfl⟩, rfl⟩
        rw [(readSample_eq_ok_iff child knownPhases sample).mpr isSample]
        exact ⟨_, rfl, samples, related, by simp⟩
    · have split : ((child :: rest).filter fun child => child.tag = "Timing") =
          rest.filter fun child => child.tag = "Timing" :=
        List.filter_cons_of_neg (by simp [timing])
      rw [split]
      by_cases fails : child.tag = "R2RFails"
      · have more : failuresAmong (child :: rest) =
            child.failureTexts ++ failuresAmong rest := by
          rw [failuresAmong, failuresAmong, List.filter_cons_of_pos (by simp [fails]),
            List.flatMap_cons]
        simp only [addResult_of_failures fails, more, FailureSet.insertAll_append, Except.ok.injEq,
          exists_eq_left']
      · have same : failuresAmong (child :: rest) = failuresAmong rest := by
          rw [failuresAmong, failuresAmong, List.filter_cons_of_neg (by simp [fails])]
        simp only [addResult_of_other timing fails, same, Except.ok.injEq, exists_eq_left']

/-- The first bad sample among the children is reported; nothing else can be wrong with them. -/
theorem foldlM_addResult_eq_error_iff (children : List XmlNode) (record : Record)
    (fault : DocumentFault) :
    children.foldlM Record.addResult record = .error fault ↔
      FirstFault (fun child => ∃ sample, child.IsSample knownPhases sample)
        (fun child => child.SampleFault knownPhases)
        (children.filter fun child => child.tag = "Timing") fault := by
  induction children generalizing record with
  | nil => simp [firstFault_nil, pure, Except.pure]
  | cons child rest inductionHypothesis =>
    rw [List.foldlM_cons, bind_eq_error_iff]
    simp only [inductionHypothesis, exists_and_right]
    by_cases timing : child.tag = "Timing"
    · rw [List.filter_cons_of_pos (by simp [timing]), firstFault_cons, addResult_of_timing timing]
      simp only [← readSample_eq_ok_iff, ← readSample_eq_error_iff]
      cases child.readSample knownPhases with
      | error cause => simp [Except.map]
      | ok sample => simp [Except.map]
    · rw [List.filter_cons_of_neg (by simp [timing])]
      by_cases fails : child.tag = "R2RFails"
      · simp [addResult_of_failures fails]
      · simp [addResult_of_other timing fails]

theorem mem_failuresAmong (results : XmlNode) (failure : String) :
    failure ∈ failuresAmong results.children ↔ results.ReportsFailure failure := by
  simp only [failuresAmong, failureTexts, ReportsFailure, List.mem_flatMap, List.mem_filter,
    decide_eq_true_eq, List.mem_map, and_assoc]

/-! ### Records -/

theorem readRecord_eq_ok_iff (node : XmlNode) (record : Record) :
    node.readRecord = .ok record ↔ node.IsRecord record := by
  rw [readRecord]
  simp only [bind_eq_ok_iff, readMode_eq_ok_iff, required_eq_ok_iff, readDropped_eq_ok_iff,
    foldlM_addResult_eq_ok_iff]
  constructor
  · rintro ⟨mode, isMode, results, found, dropped, counted, samples, related, rfl⟩
    refine ⟨isMode, results, found, counted, related, fun failure => ?_⟩
    rw [← mem_failuresAmong]
    exact FailureSet.mem_ofList _ failure
  · rintro ⟨isMode, results, found, isResults⟩
    refine ⟨record.mode, isMode, results, found, record.dropped, isResults.dropped,
      record.samples, isResults.samples, ?_⟩
    have failures : record.failures = .ofList (failuresAmong results.children) :=
      FailureSet.ext fun failure => by
        rw [isResults.failures, FailureSet.mem_ofList, mem_failuresAmong]
    rw [FailureSet.ofList] at failures
    simp only [List.nil_append, ← failures]

theorem readRecord_eq_error_iff (node : XmlNode) (fault : DocumentFault) :
    node.readRecord = .error fault ↔ node.RecordFault fault := by
  rw [readRecord]
  simp only [bind_eq_error_iff, readMode_eq_ok_iff, readMode_eq_error_iff, required_eq_ok_iff,
    required_eq_error_iff, readDropped_eq_ok_iff, readDropped_eq_error_iff,
    foldlM_addResult_eq_error_iff]
  constructor
  · rintro (first | ⟨mode, isMode, ⟨absent, rfl⟩ |
      ⟨results, found, ⟨text, given, noInteger, rfl⟩ | ⟨dropped, counted, first⟩⟩⟩)
    · exact .mode fault first
    · exact .noResults mode isMode absent
    · exact .results mode results _ isMode found (.dropped text given noInteger)
    · exact .results mode results fault isMode found (.sample dropped fault counted first)
  · rintro (⟨_, first⟩ | ⟨mode, isMode, absent⟩ | ⟨mode, results, _, isMode, found, first⟩)
    · exact .inl first
    · exact .inr ⟨mode, isMode, .inl ⟨absent, rfl⟩⟩
    · refine .inr ⟨mode, isMode, .inr ⟨results, found, ?_⟩⟩
      rcases first with ⟨text, given, noInteger⟩ | ⟨dropped, _, counted, first⟩
      · exact .inl ⟨text, given, noInteger, rfl⟩
      · exact .inr ⟨dropped, counted, first⟩

/-! ### Places in a document -/

theorem preorder_eq (node : XmlNode) : node.preorder = node :: preorderAll node.children := by
  cases node
  rw [preorder, children]

theorem preorderAll_eq (nodes : List XmlNode) : preorderAll nodes = nodes.flatMap preorder := by
  induction nodes with
  | nil => rfl
  | cons first rest inductionHypothesis =>
    rw [preorderAll, inductionHypothesis, List.flatMap_cons]

theorem mem_preorderAll_iff (node : XmlNode) (nodes : List XmlNode) :
    node ∈ preorderAll nodes ↔ ∃ outer ∈ nodes, node ∈ outer.preorder := by
  rw [preorderAll_eq, List.mem_flatMap]

mutual

theorem within_of_mem_preorder (node : XmlNode) :
    ∀ root : XmlNode, node ∈ root.preorder → node.Within root
  | .element tag attributes text children, member => by
    rw [preorder] at member
    rcases List.mem_cons.mp member with rfl | inside
    · exact .self
    · obtain ⟨child, isChild, within⟩ := within_of_mem_preorderAll node children inside
      exact .deeper isChild within

theorem within_of_mem_preorderAll (node : XmlNode) :
    ∀ nodes : List XmlNode, node ∈ preorderAll nodes → ∃ outer ∈ nodes, node.Within outer
  | [], member => by
    rw [preorderAll] at member
    cases member
  | first :: rest, member => by
    rw [preorderAll, List.mem_append] at member
    rcases member with here | later
    · exact ⟨first, List.mem_cons_self, within_of_mem_preorder node first here⟩
    · obtain ⟨outer, isLater, within⟩ := within_of_mem_preorderAll node rest later
      exact ⟨outer, List.mem_cons_of_mem _ isLater, within⟩

end

/-- The elements in reading order are those that stand in the document, at any depth. -/
theorem mem_preorder_iff (node root : XmlNode) : node ∈ root.preorder ↔ node.Within root := by
  constructor
  · exact within_of_mem_preorder node root
  · intro within
    induction within with
    | self =>
      rw [preorder_eq]
      exact List.mem_cons_self
    | @deeper child outer isChild _ inductionHypothesis =>
      rw [preorder_eq]
      exact List.mem_cons_of_mem _
        ((mem_preorderAll_iff node outer.children).mpr ⟨child, isChild, inductionHypothesis⟩)

theorem mem_modeNodes_iff (node root : XmlNode) :
    node ∈ root.modeNodes ↔ node.Within root ∧ node.tag = "BuildAndRun" := by
  rw [modeNodes, List.mem_filter, mem_preorder_iff, decide_eq_true_eq]

/-- The elements of modes are the element itself, if it is one, and those inside its children. -/
theorem modeNodes_eq (node : XmlNode) :
    node.modeNodes =
      (if node.tag = "BuildAndRun" then [node] else []) ++ node.children.flatMap modeNodes := by
  rw [modeNodes, preorder_eq, preorderAll_eq, List.filter_cons, List.filter_flatMap]
  by_cases isMode : node.tag = "BuildAndRun"
  · simp only [isMode, decide_true, if_true, List.singleton_append]
    rfl
  · simp only [isMode, decide_false, Bool.false_eq_true, if_false, List.nil_append]
    rfl

/-- An element that is none of a mode and has none inside its children has none. -/
theorem modeNodes_eq_nil {node : XmlNode} (other : node.tag ≠ "BuildAndRun")
    (modeless : ∀ child ∈ node.children, child.modeNodes = []) : node.modeNodes = [] := by
  rw [modeNodes_eq, if_neg other, List.nil_append, List.flatMap_eq_nil_iff]
  exact modeless

end XmlNode

/-! ### Documents -/

theorem readDocumentWith_eq_ok_iff (parse : XmlParser) (text : String) (records : List Record) :
    readDocumentWith parse text = .ok records ↔
      ∃ root, parse text = .ok root ∧ List.Forall₂ XmlNode.IsRecord root.modeNodes records := by
  rw [readDocumentWith]
  cases parse text with
  | error reason => simp
  | ok root => simp only [mapM_eq_ok_iff, XmlNode.readRecord_eq_ok_iff, Except.ok.injEq,
      exists_eq_left']

theorem readDocumentWith_eq_error_iff (parse : XmlParser) (text : String) (fault : DocumentFault) :
    readDocumentWith parse text = .error fault ↔ DocumentRefused parse text fault := by
  rw [readDocumentWith]
  cases found : parse text with
  | error reason =>
    constructor
    · intro equal
      cases equal
      exact .notWellFormed reason found
    · rintro (⟨other, unreadable⟩ | ⟨root, _, wellFormed, _⟩)
      · rw [found] at unreadable
        cases unreadable
        rfl
      · rw [found] at wellFormed
        cases wellFormed
  | ok root =>
    simp only [mapM_eq_error_iff, XmlNode.readRecord_eq_ok_iff, XmlNode.readRecord_eq_error_iff]
    constructor
    · exact fun first => .record root fault found first
    · rintro (⟨reason, unreadable⟩ | ⟨other, fault, wellFormed, first⟩)
      · rw [found] at unreadable
        cases unreadable
      · obtain rfl : other = root := Except.ok.inj (wellFormed.symm.trans found)
        exact first

/-- A text is accepted exactly when it is well formed and every element of a mode in it, at any
depth, is that of a record. The records are then those of these elements in reading order. Any
other text is refused for the first thing that is wrong with it. All this holds for every parser. -/
theorem readDocumentWith_accepts_exactly_documents (parse : XmlParser) (text : String) :
    ((∃ records, readDocumentWith parse text = .ok records) ↔
      ∃ root, parse text = .ok root ∧
        ∀ node : XmlNode, node.Within root → node.tag = "BuildAndRun" →
          ∃ record, node.IsRecord record) ∧
    (∀ records, readDocumentWith parse text = .ok records ↔
      ∃ root, parse text = .ok root ∧
        List.Forall₂ XmlNode.IsRecord root.modeNodes records) ∧
    (∀ fault, readDocumentWith parse text = .error fault ↔
      DocumentRefused parse text fault) := by
  refine ⟨?_, readDocumentWith_eq_ok_iff parse text, readDocumentWith_eq_error_iff parse text⟩
  have each : ∀ root : XmlNode,
      (∃ records, List.Forall₂ XmlNode.IsRecord root.modeNodes records) ↔
      ∀ node : XmlNode, node.Within root → node.tag = "BuildAndRun" →
        ∃ record, node.IsRecord record := by
    intro root
    simp only [exists_forall₂_iff, XmlNode.mem_modeNodes_iff, and_imp]
  simp only [readDocumentWith_eq_ok_iff, ← each]
  constructor
  · rintro ⟨records, root, wellFormed, related⟩
    exact ⟨root, wellFormed, records, related⟩
  · rintro ⟨root, wellFormed, records, related⟩
    exact ⟨records, root, wellFormed, related⟩

end ColdStart
