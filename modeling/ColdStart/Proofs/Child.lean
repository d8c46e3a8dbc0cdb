/-
This file shows that nothing a child prints is lost, doubled or moved. Its two
streams are read side by side, and in which order their lines arrive is not
settled: one may have ended long before the other. Whatever the order, reading
stops exactly when the second stream has ended, and what is kept are the lines in
the order in which they arrived, without the empty ones.
-/

import ColdStart.Child
import Mathlib.Data.List.DropRight

namespace ColdStart

/-! ### Two streams side by side -/

/-- The stream that something arrived from. -/
def Arrival.stream : Arrival → OutputStream
  | .line stream _ => stream
  | .finish stream => stream

/-- Whether a stream has ended. -/
def Arrival.isFinish : Arrival → Bool
  | .line _ _ => false
  | .finish _ => true

/-- What one stream delivers: its lines in order, and then its end. -/
def OutputStream.delivery (stream : OutputStream) (lines : List String) : List Arrival :=
  lines.map (.line stream) ++ [.finish stream]

/-- Both streams deliver their lines, each in its own order. How they take turns is left open. -/
def IsInterleaving (arrivals : List Arrival) (lines : OutputStream → List String) : Prop :=
  ∀ stream, arrivals.filter (·.stream = stream) = stream.delivery (lines stream)

instance (arrivals : List Arrival) (lines : OutputStream → List String) :
    Decidable (IsInterleaving arrivals lines) :=
  decidable_of_iff
    (arrivals.filter (·.stream = .output) = OutputStream.output.delivery (lines .output) ∧
      arrivals.filter (·.stream = .error) = OutputStream.error.delivery (lines .error))
    ⟨fun both stream => by cases stream with
      | output => exact both.1
      | error => exact both.2,
    fun each => ⟨each .output, each .error⟩⟩

theorem countP_isFinish_delivery (stream : OutputStream) (lines : List String) :
    (stream.delivery lines).countP Arrival.isFinish = 1 := by
  have noLine : (lines.map (Arrival.line stream)).countP Arrival.isFinish = 0 := by
    rw [List.countP_map, List.countP_eq_zero]
    exact fun _ _ => Bool.false_ne_true
  rw [OutputStream.delivery, List.countP_append, noLine]
  rfl

section

variable {arrivals : List Arrival} {lines : OutputStream → List String}
  (interleaved : IsInterleaving arrivals lines)
include interleaved

/-- Each stream ends once. -/
theorem IsInterleaving.countP_isFinish : arrivals.countP Arrival.isFinish = streamCount := by
  have others : arrivals.filter (fun arrival => !decide (arrival.stream = .output)) =
      arrivals.filter (·.stream = .error) :=
    List.filter_congr fun arrival _ => by cases arrival.stream <;> rfl
  rw [List.countP_eq_countP_filter_add arrivals Arrival.isFinish (·.stream = .output), others,
    interleaved .output, interleaved .error, countP_isFinish_delivery, countP_isFinish_delivery]
  rfl

/-- The last that arrives is the end of a stream, because it is the last of its own stream. -/
theorem IsInterleaving.exists_eq_concat_finish :
    ∃ front stream, arrivals = front ++ [.finish stream] := by
  rcases List.eq_nil_or_concat arrivals with rfl | ⟨front, last, rfl⟩
  · have nothing := interleaved .output
    simp [OutputStream.delivery] at nothing
  · have ownStream := interleaved last.stream
    rw [List.concat_eq_append, List.filter_append, List.filter_cons_of_pos (by simp),
      List.filter_nil, OutputStream.delivery] at ownStream
    have isEnd : last = .finish last.stream := by
      have final := congrArg List.getLast? ownStream
      simpa using final
    exact ⟨front, last.stream, by rw [List.concat_eq_append, ← isEnd]⟩

end

/-! ### What is kept -/

/-- The characters that end a line. -/
def isLineEnd (character : Char) : Bool := character = '\r' || character = '\n'

/-- A raw line without the line end characters that it ends with. -/
theorem withoutLineEnd_eq (raw : String) :
    withoutLineEnd raw = String.ofList (raw.toList.rdropWhile isLineEnd) := rfl

theorem withoutLineEnd_eq_empty_iff (raw : String) :
    withoutLineEnd raw = "" ↔ raw.toList.all isLineEnd = true := by
  rw [withoutLineEnd_eq, ← String.toList_inj, String.toList_ofList, String.toList_empty,
    List.rdropWhile_eq_nil_iff, List.all_eq_true]

/-- The line that is kept of what arrives. Neither the end of a stream is kept nor a line of
nothing but line end characters. -/
def Arrival.kept? : Arrival → Option KeptLine
  | .finish _ => none
  | .line stream raw =>
    if raw.toList.all isLineEnd then none
    else some ⟨stream, String.ofList (raw.toList.rdropWhile isLineEnd)⟩

theorem stream_of_mem_kept? {arrival : Arrival} {line : KeptLine}
    (kept : line ∈ arrival.kept?) : line.stream = arrival.stream := by
  cases arrival with
  | finish stream => cases kept
  | line stream raw =>
    rw [Arrival.kept?] at kept
    split at kept
    · cases kept
    · cases kept
      rfl

/-- A line that arrives while some stream is open is kept in front of what is kept of the rest. -/
theorem drain_line (openStreams : Nat) (stream : OutputStream) (raw : String)
    (rest : List Arrival) :
    drain (openStreams + 1) (.line stream raw :: rest) =
      ((Arrival.line stream raw).kept?.toList ++ (drain (openStreams + 1) rest).1,
        (drain (openStreams + 1) rest).2) := by
  rw [drain, Arrival.kept?, ← withoutLineEnd_eq]
  obtain ⟨kept, later⟩ := drain (openStreams + 1) rest
  by_cases empty : raw.toList.all isLineEnd = true
  · simp only [if_pos empty, if_pos ((withoutLineEnd_eq_empty_iff raw).mpr empty)]
    rfl
  · simp only [if_neg empty, if_neg (mt (withoutLineEnd_eq_empty_iff raw).mp empty)]
    rfl

/-- Reading goes on up to the end that is the last one waited for. All lines before it are kept in
their order, and what stands behind it is not touched. -/
theorem drain_append_finish (front later : List Arrival) (stream : OutputStream) :
    drain (front.countP Arrival.isFinish + 1) (front ++ .finish stream :: later) =
      (front.filterMap Arrival.kept?, later) := by
  induction front with
  | nil => simp [drain]
  | cons arrival rest inductionHypothesis =>
    cases arrival with
    | finish other =>
      rw [List.countP_cons_of_pos (by rfl), List.cons_append, drain, inductionHypothesis]
      rfl
    | line other raw =>
      rw [List.countP_cons_of_neg (by exact Bool.false_ne_true), List.cons_append, drain_line,
        inductionHypothesis, List.filterMap_cons]
      cases (Arrival.line other raw).kept? <;> rfl

/-- Reading takes all that two streams deliver and nothing that would come after it. -/
theorem IsInterleaving.drained {arrivals : List Arrival} {lines : OutputStream → List String}
    (interleaved : IsInterleaving arrivals lines) (later : List Arrival) :
    drain streamCount (arrivals ++ later) = (arrivals.filterMap Arrival.kept?, later) := by
  have ends := interleaved.countP_isFinish
  obtain ⟨front, stream, rfl⟩ := interleaved.exists_eq_concat_finish
  rw [List.countP_append] at ends
  have keepsFront : (front ++ [Arrival.finish stream]).filterMap Arrival.kept? =
      front.filterMap Arrival.kept? := by
    rw [List.filterMap_append]
    exact List.append_nil _
  rw [← ends, List.append_assoc, keepsFront]
  exact drain_append_finish front later stream

/-- What is kept of one stream is what is kept of that stream's own arrivals. -/
theorem filter_filterMap_kept? (arrivals : List Arrival) (stream : OutputStream) :
    (arrivals.filterMap Arrival.kept?).filter (·.stream = stream) =
      (arrivals.filter (·.stream = stream)).filterMap Arrival.kept? := by
  rw [List.filter_filterMap, List.filterMap_filter]
  refine List.filterMap_congr fun arrival _ => ?_
  cases kept : arrival.kept? with
  | none => simp
  | some line =>
    have same := stream_of_mem_kept? kept
    by_cases own : arrival.stream = stream
    · simp [same, own]
    · simp [same, own]

/-- Of the arrivals of one stream its lines are kept that are more than line ends, in order. -/
theorem map_text_delivery (stream : OutputStream) (lines : List String) :
    ((stream.delivery lines).filterMap Arrival.kept?).map (·.text) =
      (lines.filter fun raw => !raw.toList.all isLineEnd).map withoutLineEnd := by
  rw [OutputStream.delivery, List.filterMap_append]
  have noEnd : [Arrival.finish stream].filterMap Arrival.kept? = [] := rfl
  rw [noEnd, List.append_nil]
  induction lines with
  | nil => rfl
  | cons raw rest inductionHypothesis =>
    rw [List.map_cons, List.filterMap_cons, List.filter_cons, Arrival.kept?, ← withoutLineEnd_eq]
    cases raw.toList.all isLineEnd with
    | true => exact inductionHypothesis
    | false => exact congrArg (withoutLineEnd raw :: ·) inductionHypothesis

/-! ### A launch -/

/-- Whatever order the lines of both streams arrive in, a launch keeps them all. It reads up to the
end of the second stream and not beyond. The lines it gives back are those that arrived, in order,
but for the empty ones, so those of either stream are the lines of that stream. The log has the
command, the lines with a mark before those of the error stream, and the exit code at its end. -/
theorem launch_of_isInterleaving (command : Command) (run : ChildRun)
    (lines : OutputStream → List String) (interleaved : IsInterleaving run.arrivals lines) :
    let kept := run.arrivals.filterMap Arrival.kept?
    let launch := (Child.started run).launch command
    (∀ later, drain streamCount (run.arrivals ++ later) = (kept, later)) ∧
      launch.result = .ok ⟨run.exitCode, kept.map (·.text), run.elapsed⟩ ∧
      (∀ stream, (kept.filter (·.stream = stream)).map (·.text) =
        ((lines stream).filter fun raw => !raw.toList.all isLineEnd).map withoutLineEnd) ∧
      launch.log =
        ["Running " ++ commandLine command] ++
        kept.map (fun line => (if line.stream = .error then "!!" else "") ++ line.text) ++
        ["Finished in " ++ toString run.elapsed ++ " msecs with exit code " ++
          integerText run.exitCode ++ ": " ++ commandLine command] := by
  intro kept launch
  have keeps : run.kept = kept := by
    have taken := interleaved.drained []
    rw [List.append_nil] at taken
    exact congrArg Prod.fst taken
  have marked : KeptLine.logged =
      fun line => (if line.stream = .error then "!!" else "") ++ line.text := by
    funext line
    obtain ⟨stream, text⟩ := line
    cases stream with
    | output => exact String.empty_append.symm
    | error => rfl
  refine ⟨interleaved.drained, ?_, fun stream => ?_, ?_⟩
  · rw [← keeps]
    rfl
  · rw [filter_filterMap_kept?, interleaved stream, map_text_delivery]
  · rw [← marked, ← keeps]
    rfl

/-- A run whose error stream ends between the lines of its output. -/
def interleavedRun : ChildRun := {
  exitCode := 143
  arrivals := [.line .output "first\n", .line .error "\n", .line .error "warning\r\n",
    .finish .error, .line .output "\r\n", .line .output "second", .finish .output]
  elapsed := 5 }

theorem launch_of_isInterleaving_interleavedRun :
    let lines : OutputStream → List String
      | .output => ["first\n", "\r\n", "second"]
      | .error => ["\n", "warning\r\n"]
    IsInterleaving interleavedRun.arrivals lines ∧
      drain streamCount interleavedRun.arrivals =
        ([⟨.output, "first"⟩, ⟨.error, "warning"⟩, ⟨.output, "second"⟩], []) ∧
      ((Child.started interleavedRun).launch ["serve"]).log =
        ["Running serve", "first", "!!warning", "second",
          "Finished in 5 msecs with exit code 143: serve"] := by
  intro lines
  have interleaved : IsInterleaving interleavedRun.arrivals lines := by decide
  obtain ⟨drained, -, -, logged⟩ :=
    launch_of_isInterleaving ["serve"] interleavedRun lines interleaved
  refine ⟨interleaved, drained [], ?_⟩
  rw [logged]
  decide +kernel

end ColdStart
