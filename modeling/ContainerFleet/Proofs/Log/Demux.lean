import ContainerFleet.Log.Demux
import ContainerFleet.Proofs.Log.Entry
import ContainerFleet.Proofs.Log.LineOrder

/-!
# Delivery follows the lines

The buffers of the two outputs hold the octets behind the last line feed of
theirs.  This is kept by every frame whose lines can be read, so that a whole
delivery does nothing but read the lines in the order of the wire and then what
is left.  A line that cannot be read ends it.
-/

namespace ContainerFleet
namespace Log
namespace Demux

open LineBuffer

/-! ## Reading lines -/

/-- What reading a line gives, if anything is in it. -/
def reading? (line : Output × List UInt8) : Option (Except RangeError Entry) :=
  (text? line.2).map (Entry.ofLine · line.1)

/-- Hand one line to the reader of its output. -/
def take (line : Output × List UInt8) : EStateM Failure (List Entry) Unit :=
  emit (receive line.1) line.2

/-- Every line among some octets of an output can be read. -/
def Readable (octets : List UInt8) (output : Output) : Prop :=
  ∀ text ∈ texts octets, ∃ entry, Entry.ofLine text output = .ok entry

/-- The entries are what comes of the lines, in order and with nothing left out. -/
def Reads (lines : List (Output × List UInt8)) (entries : List Entry) : Prop :=
  lines.filterMap reading? = entries.map Except.ok

theorem take_eq (line : Output × List UInt8) (delivered : List Entry) :
    take line delivered =
      match reading? line with
      | none => .ok () delivered
      | some (.ok entry) => .ok () (entry :: delivered)
      | some (.error error) => .error (.range error) delivered := by
  rw [take, emit_eq, reading?]
  cases text? line.2 with
  | none => rfl
  | some text =>
    dsimp only
    rw [receive, Option.map_some]
    cases Entry.ofLine text line.1 <;> rfl

theorem date_of_reading {line : Output × List UInt8} {error : RangeError}
    (refused : reading? line = some (.error error)) : error = .date := by
  rcases Option.map_eq_some_iff.mp refused with ⟨text, -, failed⟩
  exact Entry.error_of_ofLine failed

theorem forM_take_cons (line : Output × List UInt8) (lines : List (Output × List UInt8))
    (delivered : List Entry) :
    (forM (line :: lines) take).run delivered =
      match take line delivered with
      | .ok _ kept => (forM lines take).run kept
      | .error failure kept => .error failure kept := by
  rw [List.forM_cons, EStateM.run_bind, EStateM.run]
  cases take line delivered <;> rfl

theorem forM_take_append (lines more : List (Output × List UInt8)) (delivered : List Entry) :
    (forM (lines ++ more) take).run delivered =
      match (forM lines take).run delivered with
      | .ok _ kept => (forM more take).run kept
      | .error failure kept => .error failure kept := by
  rw [List.forM_append, EStateM.run_bind]
  cases (forM lines take).run delivered <;> rfl

/-- Reading lines puts their entries in front of those delivered, or stops at
the first line that cannot be read. -/
theorem forM_take (lines : List (Output × List UInt8)) (delivered : List Entry) :
    (∃ entries, Reads lines entries ∧
      (forM lines take).run delivered = .ok () (entries.reverse ++ delivered)) ∨
    (∃ line ∈ lines, reading? line = some (.error .date)) ∧
      ∃ kept, (forM lines take).run delivered = .error (.range .date) kept := by
  induction lines generalizing delivered with
  | nil => exact .inl ⟨[], rfl, rfl⟩
  | cons line lines inductionHypothesis =>
    rw [forM_take_cons, take_eq]
    cases reading : reading? line with
    | none =>
      rcases inductionHypothesis delivered with
        ⟨entries, reads, run⟩ | ⟨⟨other, member, refused⟩, stopped⟩
      · refine .inl ⟨entries, ?_, run⟩
        rw [Reads, List.filterMap_cons_none reading]
        exact reads
      · exact .inr ⟨⟨other, List.mem_cons_of_mem line member, refused⟩, stopped⟩
    | some result =>
      cases result with
      | error error =>
        rcases date_of_reading reading with rfl
        exact .inr ⟨⟨line, List.mem_cons_self, reading⟩, delivered, rfl⟩
      | ok entry =>
        rcases inductionHypothesis (entry :: delivered) with
          ⟨entries, reads, run⟩ | ⟨⟨other, member, refused⟩, stopped⟩
        · refine .inl ⟨entry :: entries, ?_, ?_⟩
          · rw [Reads, List.filterMap_cons_some reading, List.map_cons]
            exact congrArg (.ok entry :: ·) reads
          · rw [List.reverse_cons, List.append_assoc]
            exact run
        · exact .inr ⟨⟨other, List.mem_cons_of_mem line member, refused⟩, stopped⟩

/-- The entries of one output are those of its own lines. -/
theorem Reads.filter {lines : List (Output × List UInt8)} {entries : List Entry}
    (reads : Reads lines entries) (output : Output) :
    Reads (lines.filter (·.1 = output)) (entries.filter (·.output = output)) := by
  induction lines generalizing entries with
  | nil =>
    obtain rfl : entries = [] := List.map_eq_nil_iff.mp reads.symm
    rfl
  | cons line lines inductionHypothesis =>
    rw [Reads] at reads
    cases reading : reading? line with
    | none =>
      rw [List.filterMap_cons_none reading] at reads
      have later := inductionHypothesis reads
      rw [Reads, List.filter_cons]
      split
      · rw [List.filterMap_cons_none reading]
        exact later
      · exact later
    | some result =>
      rw [List.filterMap_cons_some reading] at reads
      cases entries with
      | nil => cases reads
      | cons entry entries =>
        rw [List.map_cons, List.cons.injEq] at reads
        rcases reads with ⟨rfl, reads⟩
        have later := inductionHypothesis reads
        rcases Option.map_eq_some_iff.mp reading with ⟨text, -, read⟩
        rw [Reads, List.filter_cons, List.filter_cons, (Entry.of_ofLine read).2]
        by_cases own : line.1 = output
        · simp only [own, decide_true, if_true, List.filterMap_cons_some reading, List.map_cons]
          exact congrArg (.ok entry :: ·) later
        · simp only [own, decide_false, Bool.false_eq_true, if_false]
          exact later

/-! ## What the buffers hold -/

/-- The buffer of each output holds what waits on it. -/
def Waits (state : State) (wire : List (Output × UInt8)) : Prop :=
  ∀ output, state.buffer output = ⟨waiting (carried wire output)⟩

theorem buffer_update (state : State) (output other : Output) (buffer : LineBuffer)
    (delivered : List Entry) :
    (state.update output buffer delivered).buffer other =
      if output = other then buffer else state.buffer other := by
  cases output <;> cases other <;> rfl

theorem delivered_update (state : State) (output : Output) (buffer : LineBuffer)
    (delivered : List Entry) : (state.update output buffer delivered).delivered = delivered := by
  cases output <;> rfl

/-- A step on the state reads lines: it fails just as the reading of them does,
and where it does not, their entries are delivered and the buffers hold what
then waits. -/
structure Follows (lines : List (Output × List UInt8)) (state : State)
    (outcome : State × Option Failure) (wire : List (Output × UInt8)) : Prop where
  ok : ∀ delivered, (forM lines take).run state.delivered = .ok () delivered →
    outcome.2 = none ∧ outcome.1.delivered = delivered ∧ Waits outcome.1 wire
  error : ∀ failure kept, (forM lines take).run state.delivered = .error failure kept →
    outcome.2 = some failure

theorem write_follows {before : List (Output × UInt8)} {state : State}
    (waits : Waits state before) (frame : Frame) :
    Follows (endedLines before (frame.payload.map (frame.output, ·))) state (state.write frame)
      (before ++ frame.payload.map (frame.output, ·)) := by
  rcases frame with ⟨output, payload⟩
  rcases drain_eq (receive output)
    (waiting (carried before output) ++ payload) state.delivered with ⟨handed, kept⟩
  have lines_run : ((forM (endedLines before (payload.map (output, ·))) take).run
      state.delivered) = (drain (receive output) (waiting (carried before output) ++ payload)
        state.delivered).2 := by
    rw [endedLines_of_one_output, List.forM_map, handed]
    rfl
  have written : state.write ⟨output, payload⟩ =
      state.settle output (drain (receive output) (waiting (carried before output) ++ payload)
        state.delivered) := by
    rw [State.write, waits output, LineBuffer.write]
  generalize drain (receive output) (waiting (carried before output) ++ payload)
    state.delivered = drained at kept lines_run written
  rcases drained with ⟨buffer, result⟩
  constructor
  · intro delivered run
    rw [lines_run] at run
    obtain rfl : result = .ok () delivered := run
    rw [written]
    refine ⟨rfl, delivered_update .., fun other => ?_⟩
    rw [State.settle, buffer_update, carried_append, carried_of_one_output]
    by_cases same : output = other
    · subst same
      rw [if_pos rfl, if_pos rfl, (append_lines _ payload).2]
      exact kept delivered rfl
    · rw [if_neg same, if_neg same, List.append_nil]
      exact waits other
  · intro failure delivered run
    rw [lines_run] at run
    obtain rfl : result = .error failure delivered := run
    rw [written]
    rfl

/-- One step after another reads the lines of both; a failure of the first
leaves the second out. -/
theorem Follows.andThen {lines more : List (Output × List UInt8)} {state : State}
    {outcome final : State × Option Failure} {middle wire : List (Output × UInt8)}
    (first : Follows lines state outcome middle)
    (later : ∀ next, outcome = (next, none) → Waits next middle → Follows more next final wire)
    (failed : ∀ failure, outcome.2 = some failure → final.2 = some failure) :
    Follows (lines ++ more) state final wire := by
  cases run : (forM lines take).run state.delivered with
  | error failure kept =>
    constructor
    · intro delivered whole
      rw [forM_take_append, run] at whole
      cases whole
    · intro other otherKept whole
      rw [forM_take_append, run] at whole
      cases whole
      exact failed failure (first.error failure kept run)
  | ok _ kept =>
    rcases first.ok kept run with ⟨unfailed, rfl, waits⟩
    have rest := later outcome.1 (Prod.ext rfl unfailed) waits
    constructor
    · intro delivered whole
      rw [forM_take_append, run] at whole
      exact rest.ok delivered whole
    · intro failure delivered whole
      rw [forM_take_append, run] at whole
      exact rest.error failure delivered whole

theorem writeAll_follows {before : List (Output × UInt8)} {state : State}
    (waits : Waits state before) (frames : List Frame) :
    Follows (endedLines before (tagged frames)) state (writeAll state frames)
      (before ++ tagged frames) := by
  induction frames generalizing before state with
  | nil =>
    rw [tagged, List.flatMap_nil, List.append_nil, writeAll]
    refine ⟨fun delivered run => ?_, fun failure kept run => by cases run⟩
    cases run
    exact ⟨rfl, rfl, waits⟩
  | cons frame frames inductionHypothesis =>
    rw [tagged, List.flatMap_cons, ← tagged, endedLines_append, ← List.append_assoc, writeAll]
    refine (write_follows waits frame).andThen (fun next written nextWaits => ?_)
      (fun failure failed => ?_)
    · rw [written]
      exact inductionHypothesis nextWaits
    · generalize state.write frame = written at failed
      rcases written with ⟨next, outcome⟩
      cases failed
      rfl

theorem flush_eq_take (state : State) (output : Output) :
    state.flush output =
      state.settle output
        (.empty, take (output, (state.buffer output).pending) state.delivered) := by
  rw [State.flush, LineBuffer.flush_eq]
  rfl

/-- At the end the standard output goes first; the failure that ended the stream
is passed on when both outputs were read. -/
theorem finish_follows {wire : List (Output × UInt8)} {state : State} (waits : Waits state wire)
    (failure : Option Failure) :
    (∀ delivered, (forM (unended wire) take).run state.delivered = .ok () delivered →
      (finish state failure).2 = failure ∧ (finish state failure).1.delivered = delivered) ∧
    ∀ error kept, (forM (unended wire) take).run state.delivered = .error error kept →
      (finish state failure).2 = some error := by
  rw [finish, flush_eq_take, waits .stdout, unended, forM_take_cons]
  cases take (.stdout, waiting (carried wire .stdout)) state.delivered with
  | error error kept =>
    refine ⟨fun delivered run => (by cases run), fun other otherKept run => ?_⟩
    cases run
    rfl
  | ok _ kept =>
    simp only [State.settle, flush_eq_take, buffer_update, delivered_update, forM_take_cons]
    rw [if_neg (by decide), waits .stderr]
    cases take (.stderr, waiting (carried wire .stderr)) kept with
    | error error kept =>
      refine ⟨fun delivered run => (nomatch run), fun other otherKept run => ?_⟩
      cases run
      rfl
    | ok _ kept =>
      refine ⟨fun delivered run => ?_, fun error otherKept run => nomatch run⟩
      cases run
      exact ⟨rfl, delivered_update ..⟩

/-- A line that could not be read fails the delivery also at the end, though
what is left may fail once more. -/
theorem finish_of_range (state : State) :
    (finish state (some (.range .date))).2 = some (.range .date) := by
  have settled : ∀ (state : State) (output : Output),
      (state.flush output).2 = none ∨ (state.flush output).2 = some (.range .date) := by
    intro state output
    rw [flush_eq_take, take_eq]
    cases reading : reading? (output, (state.buffer output).pending) with
    | none => exact .inl rfl
    | some result =>
      cases result with
      | error error =>
        rcases date_of_reading reading with rfl
        exact .inr rfl
      | ok entry => exact .inl rfl
  rw [finish]
  have first := settled state .stdout
  generalize state.flush .stdout = flushed at first
  rcases flushed with ⟨next, failure⟩
  rcases first with rfl | rfl
  · have second := settled next .stderr
    dsimp only
    generalize next.flush .stderr = flushed at second
    rcases flushed with ⟨last, failure⟩
    rcases second with rfl | rfl <;> rfl
  · rfl

/-- Delivering frames reads their lines: all of them, and then the ending of the
stream is passed on; or one of them cannot be read, and that is what fails. -/
theorem ofFrames_reads (frames : List Frame) (ending : Option StreamError) :
    (Reads (lines frames) (ofFrames frames ending).entries ∧
      (ofFrames frames ending).failure = ending.map Failure.ofStream) ∨
    ((∃ line ∈ lines frames, reading? line = some (.error .date)) ∧
      (ofFrames frames ending).failure = some (.range .date)) := by
  have started : Waits .start [] := by
    intro output
    cases output <;> rfl
  have written := writeAll_follows started frames
  rw [List.nil_append] at written
  rw [ofFrames]
  generalize writeAll .start frames = outcome at written
  rcases outcome with ⟨state, failure⟩
  rcases forM_take (endedLines [] (tagged frames)) [] with
    ⟨entries, reads, run⟩ | ⟨⟨line, member, refused⟩, kept, run⟩
  · rcases written.ok _ run with ⟨unfailed, delivered, waits⟩
    dsimp only at unfailed delivered waits ⊢
    subst unfailed
    rcases finish_follows waits (ending.map Failure.ofStream) with ⟨passed, failed⟩
    rcases forM_take (unended (tagged frames)) state.delivered with
      ⟨later, laterReads, laterRun⟩ | ⟨⟨line, member, refused⟩, kept, laterRun⟩
    · rcases passed _ laterRun with ⟨ends, all⟩
      refine .inl ⟨?_, ends⟩
      rw [Option.none_or, all, delivered, List.append_nil, List.reverse_append,
        List.reverse_reverse, List.reverse_reverse, Reads, lines, List.filterMap_append, reads,
        laterReads, List.map_append]
    · refine .inr ⟨⟨line, List.mem_append_right _ member, refused⟩, ?_⟩
      exact failed _ kept laterRun
  · have failed := written.error _ kept run
    dsimp only at failed ⊢
    subst failed
    exact .inr ⟨⟨line, List.mem_append_left _ member, refused⟩, finish_of_range state⟩

end Demux
end Log
end ContainerFleet
