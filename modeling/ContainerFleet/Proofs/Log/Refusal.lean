import ContainerFleet.Proofs.Log.Assembly
import ContainerFleet.Proofs.Log.Delivery

/-!
# Behind a line that is refused

A receiver may refuse a line that it is handed.  The write that came to this line ends
there, and what stands behind the line is kept, whole lines included.  Another write would go
on with them one by one.  A flush does not look for line feeds: it hands over all that is
kept as one line, and so lines that came apart are handed over as one.

`Accounts` says what each step does with the octets that it finds waiting, whatever the
receiver does with the lines, and `lines_apart_unless_refused` that this is the only way in
which a text with a line feed is handed over.  The demultiplexer is a case of it, as it
flushes behind the write that failed.
-/

namespace ContainerFleet
namespace Log
namespace LineBuffer

/-! ## Texts of lines -/

theorem lineFeed_mem_withoutReturn {line : List UInt8} :
    lineFeed ∈ withoutReturn line ↔ lineFeed ∈ line := by
  by_cases ends : line.getLast? = some carriageReturn
  · rcases List.getLast?_eq_some_iff.mp ends with ⟨front, rfl⟩
    have other : lineFeed ≠ carriageReturn := by decide
    simp [withoutReturn_append_return, other]
  · rw [withoutReturn_of_getLast? ends]

theorem lineFeed_mem_decode {octets : List UInt8} :
    '\n' ∈ Utf8.decode octets ↔ lineFeed ∈ octets := by
  refine ⟨Utf8.mem_of_mem_decode (by decide : '\n'.toNat < 128), fun member => ?_⟩
  rcases List.append_of_mem member with ⟨front, rest, rfl⟩
  rw [decode_append_lineFeed]
  exact List.mem_append_right _ List.mem_cons_self

/-- The text of a line is not empty, and holds a line feed just if the line does. -/
theorem of_text?_eq_some {line : List UInt8} {text : String} (inside : text? line = some text) :
    text ≠ "" ∧ ('\n' ∈ text.toList ↔ lineFeed ∈ line) := by
  rw [text?] at inside
  split at inside
  · cases inside
  · rename_i filled
    cases inside
    rw [Utf8.decodeText, String.toList_ofList, lineFeed_mem_decode, lineFeed_mem_withoutReturn]
    refine ⟨fun empty => filled ?_, Iff.rfl⟩
    have nothing : Utf8.decode (withoutReturn line) = [] := by
      simpa using congrArg String.toList empty
    rw [Utf8.decode_eq_nil_iff.mp nothing]
    rfl

theorem exists_text?_of_lineFeed_mem {line : List UInt8} (member : lineFeed ∈ line) :
    ∃ text, text? line = some text := by
  have content := lineFeed_mem_withoutReturn.mpr member
  refine ⟨_, if_neg fun nothing => ?_⟩
  rw [List.isEmpty_iff.mp nothing] at content
  cases content

/-! ## Steps -/

section Steps

variable {ε σ : Type}

/-- What can be done with a buffer. -/
inductive Step where
  | write (data : List UInt8)
  | flush
  deriving DecidableEq

def perform (receive : Receiver ε σ) (buffer : LineBuffer) :
    Step → σ → LineBuffer × EStateM.Result ε σ Unit
  | .write data => buffer.write receive data
  | .flush => buffer.flush receive

/-- A receiver beside which every line that it is handed is noted, whether or not it refuses
the line. -/
def noted (receive : Receiver ε σ) : Receiver ε (σ × List String) := fun line before =>
  match receive line before.1 with
  | .ok () state => .ok () (state, before.2 ++ [line])
  | .error error state => .error error (state, before.2 ++ [line])

/-- What was done in one step: the lines that were handed over, the error of the receiver
where it refused the last of them, and the octets that are kept. -/
structure Deed (ε : Type) where
  step : Step
  handed : List String
  fault? : Option ε
  kept : List UInt8
  deriving DecidableEq

def Deed.of (step : Step) : LineBuffer × EStateM.Result ε (σ × List String) Unit → Deed ε
  | (buffer, .ok () after) => ⟨step, after.2, none, buffer.pending⟩
  | (buffer, .error error after) => ⟨step, after.2, some error, buffer.pending⟩

/-- Do some steps one after another, also behind those that fail.  Each finds the receiver
in a state of its own, since others may hand it lines in between. -/
def deeds (receive : Receiver ε σ) : LineBuffer → List (Step × σ) → List (Deed ε)
  | _, [] => []
  | buffer, (step, state) :: later =>
    .of step (buffer.perform (noted receive) step (state, [])) ::
      deeds receive (buffer.perform receive step state).1 later

/-- What is kept behind some deeds, where these octets waited before them. -/
def keptBehind (waiting : List UInt8) (earlier : List (Deed ε)) : List UInt8 :=
  earlier.foldl (fun _ deed => deed.kept) waiting

/-- What comes of taking lines out of some octets: the texts that are handed over, the error
of the receiver where it refuses the last of them, and the octets that are left. -/
inductive Drained : List UInt8 → List String → Option ε → List UInt8 → Prop
  /-- There is no whole line. -/
  | done {rest : List UInt8} : lineFeed ∉ rest → Drained rest [] none rest
  /-- The first line is handed over, if anything is in it, and is taken. -/
  | passed {line rest kept : List UInt8} {texts : List String} {fault? : Option ε} :
      lineFeed ∉ line → Drained rest texts fault? kept →
      Drained (line ++ lineFeed :: rest) ((text? line).toList ++ texts) fault? kept
  /-- The first line is refused.  What stands behind it is left as it is. -/
  | refused {line rest : List UInt8} {text : String} (error : ε) :
      lineFeed ∉ line → text? line = some text →
      Drained (line ++ lineFeed :: rest) [text] (some error) rest

/-- What a deed makes of the octets that waited before it. -/
inductive Accounts (waiting : List UInt8) : Deed ε → Prop
  /-- Lines are taken out of what waits and what comes. -/
  | written {data kept : List UInt8} {texts : List String} {fault? : Option ε} :
      Drained (waiting ++ data) texts fault? kept →
      Accounts waiting ⟨.write data, texts, fault?, kept⟩
  /-- All that waits is handed over as one line, if anything is in it. -/
  | flushed {fault? : Option ε} : (text? waiting = none → fault? = none) →
      Accounts waiting ⟨.flush, (text? waiting).toList, fault?, []⟩

/-- A write hands over no text with a line feed. -/
theorem Drained.apart {octets kept : List UInt8} {texts : List String} {fault? : Option ε}
    (drained : Drained octets texts fault? kept) :
    ∀ text ∈ texts, text ≠ "" ∧ '\n' ∉ text.toList := by
  have apart {line : List UInt8} {text : String} (first : lineFeed ∉ line)
      (inside : text? line = some text) : text ≠ "" ∧ '\n' ∉ text.toList :=
    ⟨(of_text?_eq_some inside).1, mt (of_text?_eq_some inside).2.mp first⟩
  induction drained with
  | done _ => exact List.forall_mem_nil _
  | passed first _ inductionHypothesis =>
    refine List.forall_mem_append.mpr ⟨fun text member => ?_, inductionHypothesis⟩
    exact apart first (Option.mem_toList.mp member)
  | refused error first inside =>
    exact List.forall_mem_singleton.mpr (apart first inside)

/-- Whole lines are left only behind one that was refused. -/
theorem Drained.kept {octets kept : List UInt8} {texts : List String} {fault? : Option ε}
    (drained : Drained octets texts fault? kept) (left : lineFeed ∈ kept) :
    fault?.isSome = true := by
  induction drained with
  | done none_left => exact absurd left none_left
  | passed _ _ inductionHypothesis => exact inductionHypothesis left
  | refused error _ _ => rfl

/-- The end of a step in a state. -/
def ended? (fault? : Option ε) (after : σ) : EStateM.Result ε σ Unit :=
  match fault? with
  | none => .ok () after
  | some error => .error error after

/-- Handing over one line notes it, and does nothing else that would not happen anyway. -/
theorem emit_noted (receive : Receiver ε σ) (line : List UInt8) (state : σ)
    (handed : List String) :
    ∃ fault? after, emit receive line state = ended? fault? after ∧
      emit (noted receive) line (state, handed) =
        ended? fault? (after, handed ++ (text? line).toList) ∧
      (text? line = none → fault? = none) := by
  rw [emit_eq, emit_eq]
  cases text? line with
  | none =>
    refine ⟨none, state, rfl, ?_, fun _ => rfl⟩
    rw [Option.toList_none, List.append_nil]
    rfl
  | some text =>
    dsimp only
    rw [noted]
    cases receive text state with
    | ok _ after => exact ⟨none, after, rfl, rfl, fun wrong => nomatch wrong⟩
    | error error after => exact ⟨some error, after, rfl, rfl, fun wrong => nomatch wrong⟩

theorem drain_noted (receive : Receiver ε σ) (octets : List UInt8) (state : σ)
    (handed : List String) :
    ∃ texts fault? kept after, Drained octets texts fault? kept ∧
      drain receive octets state = (⟨kept⟩, ended? fault? after) ∧
      drain (noted receive) octets (state, handed) =
        (⟨kept⟩, ended? fault? (after, handed ++ texts)) := by
  induction octets using line_induction generalizing state handed with
  | last line last =>
    refine ⟨[], none, line, state, .done last, drain_of_not_mem _ last _, ?_⟩
    rw [drain_of_not_mem _ last, List.append_nil]
    rfl
  | line line rest first inductionHypothesis =>
    rw [drain_cons _ first, drain_cons _ first]
    rcases emit_noted receive line state handed with ⟨fault?, after, plain, emitted, silent⟩
    rw [plain, emitted]
    cases fault? with
    | none =>
      rcases inductionHypothesis after (handed ++ (text? line).toList) with
        ⟨texts, fault?, kept, last, drained, ran, noting⟩
      refine ⟨_, fault?, kept, last, .passed first drained, ran, ?_⟩
      rw [← List.append_assoc]
      exact noting
    | some error =>
      cases inside : text? line with
      | none => cases silent inside
      | some text =>
        exact ⟨[text], some error, rest, after, .refused error first inside, rfl, rfl⟩

/-- Each step has its account, whatever the receiver does, and it is an account of what
happens: the step ends alike beside the notes and without them. -/
theorem perform_noted (receive : Receiver ε σ) (buffer : LineBuffer) (step : Step) (state : σ) :
    ∃ handed fault? kept after,
      buffer.perform receive step state = (⟨kept⟩, ended? fault? after) ∧
      Deed.of step (buffer.perform (noted receive) step (state, [])) =
        ⟨step, handed, fault?, kept⟩ ∧
      Accounts buffer.pending ⟨step, handed, fault?, kept⟩ := by
  cases step with
  | write data =>
    rcases drain_noted receive (buffer.pending ++ data) state [] with
      ⟨texts, fault?, kept, after, drained, ran, noting⟩
    refine ⟨texts, fault?, kept, after, ran, ?_, .written drained⟩
    rw [perform, write, noting]
    cases fault? <;> rfl
  | flush =>
    rcases emit_noted receive buffer.pending state [] with
      ⟨fault?, after, plain, noting, silent⟩
    refine ⟨(text? buffer.pending).toList, fault?, [], after, ?_, ?_, .flushed silent⟩
    · rw [perform, flush_eq, plain]
      rfl
    · rw [perform, flush_eq, noting]
      cases fault? <;> rfl

theorem accounts_of_deeds {receive : Receiver ε σ} {buffer : LineBuffer}
    {steps : List (Step × σ)} {earlier later : List (Deed ε)} {deed : Deed ε}
    (done : deeds receive buffer steps = earlier ++ deed :: later) :
    Accounts (keptBehind buffer.pending earlier) deed := by
  induction steps generalizing buffer earlier with
  | nil => exact absurd done.symm (List.append_ne_nil_of_right_ne_nil _ (List.cons_ne_nil _ _))
  | cons first others inductionHypothesis =>
    rcases first with ⟨step, state⟩
    rcases perform_noted receive buffer step state with
      ⟨handed, fault?, kept, after, plain, noting, accounts⟩
    rw [deeds, noting, plain] at done
    cases earlier with
    | nil =>
      rcases List.cons.inj done with ⟨rfl, -⟩
      exact accounts
    | cons front earlier =>
      rcases List.cons.inj done with ⟨rfl, rest⟩
      have accountsLater : Accounts (keptBehind kept earlier) deed := inductionHypothesis rest
      rwa [keptBehind, List.foldl_cons]

theorem step_of_deeds (receive : Receiver ε σ) (buffer : LineBuffer) (steps : List (Step × σ)) :
    (deeds receive buffer steps).map Deed.step = steps.map Prod.fst := by
  induction steps generalizing buffer with
  | nil => rfl
  | cons first others inductionHypothesis =>
    rcases first with ⟨step, state⟩
    rcases perform_noted receive buffer step state with
      ⟨handed, fault?, kept, after, plain, noting, -⟩
    rw [deeds, noting, List.map_cons, List.map_cons, inductionHypothesis]

namespace Accounts

variable {waiting : List UInt8} {deed : Deed ε}

/-- Only a step in which a line was refused leaves whole lines behind. -/
theorem refused (accounts : Accounts waiting deed) (left : lineFeed ∈ deed.kept) :
    deed.fault?.isSome = true := by
  cases accounts with
  | written drained => exact drained.kept left
  | flushed _ => cases left

theorem filled (accounts : Accounts waiting deed) : ∀ text ∈ deed.handed, text ≠ "" := by
  cases accounts with
  | written drained => exact fun text member => (drained.apart text member).1
  | flushed _ => exact fun text member => (of_text?_eq_some (Option.mem_toList.mp member)).1

/-- Only a flush joins lines, and it does so wherever whole lines wait. -/
theorem joined_iff (accounts : Accounts waiting deed) :
    (∃ text ∈ deed.handed, '\n' ∈ text.toList) ↔
      deed.step = .flush ∧ lineFeed ∈ waiting := by
  cases accounts with
  | written drained =>
    refine ⟨?_, fun flushed => nomatch flushed.1⟩
    rintro ⟨text, member, joined⟩
    exact absurd joined (drained.apart text member).2
  | flushed _ =>
    constructor
    · rintro ⟨text, member, joined⟩
      exact ⟨rfl, (of_text?_eq_some (Option.mem_toList.mp member)).2.mp joined⟩
    · rintro ⟨-, member⟩
      rcases exists_text?_of_lineFeed_mem member with ⟨text, inside⟩
      exact ⟨text, Option.mem_toList.mpr inside, (of_text?_eq_some inside).2.mpr member⟩

end Accounts

/-- Whole lines wait for a step just if the step before it left them there, which takes a
line that was refused. -/
theorem lineFeed_mem_keptBehind {receive : Receiver ε σ} {steps : List (Step × σ)}
    {earlier later : List (Deed ε)} (done : deeds receive empty steps = earlier ++ later) :
    lineFeed ∈ keptBehind [] earlier ↔ ∃ front refused, earlier = front ++ [refused] ∧
      refused.fault?.isSome ∧ lineFeed ∈ refused.kept := by
  rcases List.eq_nil_or_concat earlier with rfl | ⟨front, last, rfl⟩
  · refine ⟨fun member => absurd member List.not_mem_nil, ?_⟩
    rintro ⟨front, refused, wrong, -⟩
    exact absurd wrong.symm (List.append_ne_nil_of_right_ne_nil _ (List.cons_ne_nil _ _))
  · have kept : keptBehind [] (front ++ [last]) = last.kept := by
      rw [keptBehind, List.foldl_append]
      rfl
    rw [List.concat_eq_append] at done ⊢
    rw [kept]
    constructor
    · intro left
      rw [List.append_assoc] at done
      exact ⟨front, last, rfl, (accounts_of_deeds done).refused left, left⟩
    · rintro ⟨other, refused, same, -, left⟩
      rcases List.append_inj_right' same rfl with ⟨rfl⟩
      exact left

/-- The state in which a receiver is left. -/
def afterwards : EStateM.Result ε σ Unit → σ
  | .ok _ state => state
  | .error _ state => state

/-- What every single line keeps of the receiver's state is kept by a write. -/
theorem drain_keeps {receive : Receiver ε σ} {kept : σ → Prop}
    (keeps : ∀ text state, text ≠ "" → '\n' ∉ text.toList → kept state →
      kept (afterwards (receive text state)))
    (octets : List UInt8) {state : σ} (before : kept state) :
    kept (afterwards (drain receive octets state).2) := by
  induction octets using line_induction generalizing state with
  | last line last =>
    rw [drain_of_not_mem _ last]
    exact before
  | line line rest first inductionHypothesis =>
    have here : kept (afterwards (emit receive line state)) := by
      rw [emit_eq]
      cases inside : text? line with
      | none => exact before
      | some text =>
        rcases of_text?_eq_some inside with ⟨filled, joined⟩
        exact keeps text state filled (mt joined.mp first) before
    rw [drain_cons _ first]
    cases emitted : emit receive line state with
    | ok _ after =>
      rw [emitted] at here
      exact inductionHypothesis here
    | error error after =>
      rw [emitted] at here
      exact here

end Steps

end LineBuffer

namespace Demux

open LineBuffer

/-! ## Entries of lines that came apart -/

/-- Every entry is one of a single line. -/
def Apart (entries : List Entry) : Prop :=
  ∀ entry ∈ entries, entry.raw ≠ "" ∧ '\n' ∉ entry.raw.toList

/-- No whole line waits on either output. -/
def Settled (state : State) : Prop :=
  ∀ output, lineFeed ∉ (state.buffer output).pending

theorem settle_delivered (state : State) (output : Output) (buffer : LineBuffer)
    (result : EStateM.Result Failure (List Entry) Unit) :
    (state.settle output (buffer, result)).1.delivered = afterwards result := by
  cases result <;> exact delivered_update ..

theorem receive_apart (output : Output) {text : String} {entries : List Entry}
    (filled : text ≠ "") (single : '\n' ∉ text.toList) (apart : Apart entries) :
    Apart (afterwards (receive output text entries)) := by
  rw [receive]
  cases read : Entry.ofLine text output with
  | error error => exact apart
  | ok entry =>
    refine List.forall_mem_cons.mpr ⟨?_, apart⟩
    rw [(Entry.of_ofLine read).1]
    exact ⟨filled, single⟩

/-- A frame adds entries of single lines; where none of its lines is refused, it leaves no
whole line behind. -/
theorem write_apart {state : State} (apart : Apart state.delivered) (settled : Settled state)
    (frame : Frame) :
    Apart (state.write frame).1.delivered ∧
      ((state.write frame).2 = none → Settled (state.write frame).1) := by
  rw [State.write, LineBuffer.write]
  have added := drain_keeps (fun text entries => receive_apart frame.output)
    ((state.buffer frame.output).pending ++ frame.payload) apart
  rcases drain_eq (receive frame.output) ((state.buffer frame.output).pending ++ frame.payload)
    state.delivered with ⟨-, kept⟩
  generalize drain (receive frame.output) ((state.buffer frame.output).pending ++ frame.payload)
    state.delivered = drained at added kept
  rcases drained with ⟨buffer, result⟩
  refine ⟨?_, fun unfailed output => ?_⟩
  · rw [settle_delivered]
    exact added
  · cases result with
    | error error after => cases unfailed
    | ok _ after =>
      rw [State.settle, buffer_update]
      split
      · obtain rfl : buffer = _ := kept after rfl
        exact lineFeed_not_mem_waiting _
      · exact settled output

theorem writeAll_apart {state : State} (apart : Apart state.delivered) (settled : Settled state)
    (frames : List Frame) :
    Apart (writeAll state frames).1.delivered ∧
      ((writeAll state frames).2 = none → Settled (writeAll state frames).1) := by
  induction frames generalizing state with
  | nil => exact ⟨apart, fun _ => settled⟩
  | cons frame frames inductionHypothesis =>
    rw [writeAll]
    have written := write_apart apart settled frame
    generalize state.write frame = outcome at written
    rcases outcome with ⟨next, failure⟩
    cases failure with
    | none => exact inductionHypothesis written.1 (written.2 rfl)
    | some failure =>
      refine ⟨written.1, fun unfailed => ?_⟩
      cases unfailed

/-- What is left on an output gives at most one entry, which is all of it. -/
theorem flush_delivered (state : State) (output : Output) :
    ∀ entry ∈ (state.flush output).1.delivered, entry ∈ state.delivered ∨
      entry.output = output ∧ text? (state.buffer output).pending = some entry.raw := by
  rw [flush_eq_take, settle_delivered, take, emit_eq]
  cases inside : text? (state.buffer output).pending with
  | none => exact fun entry member => .inl member
  | some text =>
    dsimp only
    rw [receive]
    cases read : Entry.ofLine text output with
    | error error => exact fun entry member => .inl member
    | ok entry =>
      rcases Entry.of_ofLine read with ⟨raw, own⟩
      refine List.forall_mem_cons.mpr ⟨.inr ⟨own, ?_⟩, fun entry member => .inl member⟩
      rw [raw]

theorem flush_buffer (state : State) {output other : Output} (apart : output ≠ other) :
    (state.flush output).1.buffer other = state.buffer other := by
  rw [flush_eq_take]
  cases take (output, (state.buffer output).pending) state.delivered <;>
    exact (buffer_update ..).trans (if_neg apart)

/-- The end of a stream adds what is left on the two outputs. -/
theorem finish_delivered (state : State) (failure : Option Failure) :
    ∀ entry ∈ (finish state failure).1.delivered, entry ∈ state.delivered ∨
      text? (state.buffer entry.output).pending = some entry.raw := by
  have first : ∀ entry ∈ (state.flush .stdout).1.delivered, entry ∈ state.delivered ∨
      text? (state.buffer entry.output).pending = some entry.raw := by
    intro entry member
    rcases flush_delivered state .stdout entry member with before | ⟨own, left⟩
    · exact .inl before
    · exact .inr (own ▸ left)
  have second : ∀ entry ∈ ((state.flush .stdout).1.flush .stderr).1.delivered,
      entry ∈ state.delivered ∨ text? (state.buffer entry.output).pending = some entry.raw := by
    intro entry member
    rcases flush_delivered _ .stderr entry member with before | ⟨own, left⟩
    · exact first entry before
    · rw [flush_buffer state (by decide)] at left
      exact .inr (own ▸ left)
  rw [finish]
  generalize state.flush .stdout = outcome at first second
  rcases outcome with ⟨next, later⟩
  cases later with
  | some later => exact first
  | none =>
    dsimp only at second ⊢
    generalize next.flush .stderr = outcome at second
    rcases outcome with ⟨last, later⟩
    cases later <;> exact second

/-- An entry of several lines is what a frame with a refused line left on its output. -/
theorem ofFrames_apart (frames : List Frame) (ending : Option StreamError) :
    ∀ entry ∈ (ofFrames frames ending).entries, entry.raw ≠ "" ∧
      ('\n' ∈ entry.raw.toList → (writeAll .start frames).2.isSome ∧
        text? ((writeAll .start frames).1.buffer entry.output).pending = some entry.raw) := by
  have none_yet : Apart State.start.delivered := List.forall_mem_nil _
  have settled : Settled .start := by
    intro output
    cases output <;> exact List.not_mem_nil
  rcases writeAll_apart none_yet settled frames with
    ⟨apart, unfailed⟩
  intro entry member
  rw [ofFrames] at member
  generalize writeAll .start frames = written at apart unfailed member ⊢
  rcases written with ⟨state, failure⟩
  rcases finish_delivered state _ entry (List.mem_reverse.mp member) with before | left
  · exact ⟨(apart entry before).1, fun joined => absurd joined (apart entry before).2⟩
  · rcases of_text?_eq_some left with ⟨filled, joined⟩
    refine ⟨filled, fun several => ⟨?_, left⟩⟩
    cases failure with
    | some failure => rfl
    | none => exact absurd (joined.mp several) (unfailed rfl entry.output)

end Demux

/-- A line that is refused does not end with itself: what stands behind it in its octets is
kept, and a flush hands over all of it as one line.  No other way leads to a text with a line
feed.  This is so for every receiver and for every series of writes and flushes, whoever else
hands lines to the receiver in between; and so too for the entries of a stream, whose buffers
are flushed behind the frame that failed. -/
theorem lines_apart_unless_refused {ε σ : Type} (receive : LineBuffer.Receiver ε σ)
    (steps : List (LineBuffer.Step × σ)) (frames : List Frame) (ending : Option StreamError) :
    (LineBuffer.deeds receive .empty steps).map LineBuffer.Deed.step = steps.map Prod.fst ∧
    (∀ earlier deed later, LineBuffer.deeds receive .empty steps = earlier ++ deed :: later →
      LineBuffer.Accounts (LineBuffer.keptBehind [] earlier) deed ∧
      (∀ text ∈ deed.handed, text ≠ "") ∧
      ((∃ text ∈ deed.handed, '\n' ∈ text.toList) ↔
        deed.step = .flush ∧ ∃ front refused, earlier = front ++ [refused] ∧
          refused.fault?.isSome ∧ LineBuffer.lineFeed ∈ refused.kept)) ∧
    ∀ entry ∈ (Demux.ofFrames frames ending).entries, entry.raw ≠ "" ∧
      ('\n' ∈ entry.raw.toList → (Demux.writeAll .start frames).2.isSome ∧
        LineBuffer.text? ((Demux.writeAll .start frames).1.buffer entry.output).pending =
          some entry.raw) := by
  refine ⟨LineBuffer.step_of_deeds receive .empty steps, fun earlier deed later done => ?_,
    Demux.ofFrames_apart frames ending⟩
  have accounts := LineBuffer.accounts_of_deeds done
  refine ⟨accounts, accounts.filled, accounts.joined_iff.trans ?_⟩
  exact and_congr_right fun _ => LineBuffer.lineFeed_mem_keptBehind done

/-- Two lines that stand behind one whose moment lies before the first day of the calendar. -/
theorem joined_behind_unread_line :
    let output := Utf8.encodeText "01/Jan/0001:00:00:00 +0100 a\nb\nc\n"
    let written : LineBuffer.Deed Failure :=
      ⟨.write output, ["01/Jan/0001:00:00:00 +0100 a"], some (.range .date),
        Utf8.encodeText "b\nc\n"⟩
    let flushed : LineBuffer.Deed Failure := ⟨.flush, ["b\nc\n"], none, []⟩
    LineBuffer.deeds (Demux.receive .stdout) .empty [(.write output, []), (.flush, [])] =
        [written] ++ flushed :: [] ∧
      (∃ text ∈ flushed.handed, '\n' ∈ text.toList) ∧
      (Demux.ofFrames [⟨.stdout, output⟩] none).entries =
        [⟨none, .unknown, "b\nc", .stdout, "b\nc\n"⟩] ∧
      (Demux.writeAll .start [⟨.stdout, output⟩]).2.isSome := by
  intro output written flushed
  have done : LineBuffer.deeds (Demux.receive .stdout) .empty
      [(.write output, []), (.flush, [])] = [written] ++ flushed :: [] := by
    decide +kernel
  have entries : (Demux.ofFrames [⟨.stdout, output⟩] none).entries =
      [⟨none, .unknown, "b\nc", .stdout, "b\nc\n"⟩] := by
    decide +kernel
  rcases lines_apart_unless_refused (Demux.receive .stdout) [(.write output, []), (.flush, [])]
    [⟨.stdout, output⟩] none with ⟨-, each, delivered⟩
  have joins := (each _ _ _ done).2.2.mpr ⟨rfl, [], written, rfl, rfl, by decide +kernel⟩
  have raw := delivered _ (entries ▸ List.mem_singleton_self _)
  exact ⟨done, joins, entries, (raw.2 (by decide)).1⟩

end Log
end ContainerFleet
