import ContainerFleet.Log.Reading
import ContainerFleet.Proofs.Handoff.Progress
import ContainerFleet.Proofs.Outcome

/-!
# Read to the end and followed

A log that is read to its end and one that is followed go through the same frames.  They
come to the same entries and the same fault, unless the response cannot be closed: who
follows does not learn of it, but who reads to the end gets the error of the closing in
place of what was read.
-/

namespace ContainerFleet
namespace Log

open Daemon Handoff

/-- What there is to see for a reader who follows a log to its end. -/
def shown (source : ByteSource) : Streamed Fault Entry :=
  ⟨(Demux.run source).entries, (Demux.run source).failure.map .ofLog⟩

theorem wholeDelivery_eq_ok_iff {source : ByteSource} {entries : List Entry} :
    wholeDelivery (Demux.run source) = .ok entries ↔ shown source = ⟨entries, none⟩ := by
  rw [wholeDelivery, shown]
  rcases Demux.run source with ⟨found, failure⟩
  cases failure with
  | none => simp
  | some failure => simp

theorem wholeDelivery_eq_error_iff {source : ByteSource} {fault : Fault} :
    wholeDelivery (Demux.run source) = .error fault ↔ (shown source).fault = some fault := by
  rw [wholeDelivery, shown]
  rcases Demux.run source with ⟨found, failure⟩
  cases failure with
  | none => simp
  | some failure => simp

variable {σ : Type} (peers : Peers σ) {fleet : Fleet} {hostName id : String} {host : Host}
  {options : Options} {source : ByteSource} {before middle : Exchange σ}

/-- Closing a response is one request, whatever comes of it. -/
theorem closeResponse_cases (host : Host) (id : String) (before : Exchange σ) :
    ∃ closed after, attempt (closeResponse peers host id) before = .ok closed after ∧
      after.calls = (host.uri, .closeLogs id) :: before.calls := by
  rcases attempt_request peers host.uri (.closeLogs id) before with ⟨answer, after, made, calls⟩
  exact ⟨_, after, made, calls⟩

/-- A log that was read to its end is what was delivered, if the response can be closed. -/
theorem fetch_of_opened (known : fleet.host hostName = .ok host)
    (opened : openLogs peers host id options.bounded false before = .ok source middle)
    {closed : Except Fault Unit} {after : Exchange σ}
    (closing : attempt (closeResponse peers host id) middle = .ok closed after) :
    attempt (fetch peers fleet hostName id options) before =
      .ok (closed.bind fun _ => wholeDelivery (Demux.run source)) after := by
  have read : attempt (ofExcept (fun fault => fault) (wholeDelivery (Demux.run source))) middle =
      .ok (wholeDelivery (Demux.run source)) middle := by
    cases wholeDelivery (Demux.run source) <;> rfl
  rw [fetch, Fleet.onHost_of_known known, attempt_of_eq (bind_of_ran opened)]
  exact attempt_closing read closing

/-- A log that is followed to its end shows what was delivered. -/
theorem follow_of_opened (known : fleet.host hostName = .ok host)
    (opened : openLogs peers host id options true before = .ok source middle)
    {closed : Except Fault Unit} {after : Exchange σ}
    (closing : attempt (closeResponse peers host id) middle = .ok closed after) :
    follow peers fleet hostName id options none before = .ok (shown source) after := by
  rw [follow, if_neg (Option.some_ne_none 0).symm, Fleet.onHost_of_known known,
    bind_of_ran opened, bind_of_ran (ignoring_of_attempt closing)]
  rfl

/-- A log that is read to its end and the same log when it is followed: in both the
response is closed once.  The first comes to a list of entries just if the second shows
these and no fault and the first could close its response.  It fails by the fault that
the second shows behind the entries, and also where the response cannot be closed, which
the second passes over.  The same holds of the hand-off by which the second reaches its
reader, in every interleaving. -/
theorem agree_unless_close_fails (known : fleet.host hostName = .ok host)
    {again reopened : Exchange σ}
    (opened : openLogs peers host id options.bounded false before = .ok source middle)
    (followed : openLogs peers host id options true again = .ok source reopened)
    {capacity : Nat} (room : 0 < capacity) :
    (∃ closed outcome after,
      attempt (closeResponse peers host id) middle = .ok closed after ∧
      attempt (fetch peers fleet hostName id options) before = .ok outcome after ∧
      after.calls = (host.uri, .closeLogs id) :: middle.calls ∧
      (∀ entries, outcome = .ok entries ↔ closed = .ok () ∧ shown source = ⟨entries, none⟩) ∧
      ∀ fault, outcome = .error fault ↔
        closed = .error fault ∨ (closed = .ok () ∧ (shown source).fault = some fault)) ∧
    (∃ after, follow peers fleet hostName id options none again = .ok (shown source) after ∧
      after.calls = (host.uri, .closeLogs id) :: reopened.calls) ∧
    State.ReadWhole capacity (shown source) := by
  refine ⟨?_, ?_, State.readWhole room _⟩
  · rcases closeResponse_cases peers host id middle with ⟨closed, after, closing, calls⟩
    refine ⟨closed, _, after, closing, fetch_of_opened peers known opened closing, calls, ?_, ?_⟩
    · intro entries
      rw [← wholeDelivery_eq_ok_iff]
      cases closed with
      | error fault => exact iff_of_false nofun fun both => nomatch both.1
      | ok _ => exact (and_iff_right rfl).symm
    · intro fault
      rw [← wholeDelivery_eq_error_iff]
      cases closed with
      | error other =>
        refine ⟨fun failed => .inl (congrArg Except.error (Except.error.inj failed)), ?_⟩
        rintro (failed | ⟨closed, -⟩)
        · exact congrArg Except.error (Except.error.inj failed)
        · cases closed
      | ok _ =>
        refine ⟨fun failed => .inr ⟨rfl, failed⟩, ?_⟩
        rintro (failed | ⟨-, failed⟩)
        · cases failed
        · exact failed
  · rcases closeResponse_cases peers host id reopened with ⟨closed, after, closing, calls⟩
    exact ⟨after, follow_of_opened peers known followed closing, calls⟩

/-- A log of one line. -/
def shortLog : ByteSource :=
  .ofOctets [1, 0, 0, 0, 0, 0, 0, 3, 0x68, 0x69, 0x0A] none

/-- A daemon that has this log to give in a response that cannot be closed. -/
def holdingDaemon : Peers Unit where
  answer _ call _ :=
    match call with
    | .logs _ _ => (.ok shortLog, ())
    | .waitForever => (.ok (), ())
    | _ => (.error ⟨.failure, "close failed"⟩, ())
  deliver _ _ := (.undelivered, ())

def holdingFleet : Fleet := ⟨[⟨"local", "unix:///a"⟩], List.pairwise_singleton _ _⟩

/-- The line is there for who follows the log, and lost for who reads it to its end. -/
theorem lost_by_closing : ∃ after last,
    shown shortLog = ⟨[⟨none, .unknown, "hi", .stdout, "hi"⟩], none⟩ ∧
    attempt (fetch holdingDaemon holdingFleet "local" "web" .default) (.start ()) =
      .ok (.error (.peer ⟨.failure, "close failed"⟩)) after ∧
    follow holdingDaemon holdingFleet "local" "web" .default none (.start ()) =
      .ok (shown shortLog) last ∧
    State.ReadWhole 256 (shown shortLog) := by
  have delivered : Demux.run shortLog = ⟨[⟨none, .unknown, "hi", .stdout, "hi"⟩], none⟩ := by
    decide +kernel
  rcases agree_unless_close_fails holdingDaemon (rfl : holdingFleet.host "local" = _)
    (rfl : openLogs holdingDaemon _ "web" (Options.bounded .default) false (.start ()) = _)
    (rfl : openLogs holdingDaemon _ "web" .default true (.start ()) = _)
    (by decide : 0 < 256) with
    ⟨⟨closed, outcome, after, closing, ran, -, -, faults⟩, ⟨last, followed, -⟩, whole⟩
  have failed : closed = .error (.peer ⟨.failure, "close failed"⟩) := by
    cases closing
    rfl
  rw [(faults _).mpr (.inl failed)] at ran
  refine ⟨after, last, ?_, ran, followed, whole⟩
  rw [shown, delivered]
  rfl

end Log
end ContainerFleet
