import ContainerFleet.Proofs.Number.Overflow
import ContainerFleet.Proofs.Outcome
import ContainerFleet.Proofs.Timestamp.Extract
import ContainerFleet.Stats.Reading

/-!
# Documents without figures

A statistics document gives figures, or it does not have the expected form and is
reported as malformed.  There is a third way: in a document of the expected form, a
quotient or a count may be too large for a fraction, and the moment may lie outside the
calendar.  This is no fault of the document then, but the error of the computation, and
the operations that read documents pass it on as it is.
-/

namespace ContainerFleet
namespace Stats

open Binary64 Daemon

/-! ## Computations that leave a range -/

/-- A computation fails with the errors that satisfy `exceeds`, and with no others. -/
def FailsBy {α : Type} (computed : Except RangeError α) (exceeds : RangeError → Prop) : Prop :=
  (∃ error, exceeds error ∧ computed = .error error) ∨
    ((∀ error, ¬ exceeds error) ∧ ∃ value, computed = .ok value)

/-- The errors of two steps: those of the first, and those of the second where the first
has none. -/
def InTurn (first second : RangeError → Prop) (error : RangeError) : Prop :=
  first error ∨ (∀ other, ¬ first other) ∧ second error

namespace FailsBy

variable {α β : Type} {computed : Except RangeError α} {next : α → Except RangeError β}
  {exceeds later : RangeError → Prop}

theorem bind (fails : FailsBy computed exceeds) (goesOn : ∀ value, FailsBy (next value) later) :
    FailsBy (computed >>= next) (InTurn exceeds later) := by
  rcases fails with ⟨error, first, failed⟩ | ⟨within, value, succeeded⟩
  · refine .inl ⟨error, .inl first, ?_⟩
    rw [failed]
    rfl
  · rw [succeeded]
    rcases goesOn value with ⟨error, second, failed⟩ | ⟨fits, result, given⟩
    · exact .inl ⟨error, .inr ⟨within, second⟩, failed⟩
    · refine .inr ⟨?_, result, given⟩
      rintro error (first | ⟨-, second⟩)
      · exact within error first
      · exact fits error second

/-- What cannot fail does not add errors. -/
theorem bind_ok (fails : FailsBy computed exceeds)
    (succeeds : ∀ value, ∃ result, next value = .ok result) :
    FailsBy (computed >>= next) exceeds := by
  rcases fails with ⟨error, first, failed⟩ | ⟨within, value, succeeded⟩
  · refine .inl ⟨error, first, ?_⟩
    rw [failed]
    rfl
  · rw [succeeded]
    exact .inr ⟨within, succeeds value⟩

theorem of_iff (fails : FailsBy computed exceeds) (same : ∀ error, exceeds error ↔ later error) :
    FailsBy computed later := by
  rcases fails with ⟨error, exceeded, failed⟩ | ⟨within, value, succeeded⟩
  · exact .inl ⟨error, (same error).mp exceeded, failed⟩
  · exact .inr ⟨fun error exceeded => within error ((same error).mpr exceeded), value, succeeded⟩

theorem divide (num : Int) {den : Nat} (divisor : 0 < den) :
    FailsBy (Binary64.divide num den) fun error =>
      TooLarge num.natAbs den ∧ error = .quotient := by
  rcases divide_cases num divisor with ⟨large, failed⟩ | ⟨small, value, divided⟩
  · exact .inl ⟨.quotient, ⟨large, rfl⟩, failed⟩
  · exact .inr ⟨fun _ exceeds => small exceeds.1, value, divided⟩

theorem ofInt (number : Int) :
    FailsBy (Binary64.ofInt number) fun error => TooLarge number.natAbs 1 ∧ error = .whole := by
  rcases ofInt_cases number with ⟨large, failed⟩ | ⟨small, value, counted⟩
  · exact .inl ⟨.whole, ⟨large, rfl⟩, failed⟩
  · exact .inr ⟨fun _ exceeds => small exceeds.1, value, counted⟩

theorem ofCandidate (candidate : List Char) :
    FailsBy (Timestamp.ofCandidate candidate) fun error =>
      Timestamp.Overshoots candidate ∧ error = .date := by
  rcases Timestamp.ofCandidate_cases candidate with
    ⟨outside, failed⟩ | ⟨inside, moment, read, -⟩
  · exact .inl ⟨.date, ⟨outside, rfl⟩, failed⟩
  · exact .inr ⟨fun _ exceeds => inside exceeds.1, moment, read⟩

end FailsBy

/-! ## Snapshots that leave a range -/

namespace Snapshot

variable (snapshot : Snapshot)

/-- Processor time has passed, and the share of the container or else the count of
processors is too large for a fraction. -/
def CpuExceeds (error : RangeError) : Prop :=
  let used := snapshot.cpu.usage.total - snapshot.previousCpu.usage.total
  let passed := snapshot.cpu.system - snapshot.previousCpu.system
  (0 < used ∧ 0 < passed) ∧
    InTurn (fun error => TooLarge used.natAbs passed.natAbs ∧ error = .quotient)
      (fun error => TooLarge snapshot.processors.natAbs 1 ∧ error = .whole) error

/-- Memory is limited, and the share that is used is too large for a fraction. -/
def MemoryExceeds (error : RangeError) : Prop :=
  0 < snapshot.memory.limit ∧
    TooLarge snapshot.memory.usage.natAbs snapshot.memory.limit.natAbs ∧ error = .quotient

/-- The snapshot was read outside the calendar. -/
def MomentExceeds (error : RangeError) : Prop :=
  Timestamp.Overshoots snapshot.read.toList ∧ error = .date

/-- The first of the figures that leaves its range, and how. -/
def Exceeds : RangeError → Prop :=
  InTurn snapshot.CpuExceeds (InTurn snapshot.MemoryExceeds snapshot.MomentExceeds)

theorem cpuPercent_failsBy : FailsBy snapshot.cpuPercent snapshot.CpuExceeds := by
  rw [cpuPercent]
  split
  · rename_i still
    refine .inr ⟨fun error exceeds => ?_, _, rfl⟩
    have grows := exceeds.1
    omega
  · rename_i grown
    have steps := (FailsBy.divide (snapshot.cpu.usage.total - snapshot.previousCpu.usage.total)
      (by omega : 0 < (snapshot.cpu.system - snapshot.previousCpu.system).natAbs)).bind
        fun share => (FailsBy.ofInt snapshot.processors).bind_ok
          fun processors => ⟨share * processors * 100.0, rfl⟩
    exact steps.of_iff fun error => (and_iff_right (by omega)).symm

theorem memoryPercent_failsBy : FailsBy snapshot.memoryPercent snapshot.MemoryExceeds := by
  rw [memoryPercent]
  split
  · rename_i unlimited
    refine .inr ⟨fun error exceeds => ?_, _, rfl⟩
    have limited := exceeds.1
    omega
  · rename_i limited
    have steps := (FailsBy.divide snapshot.memory.usage
      (by omega : 0 < snapshot.memory.limit.natAbs)).bind_ok fun share => ⟨share * 100.0, rfl⟩
    exact steps.of_iff fun error => (and_iff_right (by omega)).symm

theorem timestamp_failsBy : FailsBy snapshot.timestamp snapshot.MomentExceeds :=
  (FailsBy.ofCandidate snapshot.read.toList).bind_ok fun moment => by
    cases moment <;> exact ⟨_, rfl⟩

theorem usage_failsBy (containerId host : String) :
    FailsBy (snapshot.usage containerId host) snapshot.Exceeds :=
  snapshot.cpuPercent_failsBy.bind fun _ => snapshot.memoryPercent_failsBy.bind fun _ =>
    snapshot.timestamp_failsBy.bind_ok fun _ => ⟨_, rfl⟩

end Snapshot

/-! ## Documents -/

/-- A document is malformed, or leaves a range, or gives figures. -/
theorem figures_cases (containerId host : String) (document : Json) :
    (∃ issues, Snapshot.decode document = .failed issues ∧
      figures containerId host document = .error (.invalidStats issues)) ∨
    ∃ snapshot, Snapshot.decode document = .ok snapshot ∧
      ((∃ error, snapshot.Exceeds error ∧
          figures containerId host document = .error (.range error)) ∨
        ((∀ error, ¬ snapshot.Exceeds error) ∧
          ∃ usage, figures containerId host document = .ok usage)) := by
  rw [figures, usageOf]
  cases Snapshot.decode document with
  | failed issues => exact .inl ⟨issues, rfl, rfl⟩
  | ok snapshot =>
    refine .inr ⟨snapshot, rfl, ?_⟩
    dsimp only
    rcases snapshot.usage_failsBy containerId host with
      ⟨error, exceeds, failed⟩ | ⟨within, usage, derived⟩
    · exact .inl ⟨error, exceeds, by rw [failed]; rfl⟩
    · exact .inr ⟨within, usage, by rw [derived]; rfl⟩

/-! ## Reading documents -/

/-- The stream shows outcomes in order, up to the first that is a fault. -/
def Shows {ε α : Type} (streamed : Streamed ε α) (outcomes : List (Except ε α)) : Prop :=
  ∃ rest, outcomes = streamed.items.map .ok ++ rest ∧
    ((rest = [] ∧ streamed.fault = none) ∨
      ∃ fault later, rest = .error fault :: later ∧ streamed.fault = some fault)

theorem shows_mapWith {ε α β : Type} (work : α → Except ε β) (entries : List (Except ε α)) :
    Shows (Streamed.mapWith work entries) (entries.map fun entry => entry >>= work) := by
  induction entries with
  | nil => exact ⟨[], rfl, .inl ⟨rfl, rfl⟩⟩
  | cons entry later inductionHypothesis =>
    cases entry with
    | error fault => exact ⟨_, rfl, .inr ⟨fault, _, rfl, rfl⟩⟩
    | ok item =>
      rw [Streamed.mapWith, List.map_cons]
      change Shows _ (work item :: _)
      cases work item with
      | error fault => exact ⟨_, rfl, .inr ⟨fault, _, rfl, rfl⟩⟩
      | ok result =>
        rcases inductionHypothesis with ⟨rest, outcomes, ending⟩
        exact ⟨rest, congrArg (Except.ok result :: ·) outcomes, ending⟩

variable {σ : Type} (peers : Peers σ) {fleet : Fleet} {hostName id : String} {host : Host}
  {before after : Exchange σ}

theorem name_of_known (known : fleet.host hostName = .ok host) : host.name = hostName := by
  rw [Fleet.host] at known
  split at known
  · rename_i found
    cases known
    exact (Fleet.mem_of_find? found).2
  · cases known

/-- Once a document is there, reading it comes to what the document gives. -/
theorem once_of_answer (known : fleet.host hostName = .ok host) {document : Json}
    (answered : peers.request host.uri (.stats id) before = .ok document after) :
    once peers fleet hostName id before =
      ofExcept (fun fault => fault) (figures id host.name document) after := by
  have read : statsOnce peers host id before = .ok document after := by
    rw [statsOnce, bind_of_ran (attempt_of_ran answered)]
    rfl
  rw [once, Fleet.onHost_of_known known, readOnce, bind_of_ran read]

/-- Once the stream is open, following it shows what its documents give. -/
theorem follow_of_opened (known : fleet.host hostName = .ok host) {documents : Documents}
    (opened : openStats peers host id before = .ok documents after) (limit : Option Nat) :
    ∃ closed, follow peers fleet hostName id limit before =
      .ok ((Streamed.mapWith (figures id hostName)
        (documents.map fun document => document.mapError streamFault)).within limit) closed := by
  rw [follow]
  split
  · rename_i none
    rw [none]
    exact ⟨before, rfl⟩
  · rcases ignoring_ok (peers.request host.uri (.closeStatsStream id)) after with ⟨closed, ignored⟩
    refine ⟨closed, ?_⟩
    rw [Fleet.onHost_of_known known, bind_of_ran opened, bind_of_ran ignored]
    rfl

/-- A document fails to give figures where it is malformed, which is reported as such,
and where it leaves a range, which is passed on as it is; it does not fail in any other
way.  What is read once on a known host is what its document gives.  What is followed
shows what the documents give in turn, up to the first fault, be it the daemon's or a
document's. -/
theorem fails_only_out_of_range (known : fleet.host hostName = .ok host) (id : String)
    (before : Exchange σ) :
    (∀ containerId name document,
      (∃ issues, Snapshot.decode document = .failed issues ∧
        figures containerId name document = .error (.invalidStats issues)) ∨
      ∃ snapshot, Snapshot.decode document = .ok snapshot ∧
        ((∃ error, snapshot.Exceeds error ∧
            figures containerId name document = .error (.range error)) ∨
          ((∀ error, ¬ snapshot.Exceeds error) ∧
            ∃ usage, figures containerId name document = .ok usage))) ∧
    (∀ document answered,
      peers.request host.uri (.stats id) before = .ok document answered →
        once peers fleet hostName id before =
          match figures id host.name document with
          | .ok usage => .ok usage answered
          | .error fault => .error fault answered) ∧
    (∀ documents opened limit,
      openStats peers host id before = .ok documents opened →
        ∃ shown closed, follow peers fleet hostName id limit before =
          .ok (shown.within limit) closed ∧
        Shows shown (documents.map fun document =>
          document.mapError streamFault >>= figures id host.name)) := by
  refine ⟨figures_cases, ?_, ?_⟩
  · intro document answered answer
    rw [once_of_answer peers known answer]
    cases figures id host.name document <;> rfl
  · intro documents opened limit isOpen
    rcases follow_of_opened peers known isOpen limit with ⟨closed, followed⟩
    refine ⟨_, closed, followed, ?_⟩
    have shows := shows_mapWith (figures id hostName)
      (documents.map fun document => document.mapError streamFault)
    rw [List.map_map] at shows
    rw [name_of_known known]
    exact shows

/-- A document that was read an hour before the calendar begins. -/
def earlyDocument : Json := .object [("read", .text "0001-01-01T00:00:00+01:00")]

/-- A daemon that has only this document to give. -/
def earlyDaemon : Peers Unit where
  answer _ call _ :=
    match call with
    | .stats _ => (.ok earlyDocument, ())
    | .statsStream _ => (.ok [.ok earlyDocument], ())
    | .waitForever | .closeStatsStream _ => (.ok (), ())
    | _ => (.error ⟨.notFound, "no such page"⟩, ())
  deliver _ _ := (.undelivered, ())

def earlyFleet : Fleet := ⟨[⟨"far", "tcp://a"⟩], List.pairwise_singleton _ _⟩

/-- The document has the expected form, and yet the reader gets the error of the
calendar, at once or as the only thing that the stream shows. -/
theorem fails_before_the_calendar : ∃ snapshot after closed,
    Snapshot.decode earlyDocument = .ok snapshot ∧ snapshot.Exceeds .date ∧
    once earlyDaemon earlyFleet "far" "web" (.start ()) = .error (.range .date) after ∧
    follow earlyDaemon earlyFleet "far" "web" none (.start ()) =
      .ok ⟨[], some (.range .date)⟩ closed := by
  have early : figures "web" "far" earlyDocument = .error (.range .date) := rfl
  rcases fails_only_out_of_range earlyDaemon (rfl : earlyFleet.host "far" = _) "web" (.start ())
    with ⟨documents, reading, -⟩
  rcases documents "web" "far" earlyDocument with
    ⟨issues, -, malformed⟩ | ⟨snapshot, decoded, outcome⟩
  · cases early.symm.trans malformed
  rcases outcome with ⟨error, exceeds, failed⟩ | ⟨-, usage, given⟩
  · cases early.symm.trans failed
    exact ⟨snapshot, _, _, decoded, exceeds, reading _ _ rfl, rfl⟩
  · cases early.symm.trans given

end Stats
end ContainerFleet
