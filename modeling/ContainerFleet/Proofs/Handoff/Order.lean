import ContainerFleet.Handoff.Interleaving

/-!
# What reaches the reader, and in which order

However producer and reader interleave, each item of the stream is at every moment in
one of four places: with the producer, refused, on the way, or with the reader.  The mark
of the end goes behind the last item and nothing goes behind the mark.  From this follows
what a reader may conclude from the way in which his stream ended.

`handed_on` says it of every state that can arise.  `seen_iff_within` says that what
readers can see in all interleavings is what `Streamed.within` says, so that nothing is
lost when a stream is read without a look at its queue.

A fault is a value here and is passed on as it is.  A producer who gives up of his own
accord, as if a put had been refused, tells nobody: for the reader he is one who makes no
further move, and such runs are among those considered.
-/

namespace ContainerFleet
namespace Handoff

namespace Reader

variable {ε : Type}

/-- How often the source of a reader has been told to close. -/
def closings : Reader ε → Nat
  | .gone _ => 1
  | _ => 0

theorem reason?_of_reads {reader : Reader ε} (reads : reader.reads = true) :
    reader.reason? = none := by
  cases reader with
  | reading => rfl
  | stopping reason => cases reads
  | gone reason => cases reads

theorem closings_of_reads {reader : Reader ε} (reads : reader.reads = true) :
    reader.closings = 0 := by
  cases reader with
  | reading => rfl
  | stopping reason => rfl
  | gone reason => cases reads

end Reader

namespace State

variable {ε α : Type} {capacity : Nat} {stream : Streamed ε α} {before after : State ε α}

/-! ## What a move can do -/

/-- The moves by their effect.  A put is refused, an end untold and a parcel called back
only when the reader has stopped. -/
inductive Step (capacity : Nat) (state : State ε α) : Move → State ε α → Prop
  | emit {item : α} {later : List α} : state.isFree = true → state.reader.reads = true →
      state.ahead.items = item :: later →
      Step capacity state .emit { state with
        ahead := { state.ahead with items := later }
        inFlight := some (.item item)
        emitted := state.emitted ++ [item] }
  | refuse {item : α} {later : List α} : state.isFree = true → state.reader.reads = false →
      state.ahead.items = item :: later →
      Step capacity state .emit { state with
        ahead := { state.ahead with items := later }
        refused := state.refused ++ [item] }
  | finish : state.isFree = true → state.reader.reads = true → state.ahead.items = [] →
      Step capacity state .finish { state with working := false, inFlight := some state.lastParcel }
  | finishUntold : state.isFree = true → state.reader.reads = false → state.ahead.items = [] →
      Step capacity state .finish { state with working := false }
  | abandon : state.isFree = true → state.reader.reads = false →
      Step capacity state .abandon { state with working := false }
  | deliver {parcel : Parcel ε α} : state.inFlight = some parcel → state.queue.length < capacity →
      Step capacity state .deliver { state with
        inFlight := none
        queue := state.queue ++ [parcel] }
  | callBack : state.reader.reads = false →
      Step capacity state .callBack { state with inFlight := none }
  | take {parcel : Parcel ε α} {later : List (Parcel ε α)} : state.reader.reads = true →
      state.queue = parcel :: later →
      Step capacity state .take ({ state with queue := later }.receive parcel)
  | leave : state.reader.reads = true →
      Step capacity state .leave { state with reader := .stopping .left }
  | close {reason : Stop ε} {failing : Bool} : state.reader = .stopping reason →
      Step capacity state (.close failing)
        { state with reader := .gone reason, closings := state.closings + 1 }

theorem step_of_step? {move : Move} (stepped : before.step? capacity move = some after) :
    Step capacity before move after := by
  cases move with
  | emit =>
    rw [step?, emit?] at stepped
    split at stepped
    case h_2 => cases stepped
    case h_1 item later free items =>
      dsimp only at stepped
      split at stepped
      case isTrue reads =>
        cases stepped
        exact .emit free reads items
      case isFalse stopped =>
        cases stepped
        exact .refuse free (Bool.not_eq_true _ ▸ stopped) items
  | finish =>
    rw [step?, finish?] at stepped
    split at stepped
    case h_2 => cases stepped
    case h_1 free items =>
      dsimp only at stepped
      split at stepped
      case isTrue reads =>
        cases stepped
        exact .finish free reads items
      case isFalse stopped =>
        cases stepped
        exact .finishUntold free (Bool.not_eq_true _ ▸ stopped) items
  | abandon =>
    rw [step?, abandon?] at stepped
    split at stepped
    case isFalse => cases stepped
    case isTrue allowed =>
      cases stepped
      rw [Bool.and_eq_true, Bool.not_eq_true'] at allowed
      exact .abandon allowed.1 allowed.2
  | deliver =>
    rw [step?, deliver?] at stepped
    split at stepped
    case h_2 => cases stepped
    case h_1 parcel waits =>
      split at stepped
      case isFalse => cases stepped
      case isTrue room =>
        cases stepped
        exact .deliver waits room
  | callBack =>
    rw [step?, callBack?] at stepped
    split at stepped
    case isFalse => cases stepped
    case isTrue allowed =>
      cases stepped
      rw [Bool.and_eq_true, Bool.not_eq_true'] at allowed
      exact .callBack allowed.2
  | take =>
    rw [step?, take?] at stepped
    split at stepped
    case h_2 => cases stepped
    case h_1 parcel later reads queue =>
      cases stepped
      exact .take reads queue
  | leave =>
    rw [step?, leave?] at stepped
    split at stepped
    case isFalse => cases stepped
    case isTrue reads =>
      cases stepped
      exact .leave reads
  | close failing =>
    rw [step?, close?] at stepped
    split at stepped
    case h_2 => cases stepped
    case h_1 reason stopping =>
      cases stepped
      exact .close stopping

/-! ## What holds at every moment -/

/-- The parcels that the reader has not taken, in the order in which he will. -/
def waiting (state : State ε α) : List (Parcel ε α) :=
  state.queue ++ state.inFlight.toList

/-- The mark behind the last item, once the producer's loop has ended. -/
def mark (state : State ε α) : List (Parcel ε α) :=
  if state.working then [] else [state.lastParcel]

/-- While the reader reads: the items that he has not seen wait for him in order, with
nothing behind them but the mark, which is put when no item is left. -/
structure Underway (state : State ε α) (unseen : List α) : Prop where
  emitted : state.emitted = state.yielded ++ unseen
  waiting : state.waiting = unseen.map .item ++ state.mark
  unrefused : state.refused = []
  spent : state.working = false → state.ahead.items = []

theorem item?_lastParcel (state : State ε α) : state.lastParcel.item? = none := by
  rw [lastParcel]
  split <;> rfl

/-- The items that wait for the reader are those that he has not seen. -/
theorem items_of_underway {state : State ε α} {unseen : List α} (underway : state.Underway unseen) :
    state.waiting.filterMap Parcel.item? = unseen := by
  have noItem : state.mark.filterMap Parcel.item? = [] := by
    rw [mark]
    split
    · rfl
    · rw [List.filterMap_cons_none state.item?_lastParcel, List.filterMap_nil]
  rw [underway.waiting, List.filterMap_append, noItem, List.append_nil, List.filterMap_map]
  exact List.filterMap_some

/-- While the producer is between two parcels, only items are in the queue. -/
theorem Underway.queue_of_free {state : State ε α} {unseen : List α}
    (underway : state.Underway unseen) (free : state.isFree = true) :
    state.queue = unseen.map .item := by
  rw [isFree, Bool.and_eq_true, Option.isNone_iff_eq_none] at free
  have waiting := underway.waiting
  rw [State.waiting, mark, free.2, if_pos free.1, Option.toList, List.append_nil,
    List.append_nil] at waiting
  exact waiting

/-- The first parcel in the queue is the first item that the reader has not seen, or the
mark if he has seen all. -/
theorem Underway.first {state : State ε α} {unseen : List α} (underway : state.Underway unseen)
    {parcel : Parcel ε α} {later : List (Parcel ε α)} (queue : state.queue = parcel :: later) :
    (∃ value rest, parcel = .item value ∧ unseen = value :: rest ∧
      later ++ state.inFlight.toList = rest.map .item ++ state.mark) ∨
    (parcel = state.lastParcel ∧ unseen = [] ∧ state.working = false) := by
  have waiting := underway.waiting
  rw [State.waiting, queue, List.cons_append] at waiting
  cases unseen with
  | cons value rest =>
    rcases List.cons.inj waiting with ⟨same, restWaiting⟩
    exact .inl ⟨value, rest, same, rfl, restWaiting⟩
  | nil =>
    rw [List.map_nil, List.nil_append, mark] at waiting
    split at waiting
    case isTrue => cases waiting
    case isFalse idle =>
      exact .inr ⟨(List.cons.inj waiting).1, rfl, Bool.not_eq_true _ ▸ idle⟩

/-- The producer's loop has ended, and the reader has all items of the stream. -/
structure Complete (stream : Streamed ε α) (state : State ε α) : Prop where
  ended : state.working = false
  emitted : state.emitted = stream.items
  yielded : state.yielded = stream.items

/-- What stands behind the reason for which a reader stopped. -/
def Founded (stream : Streamed ε α) (state : State ε α) : Stop ε → Prop
  | .ended => stream.fault = none ∧ state.Complete stream
  | .failed fault => stream.fault = some fault ∧ state.Complete stream
  | .left => True

/-- What every move keeps. -/
structure Sound (capacity : Nat) (stream : Streamed ε α) (state : State ε α) : Prop where
  /-- Every item of the stream was put, was refused or is still to come. -/
  supply : state.emitted ++ (state.refused ++ state.ahead.items) = stream.items
  fault : state.ahead.fault = stream.fault
  yielded : state.yielded <+: state.emitted
  room : state.queue.length ≤ capacity
  reading : state.reader.reads = true → ∃ unseen, state.Underway unseen
  founded : ∀ reason, state.reader.reason? = some reason → Founded stream state reason
  closings : state.closings = state.reader.closings

theorem sound_start (capacity : Nat) (stream : Streamed ε α) :
    Sound capacity stream (start stream) where
  supply := rfl
  fault := rfl
  yielded := List.nil_prefix
  room := Nat.zero_le capacity
  reading := fun _ => ⟨[], rfl, rfl, rfl, fun wrong => nomatch wrong⟩
  founded := fun _ wrong => nomatch wrong
  closings := rfl

theorem working_of_free {state : State ε α} (free : state.isFree = true) :
    state.working = true := by
  rw [isFree, Bool.and_eq_true] at free
  exact free.1

/-- What the reader has stays founded whatever the producer still does. -/
theorem Founded.kept {reason : Stop ε} (founded : Founded stream before reason)
    (ended : before.working = false → after.working = false)
    (emitted : after.emitted = before.emitted) (yielded : after.yielded = before.yielded) :
    Founded stream after reason := by
  have complete : before.Complete stream → after.Complete stream := fun complete =>
    ⟨ended complete.ended, emitted.trans complete.emitted, yielded.trans complete.yielded⟩
  cases reason with
  | ended => exact ⟨founded.1, complete founded.2⟩
  | failed fault => exact ⟨founded.1, complete founded.2⟩
  | left => trivial

theorem founded_of_reads {state : State ε α} (reads : state.reader.reads = true) (reason : Stop ε)
    (stopped : state.reader.reason? = some reason) : Founded stream state reason := by
  rw [Reader.reason?_of_reads reads] at stopped
  cases stopped

theorem underway_of_stops {state : State ε α} (stopped : state.reader.reads = false)
    (reads : state.reader.reads = true) : ∃ unseen, state.Underway unseen := by
  cases stopped.symm.trans reads

theorem Sound.emit (sound : Sound capacity stream before) (free : before.isFree = true)
    (reads : before.reader.reads = true) {item : α} {later : List α}
    (items : before.ahead.items = item :: later) :
    Sound capacity stream { before with
      ahead := { before.ahead with items := later }
      inFlight := some (.item item)
      emitted := before.emitted ++ [item] } := by
  rcases sound.reading reads with ⟨unseen, underway⟩
  have working := working_of_free free
  refine { sound with
    supply := ?_
    yielded := sound.yielded.trans (List.prefix_append _ _)
    reading := fun _ => ⟨unseen ++ [item], ?_, ?_, underway.unrefused, ?_⟩
    founded := founded_of_reads reads }
  · have supply := sound.supply
    rw [underway.unrefused, items] at supply
    dsimp only
    rw [underway.unrefused, List.append_assoc]
    exact supply
  · dsimp only
    rw [underway.emitted, List.append_assoc]
  · rw [State.waiting, mark, if_pos working, List.append_nil, List.map_append]
    exact congrArg (· ++ [.item item]) (underway.queue_of_free free)
  · intro ended
    cases working.symm.trans ended

theorem Sound.refuse (sound : Sound capacity stream before)
    (stopped : before.reader.reads = false) {item : α} {later : List α}
    (items : before.ahead.items = item :: later) :
    Sound capacity stream { before with
      ahead := { before.ahead with items := later }
      refused := before.refused ++ [item] } := by
  refine { sound with
    supply := ?_
    reading := underway_of_stops stopped
    founded := ?_ }
  · have supply := sound.supply
    rw [items] at supply
    dsimp only
    rw [List.append_assoc]
    exact supply
  · exact fun reason told => (sound.founded reason told).kept id rfl rfl

theorem Sound.finish (sound : Sound capacity stream before) (free : before.isFree = true)
    (reads : before.reader.reads = true) (items : before.ahead.items = []) :
    Sound capacity stream
      { before with working := false, inFlight := some before.lastParcel } := by
  rcases sound.reading reads with ⟨unseen, underway⟩
  refine { sound with
    reading := fun _ => ⟨unseen, underway.emitted, ?_, underway.unrefused, fun _ => items⟩
    founded := founded_of_reads reads }
  rw [State.waiting, mark, if_neg Bool.false_ne_true]
  exact congrArg (· ++ [before.lastParcel]) (underway.queue_of_free free)

/-- A producer who ends when the reader has stopped tells nobody. -/
theorem Sound.quit (sound : Sound capacity stream before) (stopped : before.reader.reads = false) :
    Sound capacity stream { before with working := false } :=
  { sound with
    reading := underway_of_stops stopped
    founded := fun reason told => (sound.founded reason told).kept (fun _ => rfl) rfl rfl }

theorem Sound.deliver (sound : Sound capacity stream before) {parcel : Parcel ε α}
    (waits : before.inFlight = some parcel) (room : before.queue.length < capacity) :
    Sound capacity stream
      { before with inFlight := none, queue := before.queue ++ [parcel] } := by
  refine { sound with
    room := ?_
    reading := ?_
    founded := fun reason told => (sound.founded reason told).kept id rfl rfl }
  · rw [List.length_append]
    exact room
  · intro reads
    rcases sound.reading reads with ⟨unseen, underway⟩
    refine ⟨unseen, underway.emitted, ?_, underway.unrefused, underway.spent⟩
    have waiting := underway.waiting
    rw [State.waiting, waits] at waiting
    rw [State.waiting]
    dsimp only
    rw [Option.toList, List.append_nil]
    exact waiting

theorem Sound.callBack (sound : Sound capacity stream before)
    (stopped : before.reader.reads = false) :
    Sound capacity stream { before with inFlight := none } :=
  { sound with
    reading := underway_of_stops stopped
    founded := fun reason told => (sound.founded reason told).kept id rfl rfl }

/-- A reader who finds no item in front has seen all there are. -/
theorem Sound.complete_of_mark (sound : Sound capacity stream before)
    (reads : before.reader.reads = true) {parcel : Parcel ε α} {later : List (Parcel ε α)}
    (queue : before.queue = parcel :: later) (noItem : parcel.item? = none) :
    parcel = before.lastParcel ∧ before.Complete stream := by
  rcases sound.reading reads with ⟨unseen, underway⟩
  rcases underway.first queue with ⟨value, rest, rfl, -, -⟩ | ⟨last, rfl, ended⟩
  · cases noItem
  · have supply := sound.supply
    have emitted := underway.emitted
    rw [underway.unrefused, underway.spent ended, List.append_nil, List.append_nil] at supply
    rw [List.append_nil] at emitted
    exact ⟨last, ended, supply, emitted.symm.trans supply⟩

/-- A reader who stops leaves the parcels that he has not taken. -/
theorem Sound.stop (sound : Sound capacity stream before) (reads : before.reader.reads = true)
    (reason : Stop ε) (founded : Founded stream before reason) {queue : List (Parcel ε α)}
    (room : queue.length ≤ capacity) :
    Sound capacity stream { before with queue := queue, reader := .stopping reason } := by
  refine { sound with
    room := room
    reading := underway_of_stops rfl
    founded := ?_
    closings := ?_ }
  · intro other told
    cases told
    exact founded.kept id rfl rfl
  · exact sound.closings.trans (Reader.closings_of_reads reads)

theorem Sound.take (sound : Sound capacity stream before) (reads : before.reader.reads = true)
    {parcel : Parcel ε α} {later : List (Parcel ε α)} (queue : before.queue = parcel :: later) :
    Sound capacity stream ({ before with queue := later }.receive parcel) := by
  have room : later.length ≤ capacity := by
    have room := sound.room
    rw [queue, List.length_cons] at room
    exact Nat.le_of_succ_le room
  cases parcel with
  | item value =>
    rcases sound.reading reads with ⟨unseen, underway⟩
    rcases underway.first queue with ⟨first, rest, same, rfl, waiting⟩ | ⟨last, -, -⟩
    · cases same
      have emitted : before.emitted = before.yielded ++ [value] ++ rest := by
        rw [underway.emitted, List.append_assoc]
        rfl
      exact { sound with
        yielded := ⟨rest, emitted.symm⟩
        room := room
        reading := fun _ => ⟨rest, emitted, waiting, underway.unrefused, underway.spent⟩
        founded := founded_of_reads reads }
    · -- The mark is no item.
      cases (congrArg Parcel.item? last).trans before.item?_lastParcel
  | failure fault =>
    rcases sound.complete_of_mark reads queue rfl with ⟨last, complete⟩
    refine sound.stop reads (.failed fault) ⟨?_, complete⟩ room
    rw [lastParcel, sound.fault] at last
    split at last
    case h_1 found => rw [found, (Parcel.failure.inj last)]
    case h_2 => cases last
  | ending =>
    rcases sound.complete_of_mark reads queue rfl with ⟨last, complete⟩
    refine sound.stop reads .ended ⟨?_, complete⟩ room
    rw [lastParcel, sound.fault] at last
    split at last
    case h_1 => cases last
    case h_2 found => exact found

theorem Sound.close (sound : Sound capacity stream before) {reason : Stop ε}
    (stopping : before.reader = .stopping reason) :
    Sound capacity stream
      { before with reader := .gone reason, closings := before.closings + 1 } := by
  refine { sound with
    reading := underway_of_stops rfl
    founded := ?_
    closings := ?_ }
  · intro other told
    cases told
    exact (sound.founded reason (by rw [stopping]; rfl)).kept id rfl rfl
  · rw [sound.closings, stopping]
    rfl

theorem Sound.step (sound : Sound capacity stream before) {move : Move}
    (stepped : before.step? capacity move = some after) : Sound capacity stream after := by
  cases step_of_step? stepped with
  | emit free reads items => exact sound.emit free reads items
  | refuse free stopped items => exact sound.refuse stopped items
  | finish free reads items => exact sound.finish free reads items
  | finishUntold free stopped items => exact sound.quit stopped
  | abandon free stopped => exact sound.quit stopped
  | deliver waits room => exact sound.deliver waits room
  | callBack stopped => exact sound.callBack stopped
  | take reads queue => exact sound.take reads queue
  | leave reads => exact sound.stop reads .left trivial sound.room
  | close stopping => exact sound.close stopping

theorem Arises.sound {state : State ε α} (arises : Arises capacity stream state) :
    Sound capacity stream state :=
  arises.keeps (Sound capacity stream) (sound_start capacity stream)
    fun _ _ _ sound stepped => sound.step stepped

/-! ## After the reader has stopped -/

/-- What the reader has and why he stopped, once he has stopped, are as they were; items
put after that are refused. -/
structure Settled (state later : State ε α) (puts : Nat) : Prop where
  stopped : later.reader.reads = false
  reason : later.reader.reason? = state.reader.reason?
  yielded : later.yielded = state.yielded
  emitted : later.emitted = state.emitted
  refused : later.refused = state.refused ++ state.ahead.items.take puts
  ahead : later.ahead.items = state.ahead.items.drop puts

theorem settled_step (stopped : before.reader.reads = false) {move : Move}
    (stepped : before.step? capacity move = some after) :
    Settled before after (if move = .emit then 1 else 0) := by
  have nothing : before.refused = before.refused ++ before.ahead.items.take 0 :=
    (List.append_nil _).symm
  cases step_of_step? stepped with
  | emit free reads items => cases stopped.symm.trans reads
  | finish free reads items => cases stopped.symm.trans reads
  | take reads queue => cases stopped.symm.trans reads
  | leave reads => cases stopped.symm.trans reads
  | refuse free _ items =>
    refine ⟨stopped, rfl, rfl, rfl, ?_, ?_⟩
    · rw [items]
      rfl
    · rw [items]
      rfl
  | finishUntold free _ items => exact ⟨stopped, rfl, rfl, rfl, nothing, rfl⟩
  | abandon free _ => exact ⟨stopped, rfl, rfl, rfl, nothing, rfl⟩
  | deliver waits room => exact ⟨stopped, rfl, rfl, rfl, nothing, rfl⟩
  | callBack _ => exact ⟨stopped, rfl, rfl, rfl, nothing, rfl⟩
  | close stopping => exact ⟨rfl, by rw [stopping]; rfl, rfl, rfl, nothing, rfl⟩

theorem Settled.trans {first second third : State ε α} {puts more : Nat}
    (before : Settled first second puts) (after : Settled second third more) :
    Settled first third (puts + more) where
  stopped := after.stopped
  reason := after.reason.trans before.reason
  yielded := after.yielded.trans before.yielded
  emitted := after.emitted.trans before.emitted
  refused := by
    rw [after.refused, before.refused, before.ahead, List.append_assoc, ← List.take_add]
  ahead := by
    rw [after.ahead, before.ahead, List.drop_drop]

theorem settled_run {state later : State ε α} (stopped : state.reader.reads = false)
    {moves : List Move} (ran : run? capacity state moves = some later) :
    Settled state later (moves.count .emit) := by
  induction moves generalizing state with
  | nil =>
    cases ran
    exact ⟨stopped, rfl, rfl, rfl, (List.append_nil _).symm, rfl⟩
  | cons move moves inductionHypothesis =>
    rcases Option.bind_eq_some_iff.mp ran with ⟨middle, stepped, rest⟩
    have first := settled_step stopped stepped
    have settled := first.trans (inductionHypothesis first.stopped rest)
    rw [List.count_cons, Nat.add_comm]
    simpa using settled

/-! ## The hand-off -/

/-- In every interleaving the items reach the reader in order, none is lost while he
reads, and what he is told of the end is true.  Once he has stopped nothing reaches him
and every put is refused.  The source is closed when he goes and not again, and whether
that fails he does not learn. -/
theorem Arises.handed_on {state : State ε α} (arises : Arises capacity stream state) :
    state.yielded <+: state.emitted ∧ state.emitted <+: stream.items ∧
    (state.reader.reads = true → state.refused = [] ∧
      state.emitted = state.yielded ++ state.waiting.filterMap Parcel.item?) ∧
    state.queue.length ≤ capacity ∧
    (state.reader.reason? = some .ended → stream.fault = none ∧ state.Complete stream) ∧
    (∀ fault, state.reader.reason? = some (.failed fault) →
      stream.fault = some fault ∧ state.Complete stream) ∧
    (state.reader.reads = false → ∀ moves later, run? capacity state moves = some later →
      Settled state later (moves.count .emit)) ∧
    state.closings = state.reader.closings ∧
    ∀ reason, state.reader = .stopping reason → ∀ failing, ∃ later,
      state.step? capacity (.close failing) = some later ∧ later.reader = .gone reason ∧
      later.yielded = state.yielded := by
  have sound := arises.sound
  refine ⟨sound.yielded, ⟨_, sound.supply⟩, ?_, sound.room, sound.founded .ended,
    fun fault => sound.founded (.failed fault), fun stopped moves later => settled_run stopped,
    sound.closings, ?_⟩
  · intro reads
    rcases sound.reading reads with ⟨unseen, underway⟩
    refine ⟨underway.unrefused, ?_⟩
    rw [items_of_underway underway]
    exact underway.emitted
  · intro reason stopping failing
    refine ⟨{ state with reader := .gone reason, closings := state.closings + 1 }, ?_, rfl, rfl⟩
    rw [step?, close?, stopping]

/-- A reader leaves while a parcel waits for him and a third item is still to come, and
the source cannot be closed. -/
theorem Arises.third_put_refused : ∃ state later : State String Nat,
    Arises 1 ⟨[1, 2, 3], some "broken"⟩ state ∧ state.yielded = [1] ∧ state.emitted = [1, 2] ∧
    state.reader.reads = false ∧ run? 1 state [.emit, .close true] = some later ∧
    Settled state later 1 ∧ later.refused = [3] ∧ later.reader = .gone .left := by
  let state : State String Nat :=
    ⟨⟨[3], some "broken"⟩, true, none, [.item 2], [1, 2], [], [1], .stopping .left, 0⟩
  have arises : Arises 1 ⟨[1, 2, 3], some "broken"⟩ state :=
    ⟨[.emit, .deliver, .emit, .take, .deliver, .leave], rfl⟩
  rcases arises.handed_on with ⟨-, -, -, -, -, -, settles, -⟩
  exact ⟨state, _, arises, rfl, rfl, rfl, rfl, settles rfl [.emit, .close true] _ rfl, rfl, rfl⟩

/-- A reader who has stopped has seen the stream to its end or up to some item. -/
theorem Arises.seen_within {state : State ε α} (arises : Arises capacity stream state)
    {reason : Stop ε} (stopped : state.reader.reason? = some reason) :
    ∃ limit, state.seen = stream.within limit := by
  have sound := arises.sound
  have founded := sound.founded reason stopped
  rw [seen, stopped]
  cases reason with
  | ended =>
    rcases founded with ⟨fault, complete⟩
    rw [complete.yielded]
    exact ⟨none, congrArg (Streamed.mk stream.items) fault.symm⟩
  | failed fault =>
    rcases founded with ⟨passed, complete⟩
    rw [complete.yielded]
    exact ⟨none, congrArg (Streamed.mk stream.items) passed.symm⟩
  | left =>
    have shown : state.yielded <+: stream.items := sound.yielded.trans ⟨_, sound.supply⟩
    refine ⟨some state.yielded.length, ?_⟩
    rw [Streamed.within, Streamed.upTo, if_pos shown.length_le, ← List.prefix_iff_eq_take.mp shown]

/-! ## What a reader can see -/

theorem deliver_of_room (room : 0 < capacity) (ahead : Streamed ε α) (working : Bool)
    (parcel : Parcel ε α) (put seen : List α) :
    deliver? capacity ⟨ahead, working, some parcel, [], put, [], seen, .reading, 0⟩ =
      some ⟨ahead, working, none, [parcel], put, [], seen, .reading, 0⟩ :=
  if_pos room

/-- The producer puts some items, and the reader takes each as it comes. -/
def inTurn (items : List α) : List Move :=
  items.flatMap fun _ => [.emit, .deliver, .take]

theorem run?_inTurn (room : 0 < capacity) (seen items more : List α) (fault : Option ε) :
    run? capacity ⟨⟨items ++ more, fault⟩, true, none, [], seen, [], seen, .reading, 0⟩
        (inTurn items) =
      some ⟨⟨more, fault⟩, true, none, [], seen ++ items, [], seen ++ items, .reading, 0⟩ := by
  induction items generalizing seen with
  | nil =>
    rw [List.append_nil]
    rfl
  | cons item later inductionHypothesis =>
    have delivered := deliver_of_room room ⟨later ++ more, fault⟩ true (.item item)
      (seen ++ [item]) seen
    have rest := inductionHypothesis (seen ++ [item])
    rw [List.append_assoc, List.singleton_append] at rest
    rw [← rest]
    exact congrArg
      (Option.bind · fun state => run? capacity state (.take :: inTurn later)) delivered

/-- A reader who leaves after some items has seen these. -/
theorem arises_left (room : 0 < capacity) (items more : List α) (fault : Option ε) :
    ∃ state, Arises capacity ⟨items ++ more, fault⟩ state ∧ state.reader = .gone .left ∧
      state.seen = ⟨items, none⟩ := by
  refine ⟨⟨⟨more, fault⟩, true, none, [], items, [], items, .gone .left, 1⟩,
    ⟨inTurn items ++ [.leave, .close false], ?_⟩, rfl, rfl⟩
  rw [run?_append, start, run?_inTurn room [] items more fault]
  rfl

/-- A reader who reads on comes to the end of the stream. -/
theorem arises_at_end (room : 0 < capacity) (stream : Streamed ε α) :
    ∃ state reason, Arises capacity stream state ∧ state.reader = .gone reason ∧
      state.seen = stream := by
  rcases stream with ⟨items, fault⟩
  have all := run?_inTurn room [] items [] fault
  rw [List.append_nil, List.nil_append] at all
  have delivered := fun parcel => deliver_of_room room ⟨[], fault⟩ false parcel items items
  have told : ∀ reason, receive (⟨⟨[], fault⟩, false, none, [], items, [], items, .reading, 0⟩)
        (lastParcel ⟨⟨[], fault⟩, true, none, [], items, [], items, .reading, 0⟩) =
          ⟨⟨[], fault⟩, false, none, [], items, [], items, .stopping reason, 0⟩ →
      Arises capacity ⟨items, fault⟩
        ⟨⟨[], fault⟩, false, none, [], items, [], items, .gone reason, 1⟩ := by
    intro reason received
    refine ⟨inTurn items ++ [.finish, .deliver, .take, .close false], ?_⟩
    rw [run?_append, start, all]
    refine (congrArg (Option.bind · fun state => run? capacity state [.take, .close false])
      (delivered _)).trans ?_
    exact congrArg (run? capacity · [.close false]) received
  cases fault with
  | none => exact ⟨_, .ended, told .ended rfl, rfl, rfl⟩
  | some fault => exact ⟨_, .failed fault, told (.failed fault) rfl, rfl, rfl⟩

/-- What a reader can have seen when he has gone is the stream to its end or up to any
item. -/
theorem seen_iff_within (room : 0 < capacity) (shown : Streamed ε α) :
    (∃ state reason, Arises capacity stream state ∧ state.reader = .gone reason ∧
      state.seen = shown) ↔ ∃ limit, shown = stream.within limit := by
  constructor
  · rintro ⟨state, reason, arises, gone, rfl⟩
    exact arises.seen_within (by rw [gone]; rfl)
  · rintro ⟨limit, rfl⟩
    cases limit with
    | none => exact arises_at_end room stream
    | some limit =>
      rw [Streamed.within, Streamed.upTo]
      split
      · rcases arises_left room (stream.items.take limit) (stream.items.drop limit)
          stream.fault with ⟨state, arises, gone, seen⟩
        rw [List.take_append_drop] at arises
        exact ⟨state, .left, arises, gone, seen⟩
      · exact arises_at_end room stream

end State
end Handoff
end ContainerFleet
