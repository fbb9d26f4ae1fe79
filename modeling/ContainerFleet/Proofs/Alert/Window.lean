import ContainerFleet.Alert.Store
import ContainerFleet.Proofs.Alert.Crossing
import Mathlib.Data.List.Forall2
import Mathlib.Data.List.Induction

/-!
# A history as a window on a log

The log of a history is unbounded: it has every alert added since the history was
last cleared, each with the operations that were performed after it was added.  The
history shows the newest entries of the log.  Which of them are acknowledged follows
from the operations alone: an alert is out of reach as soon as as many alerts were
added after it as the history has room for, and an acknowledgement by an id reaches
the newest alert of that id.
-/

namespace ContainerFleet
namespace Alert
namespace History

namespace Operation

/-- The alert that an operation adds. -/
def added? : Operation → Option Alert
  | .add alert => some alert
  | _ => none

def clears : Operation → Bool
  | .clear => true
  | _ => false

/-- The operation acknowledges an alert after which the others were added. -/
def Reaches (operation : Operation) (alert : Alert) (newer : List Alert) : Prop :=
  operation = .acknowledgeAll ∨
    operation = .acknowledge alert.id ∧ ∀ other ∈ newer, other.id ≠ alert.id

end Operation

/-- The alerts that some operations add, oldest first. -/
def addedBy (operations : List Operation) : List Alert :=
  operations.filterMap Operation.added?

/-- The alerts added since the last clearing, newest first, each with the operations
that came after it. -/
def log : List Operation → List (Alert × List Operation)
  | [] => []
  | operation :: later =>
    match operation.added? with
    | some alert => if later.any Operation.clears then log later else log later ++ [(alert, later)]
    | none => log later

/-- An alert was added as acknowledged, or one of the later operations reached it
while there was still room for it. -/
def Settled (capacity : Nat) (alert : Alert) (later : List Operation) : Prop :=
  alert.acknowledged = true ∨
    ∃ before operation after, later = before ++ operation :: after ∧
      (addedBy before).length < capacity ∧ operation.Reaches alert (addedBy before)

/-- An alert as a history shows an entry of its log: as it was added, but for its
acknowledgement. -/
def Shows (capacity : Nat) (shown : Alert) (entry : Alert × List Operation) : Prop :=
  shown = { entry.1 with acknowledged := shown.acknowledged } ∧
    (shown.acknowledged = true ↔ Settled capacity entry.1 entry.2)

/-- An entry of a log after one more operation. -/
def extend (operation : Operation) (entry : Alert × List Operation) : Alert × List Operation :=
  (entry.1, entry.2 ++ [operation])

/-! ## The log -/

theorem addedBy_snoc (operations : List Operation) (operation : Operation) :
    addedBy (operations ++ [operation]) = addedBy operations ++ operation.added?.toList := by
  rw [addedBy, List.filterMap_append, addedBy]
  cases operation <;> rfl

theorem log_snoc_add (operations : List Operation) (alert : Alert) :
    log (operations ++ [.add alert]) =
      (alert, []) :: (log operations).map (extend (.add alert)) := by
  induction operations with
  | nil => rfl
  | cons first later inductionHypothesis =>
    have uncleared : (later ++ [Operation.add alert]).any Operation.clears =
        later.any Operation.clears := by
      rw [List.any_append]
      exact Bool.or_false _
    rw [List.cons_append, log, log, inductionHypothesis, uncleared]
    cases first.added? with
    | none => rfl
    | some older =>
      dsimp only
      split
      · rfl
      · rw [List.map_append, List.cons_append]
        rfl

theorem log_snoc_clear (operations : List Operation) : log (operations ++ [.clear]) = [] := by
  induction operations with
  | nil => rfl
  | cons first later inductionHypothesis =>
    have cleared : (later ++ [Operation.clear]).any Operation.clears = true := by
      rw [List.any_append]
      exact Bool.or_true _
    rw [List.cons_append, log, inductionHypothesis, cleared]
    cases first.added? <;> rfl

theorem log_snoc_of_keeps {operation : Operation} (adds : operation.added? = none)
    (clears : operation.clears = false) (operations : List Operation) :
    log (operations ++ [operation]) = (log operations).map (extend operation) := by
  induction operations with
  | nil => simp only [List.nil_append, log, adds, List.map_nil]
  | cons first later inductionHypothesis =>
    have uncleared : (later ++ [operation]).any Operation.clears =
        later.any Operation.clears := by
      rw [List.any_append, List.any_cons, List.any_nil, clears, Bool.or_false, Bool.or_false]
    rw [List.cons_append, log, log, inductionHypothesis, uncleared]
    cases first.added? with
    | none => rfl
    | some older =>
      dsimp only
      split
      · rfl
      · rw [List.map_append]
        rfl

/-- Behind each entry the later operations added just the entries before it. -/
def Queued : (newer : List Alert) → List (Alert × List Operation) → Prop
  | _, [] => True
  | newer, (alert, later) :: older => addedBy later = newer ∧ Queued (alert :: newer) older

theorem Queued.extend {newer : List Alert} {entries : List (Alert × List Operation)}
    (queued : Queued newer entries) (operation : Operation) :
    Queued (newer ++ operation.added?.toList) (entries.map (extend operation)) := by
  induction entries generalizing newer with
  | nil => trivial
  | cons entry older inductionHypothesis =>
    rcases queued with ⟨added, queued⟩
    exact ⟨by rw [addedBy_snoc, added], inductionHypothesis queued⟩

theorem Queued.take {newer : List Alert} {entries : List (Alert × List Operation)}
    (queued : Queued newer entries) (count : Nat) : Queued newer (entries.take count) := by
  induction entries generalizing newer count with
  | nil =>
    rw [List.take_nil]
    trivial
  | cons entry older inductionHypothesis =>
    cases count with
    | zero => trivial
    | succ count => exact ⟨queued.1, inductionHypothesis queued.2 count⟩

theorem queued_log (operations : List Operation) : Queued [] (log operations) := by
  induction operations using List.reverseRecOn with
  | nil => trivial
  | append_singleton operations operation inductionHypothesis =>
    have extended := inductionHypothesis.extend operation
    cases operation with
    | add alert =>
      rw [log_snoc_add]
      exact ⟨rfl, extended⟩
    | clear =>
      rw [log_snoc_clear]
      trivial
    | all | recent | acknowledge | acknowledgeAll | pending | size =>
      rw [log_snoc_of_keeps rfl rfl]
      exact extended

/-! ## What one more operation does to the entries shown -/

/-- Only the last operation and what was settled before it decide what is settled. -/
theorem settled_snoc (capacity : Nat) (alert : Alert) (later : List Operation)
    (operation : Operation) :
    Settled capacity alert (later ++ [operation]) ↔
      Settled capacity alert later ∨
        (addedBy later).length < capacity ∧ operation.Reaches alert (addedBy later) := by
  constructor
  · rintro (born | ⟨before, reaching, after, same, room, reaches⟩)
    · exact .inl (.inl born)
    · rcases snoc_cases same with ⟨-, rfl, rfl⟩ | ⟨others, rfl, rfl⟩
      · exact .inr ⟨room, reaches⟩
      · exact .inl (.inr ⟨before, reaching, others, rfl, room, reaches⟩)
  · rintro ((born | ⟨before, reaching, after, rfl, room, reaches⟩) | ⟨room, reaches⟩)
    · exact .inl born
    · refine .inr ⟨before, reaching, after ++ [operation], ?_, room, reaches⟩
      rw [List.append_assoc, List.cons_append]
    · exact .inr ⟨later, operation, [], rfl, room, reaches⟩

theorem Shows.passed {capacity : Nat} {shown : Alert} {entry : Alert × List Operation}
    (shows : Shows capacity shown entry) {operation : Operation}
    (misses : ¬ operation.Reaches entry.1 (addedBy entry.2)) :
    Shows capacity shown (extend operation entry) := by
  refine ⟨shows.1, shows.2.trans ?_⟩
  rw [extend, settled_snoc]
  exact ⟨.inl, fun settled => settled.resolve_right fun ⟨_, reaches⟩ => misses reaches⟩

theorem Shows.reached {capacity : Nat} {shown : Alert} {entry : Alert × List Operation}
    (shows : Shows capacity shown entry) {operation : Operation}
    (room : (addedBy entry.2).length < capacity)
    (reaches : operation.Reaches entry.1 (addedBy entry.2)) :
    Shows capacity shown.acknowledge (extend operation entry) := by
  refine ⟨?_, ?_⟩
  · rw [Alert.acknowledge]
    conv_lhs => rw [shows.1]
    rfl
  · rw [extend, settled_snoc]
    exact iff_of_true rfl (.inr ⟨room, reaches⟩)

/-- An operation that acknowledges nothing leaves the alerts as they are shown. -/
theorem shows_passed {capacity : Nat} {alerts : List Alert}
    {entries : List (Alert × List Operation)} {operation : Operation}
    (misses : ∀ alert newer, ¬ operation.Reaches alert newer)
    (window : List.Forall₂ (Shows capacity) alerts entries) :
    List.Forall₂ (Shows capacity) alerts (entries.map (extend operation)) := by
  rw [List.forall₂_map_right_iff]
  exact window.imp fun _ _ shows => shows.passed (misses _ _)

/-- All alerts are acknowledged at once. -/
theorem shows_acknowledgeAll {capacity : Nat} {newer alerts : List Alert}
    {entries : List (Alert × List Operation)} (queued : Queued newer entries)
    (room : newer.length + entries.length ≤ capacity)
    (window : List.Forall₂ (Shows capacity) alerts entries) :
    List.Forall₂ (Shows capacity) (alerts.map Alert.acknowledge)
      (entries.map (extend .acknowledgeAll)) := by
  induction window generalizing newer with
  | nil => exact .nil
  | @cons shown entry alerts entries shows window inductionHypothesis =>
    rcases queued with ⟨added, queued⟩
    rw [List.length_cons] at room
    refine .cons (shows.reached ?_ (.inl rfl)) (inductionHypothesis queued ?_)
    · rw [added]
      omega
    · rw [List.length_cons]
      omega

/-- An acknowledgement by an id passes over all entries once a newer one has the id. -/
theorem shows_shadowed {capacity : Nat} {newer alerts : List Alert} {id : String}
    {entries : List (Alert × List Operation)} (queued : Queued newer entries)
    (shadowed : ∃ other ∈ newer, other.id = id)
    (window : List.Forall₂ (Shows capacity) alerts entries) :
    List.Forall₂ (Shows capacity) alerts (entries.map (extend (.acknowledge id))) := by
  induction window generalizing newer with
  | nil => exact .nil
  | @cons shown entry alerts entries shows window inductionHypothesis =>
    rcases queued with ⟨added, queued⟩
    rcases shadowed with ⟨other, member, rfl⟩
    refine .cons (shows.passed ?_)
      (inductionHypothesis queued ⟨other, List.mem_cons_of_mem _ member, rfl⟩)
    rintro (wrong | ⟨same, newest⟩)
    · cases wrong
    · injection same with same
      exact newest other (added ▸ member) same

/-- An acknowledgement by an id reaches the first entry that has it. -/
theorem shows_acknowledgeIn {capacity : Nat} {newer alerts : List Alert} {id : String}
    {entries : List (Alert × List Operation)} (queued : Queued newer entries)
    (room : newer.length + entries.length ≤ capacity)
    (unseen : ∀ other ∈ newer, other.id ≠ id)
    (window : List.Forall₂ (Shows capacity) alerts entries) :
    List.Forall₂ (Shows capacity) (acknowledgeIn id alerts)
      (entries.map (extend (.acknowledge id))) := by
  induction window generalizing newer with
  | nil => exact .nil
  | @cons shown entry alerts entries shows window inductionHypothesis =>
    rcases queued with ⟨added, queued⟩
    rw [List.length_cons] at room
    have sameId : shown.id = entry.1.id := by rw [shows.1]
    rw [acknowledgeIn]
    by_cases same : shown.id = id
    · have hit : entry.1.id = id := sameId.symm.trans same
      rw [if_pos same]
      refine .cons (shows.reached ?_ (.inr ⟨by rw [hit], ?_⟩))
        (shows_shadowed queued ⟨entry.1, List.mem_cons_self, hit⟩ window)
      · rw [added]
        omega
      · rw [added, hit]
        exact unseen
    · rw [if_neg same]
      refine .cons (shows.passed ?_) (inductionHypothesis queued ?_ ?_)
      · rintro (wrong | ⟨hit, -⟩)
        · cases wrong
        · injection hit with hit
          exact same (sameId.trans hit.symm)
      · rw [List.length_cons]
        omega
      · intro other member
        rcases List.mem_cons.mp member with rfl | member
        · exact fun hit => same (sameId.trans hit)
        · exact unseen other member

/-! ## Every sequence of operations -/

/-- The history shows the newest entries of the log of the operations. -/
def IsWindow (history : History) (operations : List Operation) : Prop :=
  List.Forall₂ (Shows history.capacity) history.alerts
    ((log operations).take history.capacity)

theorem performAll_snoc (history : History) (operations : List Operation)
    (operation : Operation) :
    history.performAll (operations ++ [operation]) =
      ((history.performAll operations).perform operation).2 := by
  rw [performAll, List.foldl_append]
  rfl

theorem IsWindow.perform {history : History} {operations : List Operation}
    (window : history.IsWindow operations) (operation : Operation) :
    (history.perform operation).2.IsWindow (operations ++ [operation]) := by
  have queued := (queued_log operations).take history.capacity
  have room : ([] : List Alert).length + ((log operations).take history.capacity).length ≤
      history.capacity := by
    rw [List.length_nil, Nat.zero_add]
    exact List.length_take_le _ _
  rw [IsWindow] at window ⊢
  have passed : ∀ operation : Operation, (∀ alert newer, ¬ operation.Reaches alert newer) →
      List.Forall₂ (Shows history.capacity) history.alerts
        (((log operations).map (extend operation)).take history.capacity) := by
    intro operation misses
    rw [← List.map_take]
    exact shows_passed misses window
  cases operation with
  | add alert =>
    have others := passed (.add alert) fun _ _ => by
      rintro (wrong | ⟨wrong, -⟩) <;> cases wrong
    have first : Shows history.capacity alert (alert, []) := by
      refine ⟨rfl, .inl, ?_⟩
      rintro (born | ⟨before, reaching, after, same, -⟩)
      · exact born
      · exact absurd same.symm (List.append_ne_nil_of_right_ne_nil _ (List.cons_ne_nil _ _))
    rw [log_snoc_add]
    rcases Nat.exists_eq_succ_of_ne_zero (Nat.ne_of_gt history.room) with ⟨count, capacity⟩
    have shortened := List.forall₂_take count others
    rw [List.take_take, capacity, Nat.min_eq_left (Nat.le_succ count)] at shortened
    simp only [History.perform, History.add]
    rw [capacity, List.take_succ_cons, List.take_succ_cons]
    exact .cons (capacity ▸ first) shortened
  | acknowledge id =>
    rw [perform_acknowledge, log_snoc_of_keeps rfl rfl]
    dsimp only [History.acknowledge]
    rw [← List.map_take]
    exact shows_acknowledgeIn queued room (fun _ member => absurd member List.not_mem_nil) window
  | acknowledgeAll =>
    rw [perform_acknowledgeAll, log_snoc_of_keeps rfl rfl]
    dsimp only [History.acknowledgeAll]
    rw [← List.map_take]
    exact shows_acknowledgeAll queued room window
  | clear =>
    rw [log_snoc_clear, List.take_nil]
    exact .nil
  | all | recent | pending | size =>
    rw [log_snoc_of_keeps rfl rfl]
    exact passed _ fun _ _ => by rintro (wrong | ⟨wrong, -⟩) <;> cases wrong

theorem IsWindow.performAll (history : History) (fresh : history.alerts = [])
    (operations : List Operation) :
    (history.performAll operations).capacity = history.capacity ∧
      (history.performAll operations).IsWindow operations := by
  induction operations using List.reverseRecOn with
  | nil =>
    refine ⟨rfl, ?_⟩
    rw [IsWindow, log, List.take_nil]
    exact fresh ▸ .nil
  | append_singleton operations operation inductionHypothesis =>
    rcases inductionHypothesis with ⟨capacity, window⟩
    rw [performAll_snoc]
    refine ⟨Eq.trans ?_ capacity, window.perform operation⟩
    cases operation <;> rfl

/-- What a history answers, told by the alerts that it shows. -/
def answer (history : History) : Operation → Answer
  | .add _ | .clear => .done
  | .all => .alerts history.alerts
  | .recent limit =>
    .alerts (if 0 < limit ∧ limit ≤ history.alerts.length then history.alerts.take limit.toNat
      else history.alerts)
  | .acknowledge id => .acknowledged (decide (∃ alert ∈ history.alerts, alert.id = id))
  | .acknowledgeAll | .pending => .count history.pending
  | .size => .count history.alerts.length

/-- Why an operation may leave fewer alerts pending: it acknowledges a pending one,
pushes out a pending one, or takes all of them. -/
def Relieves (history : History) : Operation → Prop
  | .acknowledgeAll | .clear => True
  | .acknowledge id => ∃ newer alert older, history.alerts = newer ++ alert :: older ∧
      alert.id = id ∧ (∀ other ∈ newer, other.id ≠ id) ∧ alert.acknowledged = false
  | .add _ => ∃ newer oldest, history.alerts = newer ++ [oldest] ∧
      history.alerts.length = history.capacity ∧ oldest.acknowledged = false
  | _ => False

theorem recent_eq (history : History) (limit : Int) :
    history.recent limit =
      if 0 < limit ∧ limit ≤ history.alerts.length then history.alerts.take limit.toNat
      else history.alerts := by
  rw [recent]
  by_cases low : limit ≤ 0
  · rw [if_pos low, if_neg (by omega)]
  · rw [if_neg low]
    by_cases high : limit ≤ history.alerts.length
    · rw [if_pos ⟨by omega, high⟩]
    · rw [if_neg (by omega), List.take_of_length_le (by omega)]

theorem answer_eq (history : History) (operation : Operation) :
    (history.perform operation).1 = history.answer operation := by
  cases operation with
  | recent limit => rw [perform, answer, recent_eq]
  | acknowledge id =>
    rw [perform_acknowledge, answer, holds]
    refine congrArg Answer.acknowledged ?_
    rw [Bool.eq_iff_iff, List.any_eq_true, decide_eq_true_iff]
    simp only [decide_eq_true_iff]
  | acknowledgeAll => rw [perform_acknowledgeAll, answer]
  | add | all | pending | size | clear => rfl

theorem pending_acknowledgeAll (history : History) : history.acknowledgeAll.pending = 0 := by
  rw [pending, List.countP_eq_zero]
  intro alert member
  rcases List.mem_map.mp member with ⟨before, -, rfl⟩
  exact Bool.false_ne_true

/-- An acknowledgement by an id that lowers the count of pending alerts finds the
first alert of the id pending. -/
theorem relieved_of_acknowledgeIn {alerts : List Alert} {id : String}
    (fewer : (acknowledgeIn id alerts).countP (fun alert => !alert.acknowledged) <
      alerts.countP fun alert => !alert.acknowledged) :
    ∃ newer alert older, alerts = newer ++ alert :: older ∧ alert.id = id ∧
      (∀ other ∈ newer, other.id ≠ id) ∧ alert.acknowledged = false := by
  induction alerts with
  | nil => exact absurd fewer (Nat.lt_irrefl _)
  | cons alert later inductionHypothesis =>
    rw [acknowledgeIn] at fewer
    by_cases same : alert.id = id
    · rw [if_pos same, List.countP_cons, List.countP_cons] at fewer
      refine ⟨[], alert, later, rfl, same, fun _ member => absurd member List.not_mem_nil, ?_⟩
      cases flag : alert.acknowledged with
      | false => rfl
      | true => simp [flag, Alert.acknowledge] at fewer
    · rw [if_neg same, List.countP_cons, List.countP_cons] at fewer
      rcases inductionHypothesis (Nat.lt_of_add_lt_add_right fewer) with
        ⟨newer, hit, older, rfl, found, unseen, open_⟩
      refine ⟨alert :: newer, hit, older, rfl, found, ?_, open_⟩
      intro other member
      rcases List.mem_cons.mp member with rfl | member
      · exact same
      · exact unseen other member

/-- A new alert lowers the count of pending alerts only by pushing one out. -/
theorem relieved_of_add {history : History} {alert : Alert}
    (fewer : (history.add alert).pending < history.pending) :
    ∃ newer oldest, history.alerts = newer ++ [oldest] ∧
      history.alerts.length = history.capacity ∧ oldest.acknowledged = false := by
  have shown : (history.add alert).alerts =
      (alert :: history.alerts).take history.capacity := rfl
  rw [pending, pending, shown] at fewer
  have full : history.alerts.length = history.capacity := by
    refine Nat.le_antisymm history.fits (Nat.le_of_not_lt fun free => ?_)
    rw [List.take_of_length_le (List.length_cons ▸ free), List.countP_cons] at fewer
    exact Nat.not_lt.mpr (Nat.le_add_right _ _) fewer
  rcases List.eq_nil_or_concat history.alerts with empty | ⟨newer, oldest, alerts⟩
  · rw [empty] at fewer
    exact absurd fewer (Nat.not_lt_zero _)
  · rw [List.concat_eq_append] at alerts
    refine ⟨newer, oldest, alerts, full, ?_⟩
    rw [alerts, List.length_append, List.length_singleton] at full
    rw [alerts, ← full, List.take_succ_cons, List.take_left, List.countP_cons,
      List.countP_append, List.countP_singleton] at fewer
    cases flag : oldest.acknowledged with
    | false => rfl
    | true =>
      rw [flag] at fewer
      exact absurd fewer (Nat.not_lt.mpr (Nat.le_add_right _ _))

theorem relieves_of_fewer {history : History} {operation : Operation}
    (fewer : (history.perform operation).2.pending < history.pending) :
    history.Relieves operation := by
  cases operation with
  | add alert => exact relieved_of_add fewer
  | acknowledge id =>
    rw [perform_acknowledge] at fewer
    exact relieved_of_acknowledgeIn fewer
  | acknowledgeAll | clear => trivial
  | all | recent | pending | size => exact absurd fewer (Nat.lt_irrefl _)

/-- A history of a given size can be opened.  After every sequence of operations it
shows the newest entries of their log, it answers each operation by what it shows, it
has nothing pending once all is acknowledged, and its pending alerts become fewer only
by an acknowledgement, by being pushed out or by clearing. -/
theorem window_of_log (size : Int) (positive : 1 ≤ size) :
    ∃ empty, withCapacity size = .ok empty ∧ ∀ operations,
      List.Forall₂ (Shows size.toNat) (empty.performAll operations).alerts
        ((log operations).take size.toNat) ∧
      (∀ operation, ((empty.performAll operations).perform operation).1 =
        (empty.performAll operations).answer operation) ∧
      ((empty.performAll operations).perform .acknowledgeAll).2.pending = 0 ∧
      ∀ operation, ((empty.performAll operations).perform operation).2.pending <
          (empty.performAll operations).pending →
        (empty.performAll operations).Relieves operation := by
  have room : 0 < size.toNat := by omega
  refine ⟨⟨size.toNat, [], room, Nat.zero_le _⟩, dif_pos room, fun operations => ?_⟩
  rcases IsWindow.performAll ⟨size.toNat, [], room, Nat.zero_le _⟩ rfl operations with
    ⟨capacity, window⟩
  rw [IsWindow, capacity] at window
  refine ⟨window, answer_eq _, ?_, fun _ => relieves_of_fewer⟩
  rw [perform_acknowledgeAll]
  exact pending_acknowledgeAll _

/-- An alert of a given id, as it is raised. -/
def raisedAs (id message : String) : Alert :=
  ⟨id, .stopped, "c", "", "a", message, none, none, 0, false⟩

/-- Of two alerts of one id the newer one is acknowledged; the older one is out of
reach once it was pushed out. -/
theorem window_after_eviction : (1 : Int) ≤ 2 ∧ ∃ empty, withCapacity 2 = .ok empty ∧
    (empty.performAll [.add (raisedAs "x" "first"), .add (raisedAs "x" "second"),
        .acknowledge "x", .add (raisedAs "y" "third"), .acknowledge "x"]).alerts =
      [raisedAs "y" "third", (raisedAs "x" "second").acknowledge] := by
  refine ⟨by decide, ?_⟩
  rcases window_of_log 2 (by decide) with ⟨empty, opened, windows⟩
  refine ⟨empty, opened, ?_⟩
  have window := (windows [.add (raisedAs "x" "first"), .add (raisedAs "x" "second"),
    .acknowledge "x", .add (raisedAs "y" "third"), .acknowledge "x"]).1
  have entries : (log [.add (raisedAs "x" "first"), .add (raisedAs "x" "second"),
      .acknowledge "x", .add (raisedAs "y" "third"), .acknowledge "x"]).take 2 =
      [(raisedAs "y" "third", [.acknowledge "x"]),
        (raisedAs "x" "second", [.acknowledge "x", .add (raisedAs "y" "third"),
          .acknowledge "x"])] := rfl
  have passed : ¬ Settled 2 (raisedAs "y" "third") ([] ++ [.acknowledge "x"]) := by
    rw [settled_snoc]
    rintro ((born | ⟨before, reaching, after, same, -⟩) | ⟨-, wrong | ⟨other, -⟩⟩)
    · cases born
    · exact absurd same.symm (List.append_ne_nil_of_right_ne_nil _ (List.cons_ne_nil _ _))
    · cases wrong
    · injection other with other
      exact absurd other (by decide)
  have reached : Settled 2 (raisedAs "x" "second") [.acknowledge "x",
      .add (raisedAs "y" "third"), .acknowledge "x"] :=
    .inr ⟨[], .acknowledge "x", _, rfl, by decide, .inr ⟨rfl, fun _ member => nomatch member⟩⟩
  rw [show (2 : Int).toNat = 2 from rfl, entries] at window
  generalize (empty.performAll _).alerts = alerts at window
  rcases window with - | ⟨third, - | ⟨second, ⟨⟩⟩⟩
  rw [third.1, second.1, Bool.eq_false_iff.mpr fun flag => passed (third.2.mp flag),
    second.2.mpr reached]
  rfl

end History
end Alert
end ContainerFleet
