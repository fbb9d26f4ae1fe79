import ContainerFleet.Alert.History

/-!
# Asking a history

What can be asked of a history and what it answers.  Acknowledging goes through the
alerts one after another, newest first, and answers what it came to on the way.
-/

namespace ContainerFleet
namespace Alert
namespace History

/-- What can be asked of a history. -/
inductive Operation where
  | add (alert : Alert)
  | all
  | recent (limit : Int)
  | acknowledge (id : String)
  | acknowledgeAll
  | pending
  | size
  | clear

/-- What a history answers. -/
inductive Answer where
  | done
  | alerts (alerts : List Alert)
  | acknowledged (found : Bool)
  | count (number : Nat)

/-- Acknowledge the first alert of an id, and say whether there is one. -/
def markFirst (id : String) : List Alert → Bool × List Alert
  | [] => (false, [])
  | alert :: later =>
    if alert.id = id then (true, alert.acknowledge :: later)
    else
      let (found, marked) := markFirst id later
      (found, alert :: marked)

/-- Acknowledge the alerts that are not acknowledged, and count them. -/
def markAll : List Alert → Nat × List Alert
  | [] => (0, [])
  | alert :: later =>
    let (count, marked) := markAll later
    if alert.acknowledged then (count, alert :: marked) else (count + 1, alert.acknowledge :: marked)

theorem markFirst_eq (id : String) (alerts : List Alert) :
    markFirst id alerts = (alerts.any fun alert => alert.id = id, acknowledgeIn id alerts) := by
  induction alerts with
  | nil => rfl
  | cons alert later inductionHypothesis =>
    rw [markFirst, acknowledgeIn, List.any_cons, inductionHypothesis]
    by_cases same : alert.id = id <;> simp [same]

theorem markAll_eq (alerts : List Alert) :
    markAll alerts =
      (alerts.countP fun alert => !alert.acknowledged, alerts.map Alert.acknowledge) := by
  induction alerts with
  | nil => rfl
  | cons alert later inductionHypothesis =>
    rw [markAll, inductionHypothesis, List.countP_cons, List.map_cons]
    cases flag : alert.acknowledged with
    | false => simp
    | true =>
      have same : alert.acknowledge = alert := by
        rw [Alert.acknowledge, ← flag]
      simp [same]

/-- Perform an operation: the answer and the history after it. -/
def perform (history : History) : Operation → Answer × History
  | .add alert => (.done, history.add alert)
  | .all => (.alerts history.alerts, history)
  | .recent limit => (.alerts (history.recent limit), history)
  | .acknowledge id =>
    (.acknowledged (markFirst id history.alerts).1,
      { history with
        alerts := (markFirst id history.alerts).2
        fits := by rw [markFirst_eq, length_acknowledgeIn]; exact history.fits })
  | .acknowledgeAll =>
    (.count (markAll history.alerts).1,
      { history with
        alerts := (markAll history.alerts).2
        fits := by rw [markAll_eq, List.length_map]; exact history.fits })
  | .pending => (.count history.pending, history)
  | .size => (.count history.alerts.length, history)
  | .clear => (.done, history.clear)

/-- Perform some operations one after another. -/
def performAll (history : History) (operations : List Operation) : History :=
  operations.foldl (fun history operation => (history.perform operation).2) history

theorem perform_acknowledge (history : History) (id : String) :
    history.perform (.acknowledge id) =
      (.acknowledged (history.holds id), history.acknowledge id) := by
  simp only [perform, markFirst_eq, holds, acknowledge]

theorem perform_acknowledgeAll (history : History) :
    history.perform .acknowledgeAll = (.count history.pending, history.acknowledgeAll) := by
  simp only [perform, markAll_eq, pending, acknowledgeAll]

end History
end Alert
end ContainerFleet
