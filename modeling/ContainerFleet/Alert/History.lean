import ContainerFleet.Alert.Basic
import ContainerFleet.Fault

/-!
# History of alerts

The newest alerts, newest first.  The history has room for a fixed number of
them; a new alert pushes out the oldest.
-/

namespace ContainerFleet
namespace Alert

/-- A bounded list of alerts, newest first. -/
structure History where
  capacity : Nat
  alerts : List Alert
  room : 0 < capacity
  fits : alerts.length ≤ capacity

namespace History

/-- How many alerts are kept where nothing else is said. -/
def defaultCapacity : Int := 100

/-- An empty history for a number of alerts, which must be at least one. -/
def withCapacity (capacity : Int) : Except Fault History :=
  if room : 0 < capacity.toNat then .ok ⟨capacity.toNat, [], room, Nat.zero_le _⟩
  else .error .historySize

/-- Put an alert in front. -/
def add (history : History) (alert : Alert) : History :=
  { history with
    alerts := (alert :: history.alerts).take history.capacity
    fits := by simp only [List.length_take]; omega }

/-- The newest alerts, all of them unless `limit` is positive. -/
def recent (history : History) (limit : Int) : List Alert :=
  if limit ≤ 0 then history.alerts else history.alerts.take limit.toNat

/-- How many alerts are not acknowledged. -/
def pending (history : History) : Nat :=
  history.alerts.countP fun alert => !alert.acknowledged

/-- Acknowledge the first alert of an id in a list. -/
def acknowledgeIn (id : String) : List Alert → List Alert
  | [] => []
  | alert :: later =>
    if alert.id = id then alert.acknowledge :: later else alert :: acknowledgeIn id later

theorem length_acknowledgeIn (id : String) (alerts : List Alert) :
    (acknowledgeIn id alerts).length = alerts.length := by
  induction alerts with
  | nil => rfl
  | cons alert later inductive_step =>
    by_cases same : alert.id = id <;> simp [acknowledgeIn, same, inductive_step]

/-- Whether an alert of the id is kept. -/
def holds (history : History) (id : String) : Bool :=
  history.alerts.any fun alert => alert.id = id

/-- Acknowledge the newest alert of an id, if one is kept. -/
def acknowledge (history : History) (id : String) : History :=
  { history with
    alerts := acknowledgeIn id history.alerts
    fits := by rw [length_acknowledgeIn]; exact history.fits }

/-- Acknowledge all alerts. -/
def acknowledgeAll (history : History) : History :=
  { history with
    alerts := history.alerts.map Alert.acknowledge
    fits := by rw [List.length_map]; exact history.fits }

/-- Forget all alerts. -/
def clear (history : History) : History :=
  { history with alerts := [], fits := Nat.zero_le _ }

end History
end Alert
end ContainerFleet
