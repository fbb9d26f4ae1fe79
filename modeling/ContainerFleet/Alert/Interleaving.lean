import ContainerFleet.Alert.Monitor

/-!
# Deliveries that run beside the scans

A scan starts a delivery for each alert that it raises and does not wait for
them.  A delivery ends when the receiver has answered or could not be reached:
before the next scan, after many more, or not at all.  `Desk.step` says what
becomes of a monitor and its deliveries when the next scan is made or one of
the deliveries ends, and a list of moves is one order of these.  An end that
falls into a scan stands right before or after it: a scan reads nothing that a
delivery writes.

`Monitor.checkAndAnnounce` is the order in which the deliveries of a scan end
one after another before anything else is done.
-/

namespace ContainerFleet
namespace Alert

open Daemon

variable {σ : Type} (peers : Peers σ)

/-- Deliver one alert, whatever comes of it; a monitor that was stopped
reaches nobody any more. -/
def Monitor.deliver (monitor : Monitor) (now : Int) (alert : Alert) : Action σ Unit := do
  if !monitor.silent then
    let _ ← attempt (monitor.webhook.send peers now alert)

namespace Interleaving

/-- What can happen. -/
inductive Move where
  | scan (now : Int)
  /-- The delivery at a place among those under way ends. -/
  | deliver (now : Int) (place : Nat)
  deriving DecidableEq, Repr

/-- A scan that was made: the monitor before and after it, and the alerts that
it raised. -/
structure Scanned where
  before : Monitor
  raised : List Alert
  after : Monitor

/-- A monitor with the scans it made and the deliveries of their alerts. -/
structure Desk where
  monitor : Monitor
  scans : List Scanned
  /-- The alerts whose delivery was started, in order. -/
  started : List Alert
  /-- Those of them whose delivery has not ended. -/
  underWay : List Alert
  /-- The others in the order of their ends, each with the time of its delivery. -/
  ended : List (Alert × Int)

namespace Desk

/-- Nothing has happened yet. -/
def start (monitor : Monitor) : Desk := ⟨monitor, [], [], [], []⟩

/-- All alerts that the scans raised, oldest first. -/
def raised (desk : Desk) : List Alert :=
  desk.scans.flatMap Scanned.raised

/-- The desk after a scan that left this monitor and raised these alerts.  Their
deliveries are started, where alerts are announced. -/
def scanned (desk : Desk) (next : Monitor) (alerts : List Alert) : Desk :=
  let begun := if desk.monitor.settings.announces then alerts else []
  { desk with
    monitor := next
    scans := desk.scans ++ [⟨desk.monitor, alerts, next⟩]
    started := desk.started ++ begun
    underWay := desk.underWay ++ begun }

def scan (desk : Desk) (fleet : Fleet) (now : Int) : Action σ Desk := do
  let (next, alerts) ← desk.monitor.checkOnce peers fleet now
  return desk.scanned next alerts

/-- The desk after the delivery of an alert at a place has ended. -/
def delivered (desk : Desk) (now : Int) (place : Nat) (alert : Alert) : Desk :=
  { desk with
    underWay := desk.underWay.eraseIdx place
    ended := desk.ended ++ [(alert, now)] }

/-- End a delivery that is under way. -/
def deliver (desk : Desk) (now : Int) (place : Nat) : Action σ Desk := do
  match desk.underWay[place]? with
  | none => return desk
  | some alert =>
    desk.monitor.deliver peers now alert
    return desk.delivered now place alert

def step (desk : Desk) (fleet : Fleet) : Move → Action σ Desk
  | .scan now => desk.scan peers fleet now
  | .deliver now place => desk.deliver peers now place

/-- One move after another. -/
def follow (fleet : Fleet) : Desk → List Move → Action σ Desk
  | desk, [] => return desk
  | desk, move :: later => do follow fleet (← desk.step peers fleet move) later

end Desk
end Interleaving
end Alert
end ContainerFleet
