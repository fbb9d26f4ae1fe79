import ContainerFleet.Decode.Record

/-!
# Alerts

An alert says that a container started or stopped, or that it uses more of
something than it should.  After it was raised only its acknowledgement
changes.
-/

namespace ContainerFleet

/-- What an alert is about. -/
inductive Alert.Kind where
  | stopped
  | started
  | cpu
  | memory
  deriving DecidableEq, Repr

def Alert.Kind.name : Alert.Kind → String
  | .stopped => "container_stopped"
  | .started => "container_started"
  | .cpu => "cpu_threshold"
  | .memory => "memory_threshold"

structure Alert where
  id : String
  kind : Alert.Kind
  containerId : String
  containerName : String
  host : String
  message : String
  value : Option Float
  threshold : Option Float
  timestamp : Int
  acknowledged : Bool
  deriving Repr

namespace Alert

open Decode

/-- The kinds by their names. -/
def kinds : List (String × Kind) :=
  [Kind.stopped, .started, .cpu, .memory].map fun kind => (kind.name, kind)

/-- The id of the n-th alert that is given none of its own. -/
def numberedId (number : Nat) : String := s!"alert-{number}"

/-- An alert from its fields; `number` and `now` stand in for an id and a time
that are not given. -/
def decode (number : Nat) (now : Int) (members : Members) : Checked Alert :=
  Alert.mk <$> withDefault members "id" text (numberedId number)
    <*> required members "type" (choice kinds)
    <*> required members "container_id" text
    <*> withDefault members "container_name" text ""
    <*> required members "host" text
    <*> required members "message" text
    <*> withDefault members "value" (optional fraction) none
    <*> withDefault members "threshold" (optional fraction) none
    <*> withDefault members "timestamp" whole now
    <*> withDefault members "acknowledged" flag false

/-- Whether an alert with these fields takes a number for its id. -/
def takesNumber (members : Members) : Bool :=
  (members.lookup "id").isNone

def acknowledge (alert : Alert) : Alert :=
  { alert with acknowledged := true }

/-- The members of an alert's document; absent values are left out. -/
def members (alert : Alert) : List (String × Json) :=
  [("id", .text alert.id), ("type", .text alert.kind.name),
   ("container_id", .text alert.containerId), ("container_name", .text alert.containerName),
   ("host", .text alert.host), ("message", .text alert.message)] ++
  (alert.value.toList.map fun value => ("value", .fraction value)) ++
  (alert.threshold.toList.map fun threshold => ("threshold", .fraction threshold)) ++
  [("timestamp", .whole alert.timestamp), ("acknowledged", .bool alert.acknowledged)]

end Alert
end ContainerFleet
