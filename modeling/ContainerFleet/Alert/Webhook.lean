import ContainerFleet.Alert.Basic
import ContainerFleet.Daemon.Exchange
import ContainerFleet.Url.Basic

/-!
# Announcing alerts

A new alert is sent to a webhook receiver, wrapped into an envelope with the
time and the name of the sender.  An empty address means that nothing is sent.
What was said about the receiver is only looked at when there is something to
send.
-/

namespace ContainerFleet
namespace Alert

open Daemon

/-- Where alerts are announced, as it was said. -/
structure Webhook where
  url : Json
  /-- Seconds to wait for the receiver, or null for no limit. -/
  timeout : Json
  /-- The name of the sender. -/
  source : Json
  deriving Repr

namespace Webhook

def userAgent : String := "fleetdock/0.3.0"

def contentType : String := "application/json"

/-- The name under which alerts are sent where nothing else is said. -/
def defaultSource : Json := .text "fleetdock"

/-- Ten seconds. -/
def defaultTimeout : Json := .fraction 10.0

def enabled (webhook : Webhook) : Bool :=
  !webhook.url.isEmpty

/-- The name of the sender, which has to be a text. -/
def sender (webhook : Webhook) : Except Fault String :=
  ((Decode.text webhook.source).within (.key "source")).toExcept.mapError .invalid

/-- Where messages go. -/
def target (webhook : Webhook) : Except Fault Url :=
  match webhook.url with
  | .text url => ((Url.read url).bind Url.target).mapError .address
  | other => .error (.shape (.notAddress other.kind))

/-- The message that carries an alert from a sender to an address. -/
def envelope (webhook : Webhook) (sender : String) (target : Url) (now : Int) (alert : Alert) :
    Post where
  url := target.write
  timeout := webhook.timeout
  body := .object [("alert", .object alert.members), ("timestamp", .whole now),
    ("source", .text sender)]

/-- A number that a document can hold. -/
def isWritable (value : Option Float) : Bool :=
  value.all Float.isFinite

variable {σ : Type}

/-- What an answer to a message says about it: whether the receiver took it.
Only an address that says by itself where it is can be spoken of. -/
def taken (target : Url) (code : Int) : Except Fault Bool :=
  if target.isAbsolute then .ok (code < 400) else .error (.addressKind target.write)

/-- Send an alert; whether the receiver took it.  Nothing is sent, and all is
well, where announcing is off. -/
def send (peers : Peers σ) (webhook : Webhook) (now : Int) (alert : Alert) : Action σ Bool := do
  if !webhook.enabled then return true
  let sender ← ofExcept (fun fault => fault) webhook.sender
  let target ← ofExcept (fun fault => fault) webhook.target
  if !(isWritable alert.value && isWritable alert.threshold) then throw .unwritable
  match ← peers.send (webhook.envelope sender target now alert) with
  | .status code => ofExcept (fun fault => fault) (taken target code)
  | .undelivered => return false

end Webhook
end Alert
end ContainerFleet
