import ContainerFleet.Decode.Checked
import ContainerFleet.Json.Access
import ContainerFleet.Log.Demux
import ContainerFleet.PeerError
import ContainerFleet.RangeError
import ContainerFleet.Reconcile.Record
import ContainerFleet.Url.Flaw

/-!
# Faults

Every way in which an operation can fail, by its cause, and the text that
tells a user about it.
-/

namespace ContainerFleet

/-- Why a host could not be connected. -/
inductive ConnectCause where
  /-- The name is used by a host before it. -/
  | duplicateName
  /-- The daemon did not answer as it should. -/
  | peer (error : PeerError)
  deriving DecidableEq, Repr

def ConnectCause.message : ConnectCause → String
  | .duplicateName => "duplicate host name"
  | .peer error => error.message

/-- The two steps of opening a terminal. -/
inductive SessionStep where
  | create
  | attach
  deriving DecidableEq, Repr

def SessionStep.name : SessionStep → String
  | .create => "create"
  | .attach => "attach"

/-- Why an operation failed. -/
inductive Fault where
  /-- The other side reported a failure. -/
  | peer (error : PeerError)
  /-- A value left its range. -/
  | range (error : RangeError)
  /-- A stream of log frames was malformed or reported an error. -/
  | framing (error : Log.FramingError)
  /-- A daemon's answer is of a kind that cannot be used. -/
  | shape (error : ShapeError)
  /-- A value does not fit the record that it was meant for. -/
  | invalid (issues : List Decode.Issue)
  /-- A statistics document does not have the expected form. -/
  | invalidStats (issues : List Decode.Issue)
  /-- A statistics document could not be read at all. -/
  | unreadableStats (place : String) (error : PeerError)
  | hostUnreachable (name uri : String) (cause : ConnectCause)
  | hostNotFound (name : String)
  /-- A terminal could not be opened; the words are those of the cause. -/
  | session (step : SessionStep) (reason : String)
  /-- A reconciliation stopped on the way. -/
  | reconcile (step : Reconcile.State) (reason : String) (record : Reconcile.Record)
  | alertNotFound (id : String)
  /-- A changing operation was asked for where nothing may be changed. -/
  | readOnly (operation : String)
  /-- A history must have room for an alert. -/
  | historySize
  /-- A number cannot be written into a document. -/
  | unwritable
  /-- A text is no address. -/
  | address (flaw : Url.Flaw)
  /-- An address does not say by itself where something is. -/
  | addressKind (address : String)
  /-- The variable of a group of settings holds no document. -/
  | unreadableSetting (group : String)
  /-- A document is nested too deep to be read. -/
  | tooDeep
  deriving BEq, Repr

namespace Fault

def ofLog : Log.Failure → Fault
  | .peer error => .peer error
  | .framing error => .framing error
  | .range error => .range error

/-- The faults that this library itself reports; the others come from outside
or mean that something was used in a wrong way. -/
def isForeseen : Fault → Bool
  | .framing _ | .invalidStats _ | .unreadableStats _ _ => true
  | .hostUnreachable _ _ _ | .hostNotFound _ | .session _ _ => true
  | .reconcile _ _ _ | .alertNotFound _ | .readOnly _ => true
  | .peer _ | .range _ | .shape _ | .invalid _ | .historySize | .unwritable => false
  | .address _ | .addressKind _ | .unreadableSetting _ | .tooDeep => false

/-- The text for a user. -/
def message : Fault → String
  | .peer error => error.message
  | .range error => error.message
  | .framing error => error.message
  | .shape error => error.message
  | .invalid issues => s!"{issues.length} validation errors"
  | .invalidStats issues => s!"malformed stats snapshot: {issues.length} validation errors"
  | .unreadableStats place error => s!"malformed stats snapshot{place}: {error.message}"
  | .hostUnreachable name uri cause =>
    s!"failed to connect to host {name} ({uri}): {cause.message}"
  | .hostNotFound name => s!"host {name} not found"
  | .session step reason => s!"{step.name} exec failed: {reason}"
  | .reconcile step reason _ => s!"env reconciliation failed while {step.name}: {reason}"
  | .alertNotFound id => s!"alert {id} not found"
  | .readOnly operation => s!"{operation} is disabled in read-only mode"
  | .historySize => "max_size must be at least 1"
  | .unwritable => "Out of range float values are not JSON compliant"
  | .address flaw => flaw.message
  | .addressKind written => s!"unknown url type: {Text.quoted written}"
  | .unreadableSetting group =>
    s!"error parsing value for field \"{group}\" from source \"EnvSettingsSource\""
  | .tooDeep => "maximum recursion depth exceeded"

end Fault
end ContainerFleet
