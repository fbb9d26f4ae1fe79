import ContainerFleet.Log.Reading
import ContainerFleet.Proofs.Alert.Deliveries
import ContainerFleet.Terminal.Session

/-!
# What reading, watching and terminals request

Reading figures and logs and scanning for alerts are chains of requests that only read,
so they are harmless.  A terminal session is the one composed operation here that is not:
it prepares a shell, and all it requests afterwards is harmless again.
-/

namespace ContainerFleet

open Daemon

variable {σ : Type} (peers : Peers σ)

/-! ## Reading figures, logs and listings -/

/-- What only makes requests that read is harmless. -/
theorem harmless_of_reading {α : Type} {action : Action σ α}
    (parallel : ∀ {related : Exchange σ → Exchange σ → Prop}, ReadsAlike related peers peers →
      Parallel related action action) : Harmless action :=
  kept_of_reading Exchange.changing peers (fun _ _ keeps => harmless_request peers keeps) parallel

theorem Daemon.harmless_listContainers (host : Host) (all : Bool) :
    Harmless (listContainers peers host all) :=
  harmless_of_reading peers fun reads => parallel_listContainers reads host all

namespace Stats

theorem harmless_readOnce (host : Host) (id : String) : Harmless (readOnce peers host id) :=
  harmless_of_reading peers fun reads => parallel_readOnce reads host id

theorem harmless_sweep (host : Host) : Harmless (sweep peers host) :=
  harmless_of_reading peers fun reads => parallel_sweep reads host

theorem harmless_follow (fleet : Fleet) (hostName id : String) (limit : Option Nat) :
    Harmless (follow peers fleet hostName id limit) := by
  unfold follow
  split
  · exact harmless_pure _
  · exact harmless_onHost fun host => (harmless_openStats peers host id).bind fun documents =>
      (harmless_request peers rfl).ignoring.bind fun _ => harmless_pure _

end Stats

namespace Log

theorem harmless_fetch (fleet : Fleet) (hostName id : String) (options : Options) :
    Harmless (fetch peers fleet hostName id options) :=
  harmless_onHost fun host => (harmless_openLogs peers host id _ false).bind fun _ =>
    (harmless_ofExcept _ _).closing (harmless_request peers rfl)

theorem harmless_follow (fleet : Fleet) (hostName id : String) (options : Options)
    (limit : Option Nat) : Harmless (follow peers fleet hostName id options limit) := by
  unfold follow
  split
  · exact harmless_pure _
  · exact harmless_onHost fun host => (harmless_openLogs peers host id options true).bind fun source =>
      (harmless_request peers rfl).ignoring.bind fun _ => harmless_pure _

end Log

/-! ## The monitor -/

namespace Alert

theorem Webhook.harmless_send (webhook : Webhook) (now : Int) (alert : Alert) :
    Harmless (webhook.send peers now alert) := by
  rcases webhook.send_cases peers now alert with ⟨-, outcome, sent⟩ | ⟨post, target, -, sent⟩
  · rw [sent]
    exact harmless_ofExcept _ outcome
  · rw [sent]
    exact (Daemon.harmless_send peers post).bind fun delivery before =>
      congrArg Exchange.changing (left_judged target delivery before)

namespace Monitor

theorem harmless_announce (monitor : Monitor) (now : Int) (alerts : List Alert) :
    Harmless (monitor.announce peers now alerts) := by
  unfold announce
  split
  · exact harmless_forM alerts fun alert =>
      (monitor.webhook.harmless_send peers now alert).attempt.bind fun _ => harmless_pure _
  · exact harmless_pure ()

theorem harmless_checkAndAnnounce (monitor : Monitor) (fleet : Fleet) (now : Int) :
    Harmless (monitor.checkAndAnnounce peers fleet now) :=
  (harmless_of_reading peers fun reads => parallel_checkOnce reads monitor fleet now).bind
    fun checked => (checked.1.harmless_announce peers now checked.2).bind fun _ => harmless_pure _

theorem harmless_watch (monitor : Monitor) (fleet : Fleet) (now : Int) :
    Harmless (monitor.watch peers fleet now) := by
  unfold watch
  split
  · exact harmless_pure monitor
  · exact (monitor.harmless_checkAndAnnounce peers fleet now).bind fun _ => harmless_pure _

theorem harmless_wake (monitor : Monitor) (fleet : Fleet) (now : Int) :
    Harmless (monitor.wake peers fleet now) := by
  unfold wake
  split
  · exact harmless_pure monitor
  · exact (monitor.harmless_checkAndAnnounce peers fleet now).bind fun _ => harmless_pure _

end Monitor
end Alert

/-! ## Terminals -/

namespace Terminal.Session

/-- Of all that opens a session only the shell itself changes something. -/
theorem alters_prepare (host : Host) (containerId : String) :
    Alters [(host.uri, .createExec containerId shell)] (prepare peers host containerId) := by
  refine ((alters_createExec peers host containerId shell).attempt.bind fun _ =>
    harmless_pure _).bind fun created => ?_
  cases created with
  | error fault => exact harmless_pure _
  | ok id =>
    dsimp only
    split
    · exact harmless_pure _
    · refine ((harmless_attachExec peers host _).attempt.bind fun _ =>
        harmless_pure _).bind fun attached => ?_
      cases attached <;> exact harmless_pure _

theorem harmless_resize (session : Session) (host : Host) (wish : Resize) :
    Harmless (session.resize peers host wish) := by
  unfold resize
  split
  · exact (harmless_request peers rfl).ignoring.bind fun _ => harmless_pure _
  · exact harmless_pure _

theorem harmless_takeFrame (session : Session) (host : Host) (frame : Frame) (levels : Nat) :
    Harmless (session.takeFrame peers host frame levels) := by
  unfold takeFrame
  split
  · exact (session.harmless_resize peers host _).bind fun _ => harmless_pure _
  · exact harmless_pure _
  · exact harmless_pure _

theorem harmless_relay (session : Session) (host : Host) (event : Event) :
    Harmless (session.relay peers host event) := by
  cases event with
  | remoteFrame frame levels => exact session.harmless_takeFrame peers host frame levels
  | remoteEnded => exact harmless_pure _
  | output octets => exact harmless_pure _
  | outputEnded => exact harmless_pure _
  | inputFails => exact harmless_pure _
  | sendingFails => exact harmless_pure _

theorem harmless_tearDown (session : Session) (host : Host) :
    Harmless (session.tearDown peers host) :=
  (harmless_closeExec peers host).ignoring.bind fun _ => harmless_pure _

theorem harmless_handle (session : Session) (fleet : Fleet) (hostName : String) (event : Event) :
    Harmless (session.handle peers fleet hostName event) := by
  unfold handle
  split
  · refine (session.harmless_relay peers _ event).bind fun relayed => ?_
    split
    · exact harmless_pure _
    · exact (relayed.session.harmless_tearDown peers _).bind fun _ => harmless_pure _
  · exact harmless_pure _

theorem harmless_handleAll (fleet : Fleet) (hostName : String) (session : Session)
    (events : List Event) : Harmless (handleAll peers fleet hostName session events) := by
  induction events generalizing session with
  | nil => exact harmless_pure _
  | cons event later inductionHypothesis =>
    exact (session.harmless_handle peers fleet hostName event).bind fun handled =>
      (inductionHypothesis handled.1).bind fun rest => harmless_pure _

/-- The request that opens a session on a host of the fleet; nothing is requested where
the host is not known. -/
def shellRequest (fleet : Fleet) (hostName containerId : String) : List (String × Call) :=
  ((fleet.find? hostName).map fun host => (host.uri, .createExec containerId shell)).toList

theorem alters_openOn (fleet : Fleet) (hostName containerId : String) (textArrives : Bool) :
    Alters (shellRequest fleet hostName containerId)
      (openOn peers fleet hostName containerId textArrives) := by
  unfold openOn shellRequest Fleet.host
  cases fleet.find? hostName with
  | none => exact fun _ => rfl
  | some host =>
    refine (alters_prepare peers host containerId).bind fun outcome => ?_
    rcases outcome with ⟨session, fault | value⟩ <;> exact harmless_pure _

/-- Of a whole session, too, only the shell changes something. -/
theorem alters_run (fleet : Fleet) (hostName containerId : String) (textArrives : Bool)
    (events : List Event) :
    Alters (shellRequest fleet hostName containerId)
      (run peers fleet hostName containerId textArrives events) :=
  (alters_openOn peers fleet hostName containerId textArrives).bind fun opened =>
    (harmless_handleAll peers fleet hostName opened.1 _).bind fun _ => harmless_pure _

end Terminal.Session
end ContainerFleet
