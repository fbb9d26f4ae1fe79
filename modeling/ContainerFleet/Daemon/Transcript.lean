import ContainerFleet.Daemon.Script
import ContainerFleet.Json.Build

/-!
# Transcripts

What daemons were asked, written down as documents: the address, the name of
the request and its arguments.  Requests for logs and for streams of
statistics are written with their path and their parameters.
-/

namespace ContainerFleet
namespace Daemon

/-- A flag as a number. -/
def bit (value : Bool) : Json :=
  .whole (if value then 1 else 0)

/-- The member of a value that may not be said. -/
def said {α : Type} (name : String) (document : α → Json) (value : Option α) :
    List (String × Json) :=
  value.toList.map fun value => (name, document value)

namespace Dial

/-- How a daemon is dialled; the version is always negotiated. -/
def document (dial : Dial) : Json :=
  .object ([("base_url", .text dial.uri), ("timeout", .whole dial.timeout),
    ("version", .text "auto")] ++ said "use_ssh_client" .bool dial.sshProgram ++
    said "tls" .bool dial.tls)

end Dial

namespace LogQuery

/-- The parameters of a request for a log. -/
def document (query : LogQuery) : Json :=
  .object ([("stdout", bit query.stdout), ("stderr", bit query.stderr),
    ("timestamps", bit query.timestamps), ("follow", bit query.follow),
    ("details", bit query.details), ("tail", .text query.tail)] ++
    said "since" .text query.since ++ said "until" .text query.upTo)

end LogQuery

namespace Call

/-- What stands behind the name and the argument of a request. -/
def further : Call → List Json
  | .containers all | .images all => [.bool all]
  | .removeImage _ force keepParents => [.bool force, .bool keepParents]
  | .pull _ => [.bool true, .bool true]
  | .inspectNetwork _ verbose => [.bool verbose]
  | .stats _ => [.bool false, .bool false]
  | .createExec _ command =>
    [.ofTexts command,
      .object (["stdin", "stdout", "stderr", "tty"].map fun flag => (flag, .bool true))]
  | .attachExec _ => [.bool true, .bool true]
  | .resizeExec _ height width => [.whole height, .whole width]
  | _ => []

/-- The name and the arguments of a request. -/
def words (call : Call) : List Json :=
  match call with
  | .start id => [.text "start", id]
  | .create config name => [.text "create", config, .ofOption .text name]
  | .logs id query =>
    [.text "get", .text s!"/containers/{id}/logs", query.document, .bool true]
  | .closeLogs id => [.text "close", .text ("logs " ++ id)]
  | .statsStream id =>
    [.text "get", .text s!"/containers/{id}/stats", .object [("stream", .bool true)], .bool true]
  | .closeStatsStream id => [.text "close", .text ("stats_stream " ++ id)]
  | .attachExec id => .text "exec_start" :: .text id :: call.further
  | _ => .text call.key.1 :: (call.key.2.toList.map .text ++ call.further)

/-- A request to a daemon; dialling has no daemon yet. -/
def document (uri : String) : Call → Json
  | .connect dial => .array [.text "connect", dial.document]
  | call => .array (.text uri :: call.words)

end Call

/-- All requests of an exchange, in order. -/
def Exchange.transcript {σ : Type} (exchange : Exchange σ) : Json :=
  .array (exchange.calls.reverse.map fun made => made.2.document made.1)

end Daemon
end ContainerFleet
