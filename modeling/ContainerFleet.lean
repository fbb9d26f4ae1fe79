import ContainerFleet.Alert.Basic
import ContainerFleet.Alert.Document
import ContainerFleet.Alert.History
import ContainerFleet.Alert.Memory
import ContainerFleet.Alert.Monitor
import ContainerFleet.Alert.Webhook
import ContainerFleet.Calendar.Date
import ContainerFleet.Calendar.Instant
import ContainerFleet.Calendar.UnixTime
import ContainerFleet.CommandLine.Commands
import ContainerFleet.CommandLine.Display
import ContainerFleet.CommandLine.Grammar
import ContainerFleet.CommandLine.Help
import ContainerFleet.CommandLine.Paint
import ContainerFleet.CommandLine.Run
import ContainerFleet.CommandLine.Understand
import ContainerFleet.Connect
import ContainerFleet.Daemon.Call
import ContainerFleet.Daemon.Endpoint
import ContainerFleet.Daemon.Exchange
import ContainerFleet.Daemon.Script
import ContainerFleet.Daemon.Transcript
import ContainerFleet.Decode.Checked
import ContainerFleet.Decode.Record
import ContainerFleet.Decode.Scalar
import ContainerFleet.Decode.Typed
import ContainerFleet.Fault
import ContainerFleet.Fleet
import ContainerFleet.Fleet.Interleaving
import ContainerFleet.Handoff
import ContainerFleet.Handoff.Interleaving
import ContainerFleet.Host
import ContainerFleet.Inventory.Container
import ContainerFleet.Inventory.Document
import ContainerFleet.Inventory.Image
import ContainerFleet.Inventory.Network
import ContainerFleet.Inventory.Pull
import ContainerFleet.Json.Access
import ContainerFleet.Json.Basic
import ContainerFleet.Json.Build
import ContainerFleet.Json.Pairs
import ContainerFleet.Json.Reader
import ContainerFleet.Json.Shown
import ContainerFleet.Json.Writer
import ContainerFleet.Log.Colour
import ContainerFleet.Log.Demux
import ContainerFleet.Log.Entry
import ContainerFleet.Log.Frame
import ContainerFleet.Log.Level
import ContainerFleet.Log.LineBuffer
import ContainerFleet.Log.Options
import ContainerFleet.Log.Reading
import ContainerFleet.Log.Source
import ContainerFleet.Log.Wire
import ContainerFleet.Main
import ContainerFleet.Number.Binary64
import ContainerFleet.Number.Decimal
import ContainerFleet.Number.Shortest
import ContainerFleet.PeerError
import ContainerFleet.Plane
import ContainerFleet.Proofs.Alert.Changes
import ContainerFleet.Proofs.Alert.Crossing
import ContainerFleet.Proofs.Alert.Forgetting
import ContainerFleet.Proofs.Alert.Memory
import ContainerFleet.Proofs.Alert.Part
import ContainerFleet.Proofs.Alert.Run
import ContainerFleet.Proofs.Alert.Sees
import ContainerFleet.Proofs.Alert.Separation
import ContainerFleet.Proofs.Alert.Thresholds
import ContainerFleet.Proofs.Alert.View
import ContainerFleet.Proofs.Calendar.Date
import ContainerFleet.Proofs.Daemon.Dialogue
import ContainerFleet.Proofs.Decode.Record
import ContainerFleet.Proofs.Fleet.Gathering
import ContainerFleet.Proofs.Fleet.Reporting
import ContainerFleet.Proofs.Fleet.Workers
import ContainerFleet.Proofs.Handoff.Order
import ContainerFleet.Proofs.Log.Delivery
import ContainerFleet.Proofs.Log.Demux
import ContainerFleet.Proofs.Log.Entry
import ContainerFleet.Proofs.Log.Frames
import ContainerFleet.Proofs.Log.LineOrder
import ContainerFleet.Proofs.Log.Lines
import ContainerFleet.Proofs.Log.Source
import ContainerFleet.Proofs.Log.Wire
import ContainerFleet.Proofs.Number.Binary64
import ContainerFleet.Proofs.Outcome
import ContainerFleet.Proofs.Settings.Thresholds
import ContainerFleet.Proofs.Stats.Usage
import ContainerFleet.Proofs.Table
import ContainerFleet.Proofs.Timestamp.Extract
import ContainerFleet.Proofs.Timestamp.Fields
import ContainerFleet.RangeError
import ContainerFleet.Reconcile.Document
import ContainerFleet.Reconcile.Env
import ContainerFleet.Reconcile.Record
import ContainerFleet.Reconcile.Run
import ContainerFleet.Settings.Basic
import ContainerFleet.Settings.Document
import ContainerFleet.Settings.HostList
import ContainerFleet.Settings.Load
import ContainerFleet.Settings.Logging
import ContainerFleet.Settings.Variables
import ContainerFleet.Stats.Reading
import ContainerFleet.Stats.Snapshot
import ContainerFleet.Stats.Usage
import ContainerFleet.Table
import ContainerFleet.Terminal.Frame
import ContainerFleet.Terminal.Interleaving
import ContainerFleet.Terminal.Session
import ContainerFleet.Terminal.Socket
import ContainerFleet.Text.Blank
import ContainerFleet.Text.Capital
import ContainerFleet.Text.DecimalDigit
import ContainerFleet.Text.Digits
import ContainerFleet.Text.Quoted
import ContainerFleet.Text.Split
import ContainerFleet.Text.Unprintable
import ContainerFleet.Text.Utf8
import ContainerFleet.Timestamp.Candidate
import ContainerFleet.Timestamp.Extract
import ContainerFleet.Timestamp.Fields
import ContainerFleet.Timestamp.Layout
import ContainerFleet.Timestamp.Written
import ContainerFleet.Url.Basic
import ContainerFleet.Url.Flaw
import ContainerFleet.Url.HostName
import ContainerFleet.Url.NameChar
import ContainerFleet.Url.Numeric
import ContainerFleet.Url.Percent
import ContainerFleet.Url.Punycode
import ContainerFleet.Proofs.Reconcile.Course
import ContainerFleet.Proofs.Terminal.Moves
import ContainerFleet.Proofs.Terminal.Lifecycle
import ContainerFleet.Proofs.Terminal.Opening
import ContainerFleet.Proofs.Terminal.InTurn
import ContainerFleet.Proofs.Terminal.Ending
import ContainerFleet.Proofs.Terminal.Faithful
import ContainerFleet.Alert.Store
import ContainerFleet.Proofs.Alert.Window
import ContainerFleet.Proofs.Text.Digits
import ContainerFleet.Proofs.Text.Trim
import ContainerFleet.Proofs.Timestamp.Grammar
import ContainerFleet.Proofs.Timestamp.Written
import ContainerFleet.Proofs.Timestamp.Apart
import ContainerFleet.Proofs.Timestamp.Candidate
import ContainerFleet.Proofs.Timestamp.Longest
import ContainerFleet.Proofs.Timestamp.Capture
import ContainerFleet.Proofs.Timestamp.Rendering
import ContainerFleet.Proofs.Timestamp.Beginning
import ContainerFleet.Proofs.Timestamp.Heeded
import ContainerFleet.Proofs.Calendar.Counting
import ContainerFleet.Proofs.Json.Grammar
import ContainerFleet.Proofs.Json.Strings
import ContainerFleet.Proofs.Json.Numbers
import ContainerFleet.Proofs.Json.Items
import ContainerFleet.Proofs.Json.Reading
import ContainerFleet.Proofs.Json.Record
import ContainerFleet.Proofs.Text.Utf8
import ContainerFleet.Proofs.Log.Record
import ContainerFleet.Alert.Interleaving
import ContainerFleet.Proofs.Text.Pieces
import ContainerFleet.Proofs.Text.Padding
import ContainerFleet.Proofs.Fleet.Connecting
import ContainerFleet.Proofs.Settings.HostList
import ContainerFleet.Proofs.Daemon.Changing
import ContainerFleet.Proofs.Daemon.Parallel
import ContainerFleet.Proofs.Alert.Scan
import ContainerFleet.Proofs.Plane.Harmless
import ContainerFleet.Proofs.Plane.ReadOnly
import ContainerFleet.Proofs.Reconcile.Environment
import ContainerFleet.Proofs.Reconcile.Recreation
import ContainerFleet.Proofs.Alert.Deliveries
import ContainerFleet.Proofs.CommandLine.Foreground
import ContainerFleet.Connect.Connector
import ContainerFleet.Proofs.Fleet.Startup
import ContainerFleet.Proofs.Fleet.Clients
import ContainerFleet.Proofs.Number.Overflow
import ContainerFleet.Proofs.Stats.Failure
import ContainerFleet.Proofs.Handoff.Progress
import ContainerFleet.Proofs.Log.Agreement
import ContainerFleet.Proofs.Text.Lossy
import ContainerFleet.Proofs.Log.Assembly
import ContainerFleet.Proofs.Timestamp.Moments
import ContainerFleet.Proofs.Timestamp.Decoration
import ContainerFleet.Proofs.Timestamp.Agreement
import ContainerFleet.Proofs.Log.Words
import ContainerFleet.Proofs.Log.Severity
import ContainerFleet.Proofs.Log.Colour
import ContainerFleet.Proofs.Log.Message
import ContainerFleet.Proofs.Terminal.Resize
import ContainerFleet.Proofs.Timestamp.AnyOrder
import ContainerFleet.Proofs.Log.Refusal
import ContainerFleet.Proofs.Fleet.Awaiting
import ContainerFleet.Proofs.CommandLine.Doctor
