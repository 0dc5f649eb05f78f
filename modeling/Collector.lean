import Collector.Backend
import Collector.Backoff
import Collector.Broker
import Collector.Calendar
import Collector.Checkpoint.Basic
import Collector.Checkpoint.Cache
import Collector.Checkpoint.Store
import Collector.Coordination
import Collector.Dispatch
import Collector.Double.Basic
import Collector.Double.Shortest
import Collector.Envelope
import Collector.Failure
import Collector.Gzip.Bits
import Collector.Gzip.Crc32
import Collector.Gzip.Deflate
import Collector.Gzip.Member
import Collector.Gzip.PrefixCode
import Collector.Heartbeat.Config
import Collector.Heartbeat.Record
import Collector.Heartbeat.Reporter
import Collector.Job.Cache
import Collector.Job.Factory
import Collector.Json.Basic
import Collector.Json.Fields
import Collector.Json.Node
import Collector.Json.Number
import Collector.Json.Printer
import Collector.Json.Token
import Collector.KeyMap
import Collector.Listener
import Collector.Log.Config
import Collector.Log.Directive
import Collector.Log.Event
import Collector.Log.Filter
import Collector.Log.Format
import Collector.Log.Line
import Collector.Log.Pattern
import Collector.Poll
import Collector.Proofs.Broker.Delivery
import Collector.Proofs.Broker.Mailbox
import Collector.Proofs.Broker.Run
import Collector.Proofs.Broker.Seats
import Collector.Proofs.Calendar.Order
import Collector.Proofs.Checkpoint.Cache
import Collector.Proofs.Checkpoint.Codec
import Collector.Proofs.Collection.AtLeastOnce
import Collector.Proofs.Collection.Drain
import Collector.Proofs.Collection.ExactlyOnce
import Collector.Proofs.Collection.Run
import Collector.Proofs.Coverage
import Collector.Proofs.Dispatch.Roster
import Collector.Proofs.Feed.Cut
import Collector.Proofs.Feed.Page
import Collector.Proofs.Heartbeat.Codec
import Collector.Proofs.Heartbeat.Loop
import Collector.Proofs.Heartbeat.Path
import Collector.Proofs.Heartbeat.Steps
import Collector.Proofs.Heartbeat.Ticks
import Collector.Proofs.Job.Factory
import Collector.Proofs.Job.Interleaving
import Collector.Proofs.Job.LiveJob
import Collector.Proofs.Job.Started
import Collector.Proofs.Job.Turns
import Collector.Proofs.Job.WholeCall
import Collector.Proofs.Json.Fields
import Collector.Proofs.Json.Grammar
import Collector.Proofs.Json.Meaning
import Collector.Proofs.Json.Natural
import Collector.Proofs.Json.Reader
import Collector.Proofs.Json.Scan
import Collector.Proofs.Json.Tree
import Collector.Proofs.Listener.Delivery
import Collector.Proofs.Listener.Steps
import Collector.Proofs.Poll.Effect
import Collector.Proofs.Poll.Failed
import Collector.Proofs.Poll.Forward
import Collector.Proofs.Poll.FullPage
import Collector.Proofs.Poll.Overlap
import Collector.Proofs.Poll.Pair
import Collector.Proofs.Poll.Restart
import Collector.Proofs.Reconcile
import Collector.Proofs.Reconcile.Outcome
import Collector.Proofs.Reconcile.Refetch
import Collector.Proofs.Service.Config
import Collector.Proofs.Service.Lifecycle
import Collector.Proofs.Service.Loops
import Collector.Proofs.Service.Start
import Collector.Proofs.Source.Answer
import Collector.Proofs.Source.Request
import Collector.Proofs.Source.Settings
import Collector.Proofs.Supervision.Attempts
import Collector.Proofs.Supervision.Moves
import Collector.Proofs.Task
import Collector.Proofs.Text.ByteOrder
import Collector.Proofs.Text.Decimal
import Collector.Proofs.Text.Trimmed
import Collector.Proofs.Text.Utf8
import Collector.Proofs.Timestamp.Bytes
import Collector.Proofs.Timestamp.Order
import Collector.Proofs.Timestamp.Successor
import Collector.Reconcile
import Collector.Record
import Collector.Service.Config
import Collector.Service.Lifecycle
import Collector.Setting
import Collector.SipHash
import Collector.Source.Feed
import Collector.Source.Response
import Collector.Source.Settings
import Collector.Supervision
import Collector.Task
import Collector.Text.Alphanumeric
import Collector.Text.Base64
import Collector.Text.Blank
import Collector.Text.Decimal
import Collector.Text.Quoted
import Collector.Text.Slashes
import Collector.Text.Unprintable
import Collector.Text.Utf8
import Collector.Timestamp
import Collector.Trace
import Collector.Worker
import Collector.Writer
