import MarketGate.Bench.Schedule
import MarketGate.Bench.Session
import MarketGate.Bytes
import MarketGate.Config
import MarketGate.Config.Environment
import MarketGate.Config.File
import MarketGate.Config.Json
import MarketGate.Config.Load
import MarketGate.Connection
import MarketGate.Cursor
import MarketGate.Duration
import MarketGate.Event
import MarketGate.Event.Json
import MarketGate.Fault
import MarketGate.Feed.Bridge
import MarketGate.Feed.Memory
import MarketGate.Feed.Outcome
import MarketGate.Feed.Publication
import MarketGate.Feed.Socket
import MarketGate.Feed.Subscription
import MarketGate.Health
import MarketGate.Hub
import MarketGate.Io.Error
import MarketGate.Json.Reader
import MarketGate.Json.Value
import MarketGate.Json.Writer
import MarketGate.Main
import MarketGate.Metrics
import MarketGate.Metrics.Exposition
import MarketGate.Network
import MarketGate.Network.Address
import MarketGate.Network.HostName
import MarketGate.Notice
import MarketGate.Notice.Filter
import MarketGate.Notice.Json
import MarketGate.Order
import MarketGate.Order.Json
import MarketGate.Order.Record
import MarketGate.Pipe
import MarketGate.Proofs.Config.Load
import MarketGate.Proofs.Connection.Callers
import MarketGate.Proofs.Connection.Phase
import MarketGate.Proofs.Feed.Framing
import MarketGate.Proofs.Feed.Outgoing
import MarketGate.Proofs.Feed.Pull
import MarketGate.Proofs.Hub.Broadcast
import MarketGate.Proofs.Hub.Client
import MarketGate.Proofs.Hub.Commute
import MarketGate.Proofs.Hub.Counters
import MarketGate.Proofs.Hub.Delivery
import MarketGate.Proofs.Hub.Entry
import MarketGate.Proofs.Hub.Event
import MarketGate.Proofs.Hub.FanOut
import MarketGate.Proofs.Hub.Isolation
import MarketGate.Proofs.Hub.Ledger
import MarketGate.Proofs.Hub.Registry
import MarketGate.Proofs.Hub.Seat
import MarketGate.Proofs.Order.Record
import MarketGate.Proofs.Pump.Ending
import MarketGate.Proofs.Pump.Writer
import MarketGate.Proofs.System.Bridge
import MarketGate.Proofs.System.Callers
import MarketGate.Proofs.System.Census
import MarketGate.Proofs.System.Clock
import MarketGate.Proofs.System.Closing
import MarketGate.Proofs.System.Deadlines
import MarketGate.Proofs.System.Departure
import MarketGate.Proofs.System.EventPath
import MarketGate.Proofs.System.Feed
import MarketGate.Proofs.System.FeedLoop
import MarketGate.Proofs.System.Forwarder
import MarketGate.Proofs.System.Health
import MarketGate.Proofs.System.KeepAlive
import MarketGate.Proofs.System.Lifecycle
import MarketGate.Proofs.System.LonePoll
import MarketGate.Proofs.System.Messages
import MarketGate.Proofs.System.OrderPath
import MarketGate.Proofs.System.Output
import MarketGate.Proofs.System.Outset
import MarketGate.Proofs.System.Poll
import MarketGate.Proofs.System.Progress
import MarketGate.Proofs.System.RelayPath
import MarketGate.Proofs.System.Run
import MarketGate.Proofs.System.Sends
import MarketGate.Proofs.System.Settled
import MarketGate.Proofs.System.Shutdown
import MarketGate.Proofs.System.Sides
import MarketGate.Proofs.System.Step
import MarketGate.Proofs.System.Trace
import MarketGate.Proofs.System.Uplink
import MarketGate.Proofs.System.View
import MarketGate.Proofs.Text.Numeral
import MarketGate.Proofs.Text.Utf8
import MarketGate.Pump.Reader
import MarketGate.Pump.Writer
import MarketGate.Queue
import MarketGate.Startup
import MarketGate.System
import MarketGate.Text.Blank
import MarketGate.Text.CaseTable
import MarketGate.Text.ClassTable
import MarketGate.Text.Lowercase
import MarketGate.Text.Numeral
import MarketGate.Text.Quoted
import MarketGate.Text.Split
import MarketGate.Text.Utf8
import MarketGate.WebSocket.Endpoint
import MarketGate.WebSocket.Failure
import MarketGate.WebSocket.Frame
