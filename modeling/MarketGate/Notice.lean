import MarketGate.Config
import MarketGate.Feed.Outcome
import MarketGate.Network.Address
import MarketGate.Order

/-!
# Notices

What a gateway tells its operators.  A notice has a level, a message and named fields; the three
functions `Notice.level`, `Notice.message` and `Notice.fields` are the only place where these texts
are built.
-/

namespace MarketGate

/-- What a gateway has to tell. -/
inductive Notice where
  | starting
  | configured (config : Config)
  | stopped
  | shutdownRequested
  | feedLoopStopped (fault : Fault)
  | listenerStopped (fault : Fault)
  | healthServerFailed (error : Io.Error)
  | hubStarted
  | hubStopped (remaining : Nat)
  | alreadyRegistered (connection : Nat)
  | queueFull (connection : Nat)
  | notRegistered (connection : Nat) (fault : Fault)
  | connectionAccepted (connection : Nat) (peer : Option SocketAddress)
  | connectionClosed (connection : Nat)
  | connectionLost (connection : Nat) (fault : Fault)
  | notUnregistered (connection : Nat) (fault : Fault)
  | malformedDropped (connection : Nat) (reason : String)
  | orderReceived (connection : Nat) (order : Order)
  | orderNotForwarded (connection : Nat) (fault : Fault)
  | queueClosed (connection : Nat)
  | writeFailed (connection : Nat) (fault : Fault)
  | pollingStarted (batch : Nat) (backoff : Duration)
  | subscriptionLost
  | publishNotConnected
  | publishBackPressured
  | publishUnrecognized (code : Int)
  | noSubscribers
  | feedConnected (endpoint : String) (eventStream orderStream : UInt32)
  | feedDisconnected (endpoint : String)
  | feedEnded (error : Io.Error)
  | feedEndedMidRecord (error : Io.Error)
  | publicationEnded (error : Io.Error)
  | listening (address : String)
  | handshakeFailed (peer : SocketAddress) (failure : WebSocket.Failure)
  | healthServerStarting (address : String)
  deriving DecidableEq, Repr

/-- How much a notice matters. -/
inductive Level where
  | info
  | warn
  | error
  deriving DecidableEq, Repr

/-- The name of a level. -/
def Level.name : Level → String
  | info => "INFO"
  | warn => "WARN"
  | error => "ERROR"

namespace Notice

/-- The level of a notice. -/
def level : Notice → Level
  | starting | configured _ | stopped | shutdownRequested | hubStarted | hubStopped _
  | connectionAccepted .. | connectionClosed _ | orderReceived .. | queueClosed _
  | pollingStarted .. | feedConnected .. | feedDisconnected _ | listening _
  | healthServerStarting _ => .info
  | healthServerFailed _ | alreadyRegistered _ | queueFull _ | notRegistered .. | notUnregistered ..
  | malformedDropped .. | orderNotForwarded .. | publishNotConnected | publishBackPressured
  | publishUnrecognized _ | noSubscribers => .warn
  | feedLoopStopped _ | listenerStopped _ | connectionLost .. | writeFailed .. | subscriptionLost
  | feedEnded _ | feedEndedMidRecord _ | publicationEnded _ | handshakeFailed .. => .error

/-- The message of a notice. -/
def message : Notice → String
  | starting => "Starting Order Gateway"
  | configured _ => "Configuration loaded"
  | stopped => "Order Gateway stopped"
  | shutdownRequested => "Shutdown signal received"
  | feedLoopStopped _ => "Feed loop stopped"
  | listenerStopped _ => "Listener stopped"
  | healthServerFailed _ => "Health server error"
  | hubStarted => "Hub control loop started"
  | hubStopped _ => "Hub control loop stopped"
  | alreadyRegistered _ => "Connection already registered, ignoring duplicate"
  | queueFull _ => "Outbound queue full, disconnecting slow consumer"
  | notRegistered .. => "Could not register connection"
  | connectionAccepted .. => "Connection accepted"
  | connectionClosed _ => "Connection closed"
  | connectionLost .. => "Connection closed unexpectedly"
  | notUnregistered .. => "Failed to unregister connection"
  | malformedDropped .. => "Dropping malformed message"
  | orderReceived .. => "EnterOrder received"
  | orderNotForwarded .. => "Order not forwarded"
  | queueClosed _ => "Hub closed the queue, closing connection"
  | writeFailed .. => "Failed to write to connection"
  | pollingStarted .. => "Starting feed poll loop"
  | subscriptionLost | feedEnded _ => "Upstream feed subscription closed"
  | feedEndedMidRecord _ => "Upstream feed subscription closed mid-record"
  | publicationEnded _ => "Upstream feed publication closed"
  | publishNotConnected => "Order publish failed: feed not connected yet"
  | publishBackPressured => "Order publish failed: feed back pressured"
  | publishUnrecognized _ => "Order publish failed: unrecognized result code"
  | noSubscribers => "No feed subscribers detected"
  | feedConnected .. => "Connected to upstream feed"
  | feedDisconnected _ => "Disconnected from upstream feed"
  | listening _ => "Listening for WebSocket connections"
  | handshakeFailed .. => "WebSocket handshake failed"
  | healthServerStarting _ => "Starting health check server"

/-- An address that may be missing, as it is shown for inspection. -/
def inspectPeer : Option SocketAddress → String
  | some peer => "Some(" ++ peer.text ++ ")"
  | none => "None"

/-- The field that names a connection. -/
def connectionField (connection : Nat) : String × String :=
  ("conn_id", Text.decimal connection)

/-- The named fields of a notice. -/
def fields : Notice → List (String × String)
  | configured config =>
    [("listen_addr", config.listenAddr), ("feed_endpoint", config.feedEndpoint),
      ("inbound_route", config.route.name)]
  | feedLoopStopped fault | listenerStopped fault => [("error", fault.message)]
  | healthServerFailed error | feedEnded error | feedEndedMidRecord error
  | publicationEnded error => [("error", error.message)]
  | hubStopped remaining => [("remaining", Text.decimal remaining)]
  | alreadyRegistered c | queueFull c | connectionClosed c | queueClosed c => [connectionField c]
  | notRegistered c fault | connectionLost c fault | notUnregistered c fault
  | orderNotForwarded c fault | writeFailed c fault =>
    [connectionField c, ("error", fault.message)]
  | connectionAccepted c peer => [connectionField c, ("peer", inspectPeer peer)]
  | malformedDropped c reason => [connectionField c, ("reason", reason)]
  | orderReceived c order =>
    [connectionField c, ("account_id", Text.decimal order.account.toNat),
      ("order_id", Text.decimal order.id.toNat), ("book", order.book.name),
      ("side", order.side.name), ("order_type", order.kind.name),
      ("quantity", Text.decimal order.quantity.toNat), ("price", Text.decimal order.price.toNat)]
  | pollingStarted batch backoff =>
    [("batch_size", Text.decimal batch),
      ("idle_backoff_us", Text.decimal (UInt64.ofNat backoff.micros).toNat)]
  | publishUnrecognized code => [("code", Text.integer code)]
  | feedConnected endpoint eventStream orderStream =>
    [("endpoint", endpoint), ("event_stream", Text.decimal eventStream.toNat),
      ("order_stream", Text.decimal orderStream.toNat)]
  | feedDisconnected endpoint => [("endpoint", endpoint)]
  | listening address | healthServerStarting address => [("addr", address)]
  | handshakeFailed peer failure => [("peer", peer.text), ("error", failure.message)]
  | starting | stopped | shutdownRequested | hubStarted | subscriptionLost | publishNotConnected
  | publishBackPressured | noSubscribers => []

end Notice

end MarketGate
