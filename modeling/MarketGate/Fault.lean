import MarketGate.Text.Quoted
import MarketGate.WebSocket.Failure

/-!
# Faults of the gateway

Everything that can go wrong in the gateway falls into ten kinds.  A fault is *expected* when it is
the regular end of a connection, and unexpected otherwise; unexpected faults are reported at error
level.

* `Fault.ofCloseCode` judges the code a peer closes with:
  **`Fault.ofCloseCode_eq_connectionClosed_iff`** says that exactly no code, 1000, 1001 and 1005 are
  regular.
* `Fault.ofWebSocket` and `Fault.ofIo` judge failures of the stream below.
-/

namespace MarketGate

/-- What went wrong. -/
inductive Fault where
  /-- A message does not follow its format. -/
  | malformedMessage (reason : String)
  /-- The connection ended as connections do. -/
  | connectionClosed
  /-- The connection ended in another way. -/
  | connectionLost (reason : String)
  | feedUnavailable (reason : String)
  | startupFailure (reason : String)
  | webSocket (reason : String)
  /-- The named thing did not happen in time. -/
  | timeout (awaited : String)
  /-- The hub's control loop has ended. -/
  | hubUnavailable
  | configuration (reason : String)
  | io (reason : String)
  deriving DecidableEq, Repr

namespace Fault

/-- The words for a fault. -/
def message : Fault → String
  | malformedMessage reason => "Malformed message: " ++ reason
  | connectionClosed => "Connection closed"
  | connectionLost reason => "Connection closed unexpectedly: " ++ reason
  | feedUnavailable reason => "Upstream feed unavailable: " ++ reason
  | startupFailure reason => "Startup failure: " ++ reason
  | webSocket reason => "WebSocket error: " ++ reason
  | timeout awaited => "Timed out waiting for " ++ awaited
  | hubUnavailable => "Hub control loop is not running"
  | configuration reason => "Configuration error: " ++ reason
  | io reason => "I/O error: " ++ reason

/-- The name of a fault's kind. -/
def kindName : Fault → String
  | malformedMessage _ => "MalformedMessage"
  | connectionClosed => "ConnectionClosedExpectedly"
  | connectionLost _ => "ConnectionClosedUnexpectedly"
  | feedUnavailable _ => "UpstreamUnavailable"
  | startupFailure _ => "StartupFailure"
  | webSocket _ => "WebSocket"
  | timeout _ => "Timeout"
  | hubUnavailable => "HubUnavailable"
  | configuration _ => "ConfigError"
  | io _ => "Io"

/-- The text that a fault carries, if it carries one. -/
def detail? : Fault → Option String
  | malformedMessage reason | connectionLost reason | feedUnavailable reason
  | startupFailure reason | webSocket reason | timeout reason | configuration reason
  | io reason => some reason
  | connectionClosed | hubUnavailable => none

/-- A fault as it is shown for inspection: its kind, and its text in quotes. -/
def inspect (fault : Fault) : String :=
  match fault.detail? with
  | some text => fault.kindName ++ "(" ++ Text.quoted text ++ ")"
  | none => fault.kindName

/-- Whether a fault is to be reported as an error. -/
def isUnexpected (fault : Fault) : Bool := fault ≠ connectionClosed

/-- Close codes that a well-behaved peer leaves with: normal closure, going away, no status. -/
def regularCloseCodes : List Nat := [1000, 1001, 1005]

/-- The fault for the code a peer closed with, if it gave one. -/
def ofCloseCode : Option Nat → Fault
  | none => connectionClosed
  | some code =>
    if code ∈ regularCloseCodes then connectionClosed
    else connectionLost ("close code " ++ Text.decimal code)

/-- Only a missing code and the regular codes count as a regular end. -/
theorem ofCloseCode_eq_connectionClosed_iff (code : Option Nat) :
    ofCloseCode code = connectionClosed ↔ ∀ c, code = some c → c ∈ regularCloseCodes := by
  cases code with
  | none => simp [ofCloseCode]
  | some c => by_cases h : c ∈ regularCloseCodes <;> simp [ofCloseCode, h]

/-- The fault for a failed stream.  The end of a stream is regular; transport failures and broken
rules mean that the connection was lost; the rest is a fault of the messages themselves. -/
def ofWebSocket : WebSocket.Failure → Fault
  | .connectionClosed | .alreadyClosed => connectionClosed
  | .io error => connectionLost error.message
  | .protocol violation => connectionLost violation.message
  | failure => webSocket failure.message

/-- The fault for a failed input or output operation. -/
def ofIo (error : Io.Error) : Fault := io error.message

end Fault

end MarketGate
