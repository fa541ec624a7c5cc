import MarketGate.Connection
import MarketGate.Notice

/-!
# The reader of a connection

The reader owns the receiving half of a client's socket.  It acts on what the client sends until the
client goes away, stays silent for too long, or the writer has stopped; then it moves the connection
to its closing phase, wakes the writer, and asks the hub to remove the connection.

Like the writer it is a machine whose stages are the points where another task can come in between.
Closing takes two attempts, one from each phase that may be closed, and the two are separate steps.
This module has the stages and what a received message leads to; the steps that reach the hub or the
feed are part of `MarketGate.System`.
-/

namespace MarketGate

/-- What the socket gives to a reader. -/
inductive Incoming where
  | binary (data : Bytes)
  | pong
  /-- A ping, or a text. -/
  | other
  /-- The client closes, with a code or without. -/
  | close (code : Option Nat)
  | failed (failure : WebSocket.Failure)
  /-- The stream is over. -/
  | finished
  deriving DecidableEq, Repr

/-- Where a reader stands. -/
inductive Reader.Stage where
  /-- The connection is not accepted yet. -/
  | idle
  /-- Set up, and about to start waiting. -/
  | starting
  /-- Waiting for a message until the deadline. -/
  | waiting (deadline : Nat)
  /-- About to send a message on to the hub. -/
  | relaying (data : Bytes) (deadline : Nat)
  /-- About to publish an order. -/
  | publishing (data : Bytes) (deadline : Nat)
  /-- Leaves for a reason, and is about to try to close a registered connection. -/
  | claiming (reason : Fault)
  /-- Found the connection not registered, and is about to try to close a connecting one. -/
  | claimingEarly (reason : Fault)
  /-- Has closed the connection, and is about to wake the writer. -/
  | waking (reason : Fault)
  /-- About to tell why it leaves. -/
  | reporting (reason : Fault)
  /-- About to ask the hub to remove the connection. -/
  | leaving (reason : Fault)
  | done (reason : Fault)
  deriving DecidableEq, Repr

/-- A reader. -/
structure Reader where
  stage : Reader.Stage := .idle
  deriving DecidableEq, Repr

namespace Reader

/-- What a reader can do next. -/
inductive Move where
  /-- The one thing that its stage allows. -/
  | proceed
  /-- The socket gives something. -/
  | receive (incoming : Incoming)
  /-- The client was silent for too long. -/
  | expire
  /-- Take up that the writer has stopped. -/
  | hearStopped
  deriving DecidableEq, Repr

/-- The stage that something received leads to.  Only a pong moves the deadline. -/
def Stage.afterReceiving (route : Route) (pongWait now deadline : Nat) : Incoming → Stage
  | .binary data =>
    match route with
    | .relay => .relaying data deadline
    | .orderEntry => .publishing data deadline
  | .pong => .waiting (now + pongWait)
  | .other => .waiting deadline
  | .close code => .claiming (Fault.ofCloseCode code)
  | .failed failure => .claiming (Fault.ofWebSocket failure)
  | .finished => .claiming .connectionClosed

/-- Whether a reader is done. -/
def isDone (r : Reader) : Bool :=
  match r.stage with
  | .done _ => true
  | _ => false

/-- What a reader tells about the reason that it leaves for. -/
def farewell (id : Nat) (reason : Fault) : Notice :=
  if reason.isUnexpected then .connectionLost id reason else .connectionClosed id

end Reader

end MarketGate
