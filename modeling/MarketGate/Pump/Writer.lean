import MarketGate.Connection
import MarketGate.Notice
import MarketGate.Queue

/-!
# The writer of a connection

The writer owns the sending half of a client's socket.  It sends what is in the queue, pings the
client at a fixed period, and stops when the queue is finished, when a send fails or takes too long,
or when the reader closes the connection.

It is a machine whose stages are the points where another task can come in between, so that looking
at the phase of the connection and acting on what was seen are two steps.  Where several things are
ready at once, the move says which of them the writer takes up.  The socket is the outside world:
how a send ends is the move's choice too, and every frame handed to the socket is recorded in
`Writer.handed`.
-/

namespace MarketGate

/-- The frames that a writer hands to the socket. -/
inductive Outgoing where
  | binary (payload : Bytes)
  | ping
  | close
  deriving DecidableEq, Repr

/-- Where a writer stands. -/
inductive Writer.Stage where
  /-- The connection is not accepted yet. -/
  | idle
  /-- Set up, and about to start its ping timer. -/
  | starting
  /-- About to look whether the reader closes; the next ping is due at the given time, here and in
  the stages below. -/
  | checking (nextPing : Nat)
  /-- Waiting for a message, for the time to ping, or for the reader to close. -/
  | selecting (nextPing : Nat)
  /-- Has a message, and is about to look once more whether the reader closes. -/
  | holding (payload : Bytes) (nextPing : Nat)
  /-- About to hand a frame to the socket. -/
  | handing (frame : Outgoing) (nextPing : Nat)
  /-- Waiting for the socket to take the frame, until the deadline. -/
  | flushing (frame : Outgoing) (deadline : Nat) (nextPing : Nat)
  /-- Out of the loop, with what went wrong. -/
  | ending (fault? : Option Fault)
  /-- Gone, and its half of the queue with it. -/
  | done
  deriving DecidableEq, Repr

/-- A writer. -/
structure Writer where
  stage : Writer.Stage := .idle
  /-- All frames handed to the socket, in order. -/
  handed : List Outgoing := []
  deriving DecidableEq, Repr

namespace Writer

/-- What a writer can do next. -/
inductive Move where
  /-- The one thing that its stage allows. -/
  | proceed
  /-- Take up the queue: its next message, or that it is finished. -/
  | dequeue
  /-- Take up that a ping is due. -/
  | tick
  /-- Take up that the reader closes. -/
  | hearClosing
  /-- The socket took the frame. -/
  | sent
  /-- The socket failed. -/
  | failed (failure : WebSocket.Failure)
  /-- The socket did not take the frame in time. -/
  | expire
  deriving DecidableEq, Repr

/-- How late a ping may be before the times of later pings move. -/
def pingTolerance : Nat := 5 * nanosPerMilli

/-- When the ping after one that was due at `due` is due.  A ping that comes much too late starts
the period anew. -/
def followingPing (period due now : Nat) : Nat :=
  if now > due + pingTolerance then now + period else due + period

/-- A writer with what it shares: its queue, with the hub, and its connection, with all. -/
structure Scene where
  writer : Writer
  queue : Queue
  connection : Connection
  deriving DecidableEq, Repr

/-- The scene with the writer in another stage. -/
def Scene.moveTo (v : Scene) (stage : Stage) : Scene := { v with writer := { v.writer with stage } }

/-- One move of a writer, with the ping period and the time allowed for a send. -/
def step? (pingPeriod writeWait now : Nat) (move : Move) (v : Scene) : Option Scene :=
  match v.writer.stage, move with
  | .starting, .proceed => some (v.moveTo (.checking (now + pingPeriod)))
  | .checking nextPing, .proceed =>
    some (v.moveTo (if v.connection.isClosing then .ending none else .selecting nextPing))
  | .selecting nextPing, .dequeue =>
    match v.queue.take? with
    | some (payload, queue) => some ({ v with queue }.moveTo (.holding payload nextPing))
    | none => if v.queue.hasSender then none else some (v.moveTo (.handing .close nextPing))
  | .selecting nextPing, .tick =>
    if nextPing ≤ now then
      some (v.moveTo (.handing .ping (followingPing pingPeriod nextPing now)))
    else none
  | .selecting _, .hearClosing =>
    if v.connection.closingPermit then
      some ({ v with connection := v.connection.hearClosing }.moveTo (.ending none))
    else none
  | .holding payload nextPing, .proceed =>
    some (v.moveTo (if v.connection.isClosing then .ending none
      else .handing (.binary payload) nextPing))
  | .handing frame nextPing, .proceed =>
    some { v with
      writer :=
        ⟨.flushing frame (now + writeWait) nextPing, v.writer.handed ++ [frame]⟩ }
  | .flushing frame _ nextPing, .sent =>
    match frame with
    | .binary _ =>
      some ({ v with connection := v.connection.touchWrite now }.moveTo (.checking nextPing))
    | .ping => some (v.moveTo (.checking nextPing))
    | .close => some (v.moveTo (.ending none))
  | .flushing .., .failed failure => some (v.moveTo (.ending (some (Fault.ofWebSocket failure))))
  | .flushing _ deadline _, .expire =>
    if deadline ≤ now then some (v.moveTo (.ending (some (.timeout "write")))) else none
  | .ending _, .proceed =>
    some ({ v with
      queue := v.queue.dropReceiver
      connection := v.connection.signalStopped }.moveTo .done)
  | _, _ => none

/-- What a writer tells about a move that it is about to make. -/
def report (move : Move) (v : Scene) : List Notice :=
  match v.writer.stage, move with
  | .selecting _, .dequeue =>
    if v.queue.isFinished && v.connection.stands .draining then [.queueClosed v.connection.id]
    else []
  | .ending (some fault), .proceed =>
    if fault.isUnexpected then [.writeFailed v.connection.id fault] else []
  | _, _ => []

end Writer

end MarketGate
