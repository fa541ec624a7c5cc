import MarketGate.Network.Address

/-!
# Connections

The identity and the lifecycle of one accepted client.  The reader, the writer and the hub share a
connection and change its phase by single compare-exchange steps, so whoever moves it first wins:

* the hub *registers* a connecting connection and *drains* a registered one;
* the reader *closes* a registered connection or, in a second attempt, a connecting one;
* the pump marks a connection closed when both of its tasks are done.

Beside the phase there are two wake-up permits.  A permit that is given while nobody waits is kept
for the next one who does, and giving it twice is the same as giving it once.

* **`Connection.exchange_of_ne`** and **`Connection.phase_exchange`**: an exchange acts exactly when
  the phase is the one it starts from.
-/

namespace MarketGate

/-- The phases of a connection's life. -/
inductive Phase where
  | connecting
  | registered
  /-- The hub has closed the queue; what is in it is still sent before the connection closes. -/
  | draining
  /-- The reader has seen the end; what is in the queue is discarded. -/
  | closing
  | closed
  deriving DecidableEq, Repr

/-- The name of a phase. -/
def Phase.name : Phase → String
  | connecting => "Connecting"
  | registered => "Registered"
  | draining => "Draining"
  | closing => "Closing"
  | closed => "Closed"

/-- One accepted client. -/
structure Connection where
  id : Nat
  /-- The address of the client. -/
  peer : Option SocketAddress := none
  phase : Phase := .connecting
  /-- The permit that tells the writer of a reader that closes. -/
  closingPermit : Bool := false
  /-- The permit that tells the reader of a writer that has stopped. -/
  stoppedPermit : Bool := false
  /-- When the client connected, on the clock in nanoseconds. -/
  connectedAt : Nat := 0
  /-- When a message was last written to the client. -/
  lastWrite : Nat := connectedAt
  /-- When the client last answered a ping. -/
  lastPong : Nat := connectedAt
  deriving DecidableEq, Repr

namespace Connection

/-- Whether an exchange that starts from a phase would succeed. -/
def stands (c : Connection) (phase : Phase) : Bool := c.phase = phase

/-- Compare-exchange on the phase: moves to `target` if the phase is `source`. -/
def exchange (c : Connection) (source target : Phase) : Connection :=
  if c.phase = source then { c with phase := target } else c

theorem exchange_of_ne {c : Connection} {source target : Phase} (h : c.phase ≠ source) :
    c.exchange source target = c := by
  simp [exchange, h]

theorem phase_exchange (c : Connection) (source target : Phase) :
    (c.exchange source target).phase = if c.phase = source then target else c.phase := by
  unfold exchange
  split <;> simp_all

@[simp] theorem id_exchange (c : Connection) (source target : Phase) :
    (c.exchange source target).id = c.id := by
  unfold exchange
  split <;> rfl

/-- The hub enters the connection into its registry. -/
def markRegistered (c : Connection) : Connection := c.exchange .connecting .registered

/-- The hub has closed the queue. -/
def beginDraining (c : Connection) : Connection := c.exchange .registered .draining

/-- Tells the writer that the reader closes. -/
def wakeWriter (c : Connection) : Connection := { c with closingPermit := true }

/-- Whether closing would succeed if nobody came in between. -/
def mayClose (c : Connection) : Bool := c.stands .registered || c.stands .connecting

/-- The reader closes the connection, with nobody in between: it tries a registered connection
first, then a connecting one, and wakes the writer if either worked. -/
def beginClosing (c : Connection) : Connection :=
  if c.stands .registered then (c.exchange .registered .closing).wakeWriter
  else if c.stands .connecting then (c.exchange .connecting .closing).wakeWriter
  else c

/-- Both tasks of the connection are done, or it could not be registered. -/
def markClosed (c : Connection) : Connection := { c with phase := .closed }

/-- Whether the reader is closing the connection. -/
def isClosing (c : Connection) : Bool := c.stands .closing

/-- Tells the reader that the writer has stopped. -/
def signalStopped (c : Connection) : Connection := { c with stoppedPermit := true }

/-- The writer takes the permit of a reader that closes. -/
def hearClosing (c : Connection) : Connection := { c with closingPermit := false }

/-- The reader takes the permit of a writer that has stopped. -/
def hearStopped (c : Connection) : Connection := { c with stoppedPermit := false }

/-- A message was written. -/
def touchWrite (c : Connection) (now : Nat) : Connection := { c with lastWrite := now }

/-- A pong was read. -/
def touchPong (c : Connection) (now : Nat) : Connection := { c with lastPong := now }

end Connection

end MarketGate
