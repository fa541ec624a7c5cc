import MarketGate.Event
import MarketGate.Feed.Outcome
import MarketGate.Queue

/-!
# Publications

The sending side of a feed.  A buffer is offered without waiting, and the answer is one number: the
position of the stream behind the buffer, or a code below zero.

There are two kinds.  A publication *in memory* collects what it accepts and can be told to refuse;
one *over a socket* hands its buffers to a bounded queue that a task writes to the socket.
-/

namespace MarketGate

/-- A publication that collects what it accepts. -/
structure MemoryPublication where
  /-- Accepted buffers that were not drained yet. -/
  published : List Bytes := []
  /-- How many bytes were ever accepted. -/
  position : Nat := 0
  connected : Bool := true
  backPressured : Bool := false
  deriving DecidableEq, Repr

namespace MemoryPublication

/-- Offers a buffer. -/
def offer (p : MemoryPublication) (buffer : Bytes) : Int × MemoryPublication :=
  if !p.connected then (notConnectedCode, p)
  else if p.backPressured then (backPressuredCode, p)
  else
    let position := p.position + buffer.length
    (position, { p with published := p.published ++ [buffer], position })

/-- Takes everything that was accepted since the last time. -/
def drain (p : MemoryPublication) : List Bytes × MemoryPublication :=
  (p.published, { p with published := [] })

end MemoryPublication

/-- How many buffers may wait for a socket. -/
def socketQueueCapacity : Nat := 1024

/-- A publication over a socket. -/
structure SocketPublication where
  /-- The buffers on their way to the socket. -/
  queue : Queue := { capacity := socketQueueCapacity }
  /-- How many bytes were ever accepted. -/
  position : Nat := 0
  deriving DecidableEq, Repr

/-- Offers a buffer. -/
def SocketPublication.offer (p : SocketPublication) (buffer : Bytes) : Int × SocketPublication :=
  match p.queue.offer buffer with
  | .ok queue =>
    let position := p.position + buffer.length
    (position, ⟨queue, position⟩)
  | .error .full => (backPressuredCode, p)
  | .error .closed => (notConnectedCode, p)

/-- The sending side of a feed. -/
inductive Publication where
  | memory (p : MemoryPublication)
  | socket (p : SocketPublication)
  deriving DecidableEq, Repr

namespace Publication

/-- Offers a buffer. -/
def offer (buffer : Bytes) : Publication → Int × Publication
  | memory p => ((p.offer buffer).1, memory (p.offer buffer).2)
  | socket p => ((p.offer buffer).1, socket (p.offer buffer).2)

/-- Whether anyone takes what is published. -/
def isConnected : Publication → Bool
  | memory p => p.connected
  | socket p => p.queue.hasReceiver

/-- Changes a publication in memory. -/
def onMemory (f : MemoryPublication → MemoryPublication) : Publication → Publication
  | memory p => memory (f p)
  | socket p => socket p

end Publication

end MarketGate
