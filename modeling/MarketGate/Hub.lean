import MarketGate.Connection
import MarketGate.Metrics
import MarketGate.Notice
import MarketGate.Queue

/-!
# The hub

The hub alone decides who receives broadcasts.  It owns a registry of connections, each with the
sender of its queue, and works through commands one after the other:

* *register* enters a connection, unless its number is taken;
* *unregister* removes one: its queue gets no more messages, and what is in it is still sent;
* *broadcast* offers a message to every registered queue and removes those that refuse it;
* *count* asks how many are registered.

Connections and queues are shared with the tasks of the clients.  Here they stand in two lists, and
everyone refers to them by their position; `Hub.apply` is what a command does to all of that,
`Hub.report` what the hub tells its operators about it, and `Hub.answer?` what it answers.
-/

namespace MarketGate

/-- An entry of the registry: the positions of a connection and of its queue. -/
structure Registration where
  connection : Nat
  queue : Nat
  deriving DecidableEq, Repr

/-- What the hub is asked to do. -/
inductive Command where
  | register (registration : Registration)
  /-- Remove the connection with a number. -/
  | unregister (id : Nat)
  | broadcast (payload : Bytes)
  /-- How many connections are registered?  The answer goes out under the ticket. -/
  | count (ticket : Nat)
  deriving DecidableEq, Repr

/-- The registry, with the connections, queues and metrics that it acts on. -/
structure Hub where
  /-- Registered connections under their numbers, oldest first. -/
  registry : List (Nat × Registration) := []
  connections : List Connection := []
  queues : List Queue := []
  metrics : Metrics := {}
  deriving DecidableEq, Repr

namespace Hub

/-- Changes one connection. -/
def onConnection (key : Nat) (f : Connection → Connection) (h : Hub) : Hub :=
  { h with connections := h.connections.modify key f }

/-- Changes one queue. -/
def onQueue (key : Nat) (f : Queue → Queue) (h : Hub) : Hub :=
  { h with queues := h.queues.modify key f }

/-- Changes the metrics. -/
def onMetrics (f : Metrics → Metrics) (h : Hub) : Hub := { h with metrics := f h.metrics }

/-- Whether a connection with a number is registered. -/
def isRegistered (h : Hub) (id : Nat) : Bool := h.registry.any fun e => e.1 == id

/-- How many connections are registered. -/
def size (h : Hub) : Nat := h.registry.length

/-- Sets the gauge of registered connections. -/
def gauge (h : Hub) : Hub := h.onMetrics fun m => { m with activeConnections := h.size }

/-- Enters a connection.  If its number is taken, the entry that is there stays, and the sender of
the new queue is dropped. -/
def register (r : Registration) (h : Hub) : Hub :=
  match h.connections[r.connection]? with
  | none => h
  | some c =>
    if h.isRegistered c.id then h.onQueue r.queue Queue.dropSender
    else
      let entered := h.onConnection r.connection Connection.markRegistered
      let entered := { entered with registry := entered.registry ++ [(c.id, r)] }
      (entered.onMetrics fun m => { m with registrations := m.registrations + 1 }).gauge

/-- Removes an entry: the connection drains if it was registered, and the sender of its queue is
dropped. -/
def release (r : Registration) (h : Hub) : Hub :=
  (h.onConnection r.connection Connection.beginDraining).onQueue r.queue Queue.dropSender

/-- Removes the connection with a number, if it is registered. -/
def unregister (id : Nat) (h : Hub) : Hub :=
  match h.registry.lookup id with
  | none => h
  | some r =>
    let rest := { h with registry := h.registry.filter fun e => e.1 != id }
    (rest.release r).gauge

/-- The state of a fan-out: the queues so far, and the numbers that refused with their reasons. -/
structure FanOut where
  queues : List Queue
  refused : List (Nat × Queue.Refusal) := []
  deriving DecidableEq, Repr

/-- Offers the message to the queue of one entry. -/
def FanOut.step (payload : Bytes) (f : FanOut) (entry : Nat × Registration) : FanOut :=
  match f.queues[entry.2.queue]? with
  | none => f
  | some q =>
    match q.offer payload with
    | .ok q => { f with queues := f.queues.set entry.2.queue q }
    | .error refusal => { f with refused := f.refused ++ [(entry.1, refusal)] }

/-- Offers a message to the queues of all entries, in order. -/
def fanOut (payload : Bytes) (h : Hub) : FanOut :=
  h.registry.foldl (FanOut.step payload) ⟨h.queues, []⟩

/-- The numbers of those whose queue was full. -/
def FanOut.full (f : FanOut) : List Nat :=
  (f.refused.filter fun r => r.2 = .full).map fun r => r.1

/-- Fans a message out and removes everyone whose queue refused it. -/
def broadcast (payload : Bytes) (h : Hub) : Hub :=
  let f := h.fanOut payload
  let served := { h with queues := f.queues }
  let counted := served.onMetrics fun m =>
    { m with backpressureDisconnects := m.backpressureDisconnects + f.full.length }
  let left := f.refused.foldl (fun h r => h.unregister r.1) counted
  left.onMetrics fun m => { m with broadcasts := m.broadcasts + 1 }

/-- What a command does. -/
def apply (command : Command) (h : Hub) : Hub :=
  match command with
  | .register r => h.register r
  | .unregister id => h.unregister id
  | .broadcast payload => h.broadcast payload
  | .count _ => h

/-- What the hub tells about a command that it is about to carry out. -/
def report (command : Command) (h : Hub) : List Notice :=
  match command with
  | .register r =>
    match h.connections[r.connection]? with
    | some c => if h.isRegistered c.id then [.alreadyRegistered c.id] else []
    | none => []
  | .broadcast payload => (h.fanOut payload).full.map .queueFull
  | .unregister _ | .count _ => []

/-- The answer to a command that asks for one, with its ticket. -/
def answer? (command : Command) (h : Hub) : Option (Nat × Nat) :=
  match command with
  | .count ticket => some (ticket, h.size)
  | _ => none

/-- The end of the hub: everyone who is left drains, and the registry is empty. -/
def stop (h : Hub) : Hub :=
  let emptied := h.registry.foldl (fun h e => h.release e.2) h
  { emptied with registry := [] }.gauge

/-- The hub is lost without a word: senders are gone, but phases and metrics stay as they were. -/
def abandon (h : Hub) : Hub :=
  let emptied := h.registry.foldl (fun h e => h.onQueue e.2.queue Queue.dropSender) h
  { emptied with registry := [] }

/-- A command is lost with the mailbox it is in, and so is the sender that it carries. -/
def discard (command : Command) (h : Hub) : Hub :=
  match command with
  | .register r => h.onQueue r.queue Queue.dropSender
  | _ => h

end Hub

end MarketGate
