import MarketGate.System
import MarketGate.WebSocket.Endpoint

/-!
# A gateway on the bench

A bench runs a gateway by itself: clients are connected over pipes in memory, time stands still
unless it is moved, and the tasks take turns in a fixed order.  So a run depends on nothing but what
is done to it.

The gateway is the machine of `MarketGate.System`, and a bench only chooses its actions.  A task
that becomes able to go on joins the end of a line; the first in line goes on until it can do no
more. Where a task could take up one of several things, a reader takes a message before it looks at
the clock, and hears of a stopped writer last; a writer looks at its queue first, then hears of a
closing reader, and then looks at the clock.

* `Bench.turn?` is the next step of a task, `Bench.settle` lets everyone go on until nobody can.
* `Bench.advance` moves the clock from one timer to the next and settles at each of them.
-/

namespace MarketGate

open WebSocket

/-- A client on the bench, with both ends of its connection. -/
structure Client where
  /-- The client at its end; gone once it has hung up. -/
  present : Bool := true
  /-- The serving end; gone once reader and writer are done. -/
  served : Bool := true
  endpoint : Endpoint := {}
  link : Link
  /-- Bytes that the client has read and that make no whole frame yet. -/
  inbox : Bytes := []
  deriving Repr

/-- The tasks of a gateway. -/
inductive Task where
  | pump (p : Nat)
  | reader (p : Nat)
  | writer (p : Nat)
  | hub
  | bridge
  deriving DecidableEq, Repr

/-- A gateway with its clients, and the line of tasks that can go on. -/
structure Bench where
  system : System
  /-- The clients, at the positions of their pumps. -/
  clients : List Client := []
  ready : List Task := []
  deriving Repr

namespace Bench

/-- Does something to the gateway, if it is possible. -/
def act? (action : Action) (b : Bench) : Option Bench :=
  (b.system.step? action).map fun system => { b with system }

/-- Does something to the gateway; nothing happens if it is not possible. -/
def act (action : Action) (b : Bench) : Bench := (b.act? action).getD b

/-- Changes one client. -/
def onClient (p : Nat) (f : Client → Client) (b : Bench) : Bench :=
  { b with clients := b.clients.modify p f }

/-! ## Sockets -/

/-- What a message of the stream is to a reader. -/
def incoming : Option Message → Incoming
  | none => .finished
  | some (.binary data) => .binary data
  | some (.pong _) => .pong
  | some (.text _) | some (.ping _) => .other
  | some (.close frame?) => .close (frame?.map fun f => f.1)

/-- The frame that a writer's frame is on the wire. -/
def wireFrame : Outgoing → Frame
  | .binary payload => { opcode := binaryOpcode, payload }
  | .ping => { opcode := pingOpcode }
  | .close => closeFrame none

/-- Whether reading could get anywhere: there is a frame, or there are bytes or the end of them, or
an answer is to be sent. -/
def canRead (c : Client) : Bool :=
  c.endpoint.hasFrame || !c.link.toServer.bytes.isEmpty || c.link.toServer.isClosed
    || c.endpoint.reply?.isSome || !c.endpoint.status.canRead || c.endpoint.readEnded
    || (c.endpoint.unflushed && (0 < c.link.toClient.room || c.endpoint.output.isEmpty))

/-- Whether writing could get anywhere: there is room, or nothing to write. -/
def canWrite (c : Client) : Bool :=
  0 < c.link.toClient.room || c.link.toClient.isClosed || c.endpoint.output.isEmpty

/-- Reads from the socket of a client, as far as there is anything to read. -/
def readSocket? (p : Nat) (c : Client) (b : Bench) : Option Bench :=
  if !canRead c then none
  else
    let (attempt, endpoint, link) := c.endpoint.next c.link
    let b := b.onClient p fun c => { c with endpoint, link }
    match attempt with
    | .done message => b.act? (.read p (.receive (incoming message)))
    | .failed failure => b.act? (.read p (.receive (.failed failure)))
    | .blocked => some b

/-- Hands a frame to the socket of a client. -/
def handFrame? (p : Nat) (frame : Outgoing) (c : Client) (b : Bench) : Option Bench := do
  let (attempt, endpoint, link) := c.endpoint.submit c.link (wireFrame frame)
  let b := b.onClient p fun c => { c with endpoint, link }
  let b ← b.act? (.write p .proceed)
  match attempt with
  | .failed failure => b.act? (.write p (.failed failure))
  | .done () | .blocked => some b

/-- Lets the socket of a client take what was handed to it. -/
def flushSocket? (p : Nat) (c : Client) (b : Bench) : Option Bench :=
  if canWrite c then
    let (attempt, endpoint, link) := c.endpoint.drain c.link
    let b := b.onClient p fun c => { c with endpoint, link }
    match attempt with
    | .done () => b.act? (.write p .sent)
    | .failed failure => b.act? (.write p (.failed failure))
    | .blocked => some b
  else b.act? (.write p .expire)

/-! ## Turns -/

/-- The next step of a reader. -/
def readerTurn? (p : Nat) (b : Bench) : Option Bench := do
  let pump ← b.system.pumps[p]?
  let c ← b.clients[p]?
  match pump.reader.stage with
  | .waiting _ =>
    b.readSocket? p c <|> b.act? (.read p .expire) <|> b.act? (.read p .hearStopped)
  | _ => b.act? (.read p .proceed)

/-- The next step of a writer. -/
def writerTurn? (p : Nat) (b : Bench) : Option Bench := do
  let pump ← b.system.pumps[p]?
  let c ← b.clients[p]?
  match pump.writer.stage with
  | .selecting _ =>
    b.act? (.write p .dequeue) <|> b.act? (.write p .hearClosing) <|> b.act? (.write p .tick)
  | .handing frame _ => b.handFrame? p frame c
  | .flushing .. => b.flushSocket? p c
  | _ => b.act? (.write p .proceed)

/-- The next step of a task. -/
def turn? (task : Task) (b : Bench) : Option Bench :=
  match task with
  | .pump p => b.act? (.enter p) <|> b.act? (.leave p)
  | .reader p => b.readerTurn? p
  | .writer p => b.writerTurn? p
  | .hub => b.act? .serve <|> b.act? .stopHub
  | .bridge => b.act? .bridge

/-- Whether neither reader nor writer of a pump holds the socket any more. -/
def isUnserved (pump : Pump) : Bool :=
  pump.stage = .returned
    || (pump.writer.stage = .done
      && match pump.reader.stage with
        | .idle | .starting | .waiting _ | .relaying .. | .publishing .. => false
        | _ => true)

/-- Closes the connection of a client that nobody serves any more. -/
def release (p : Nat) (b : Bench) : Bench :=
  match b.system.pumps[p]? with
  | some pump =>
    if isUnserved pump then
      b.onClient p fun c =>
        { c with served := false, link := ⟨c.link.toServer.close, c.link.toClient.close⟩ }
    else b
  | none => b

/-- Closes the connection that a task may have been the last to serve. -/
def releaseAfter (task : Task) (b : Bench) : Bench :=
  match task with
  | .pump p | .reader p | .writer p => b.release p
  | .hub | .bridge => b

/-- All tasks, in the order in which they are looked at. -/
def tasks (b : Bench) : List Task :=
  (List.range b.system.pumps.length).flatMap (fun p => [.pump p, .reader p, .writer p])
    ++ [.hub, .bridge]

/-- Lets every task that can go on join the line. -/
def wake (b : Bench) : Bench :=
  let able := b.tasks.filter fun t => !b.ready.contains t && (b.turn? t).isSome
  { b with ready := b.ready ++ able }

/-- More steps than a bench ever makes without anything new being done to it. -/
def patience : Nat := 10000000

/-- Lets one task go on until it can do no more. -/
def runTask (task : Task) : (steps : Nat) → Bench → Bench
  | 0, b => b
  | steps + 1, b =>
    match b.turn? task with
    | none => b
    | some b => runTask task steps (b.releaseAfter task)

/-- Lets the first in line go on, and those that this wakes join the line. -/
def runFirst (b : Bench) : Bench :=
  match b.ready with
  | [] => b
  | task :: rest => (runTask task patience { b with ready := rest }).wake

/-- Lets tasks go on as long as there are any in line. -/
def runAll : (steps : Nat) → Bench → Bench
  | 0, b => b
  | steps + 1, b => if b.ready.isEmpty then b else runAll steps b.runFirst

/-- Lets everyone go on until nobody can. -/
def settle (b : Bench) : Bench := runAll patience b.wake

/-! ## Time -/

/-- The times that the tasks of a pump wait for. -/
def pumpTimers (pump : Pump) : List Nat :=
  (match pump.reader.stage with
    | .waiting deadline => [deadline]
    | _ => [])
  ++ match pump.writer.stage with
    | .selecting nextPing => [nextPing]
    | .flushing _ deadline _ => [deadline]
    | _ => []

/-- The time that the bridge waits for. -/
def bridgeTimers (bridge : Bridge) : List Nat :=
  match bridge.stage with
  | .resting wake => [wake]
  | _ => []

/-- The time at which a timer goes off: the clock shows whole milliseconds. -/
def tickOf (time : Nat) : Nat := (time + (nanosPerMilli - 1)) / nanosPerMilli * nanosPerMilli

/-- When the next timer goes off that has not gone off yet. -/
def nextTick? (b : Bench) : Option Nat :=
  let ticks := (b.system.pumps.flatMap pumpTimers ++ bridgeTimers b.system.bridge).map tickOf
  (ticks.filter fun tick => b.system.now < tick).min?

/-- Moves the clock to a time that is not over yet, and settles. -/
def moveTo (time : Nat) (b : Bench) : Bench :=
  (b.act (.advance (time - b.system.now))).settle

/-- Whether the loop of the bridge is over. -/
def bridgeEnded (b : Bench) : Bool :=
  match b.system.bridge.stage with
  | .ended _ => true
  | _ => false

/-- Moves the clock to a target, stopping at every timer on the way; with `untilEnded`, only as long
as the loop of the bridge is not over. -/
def advanceTo (target : Nat) (untilEnded : Bool) : (steps : Nat) → Bench → Bench
  | 0, b => b
  | steps + 1, b =>
    if untilEnded && b.bridgeEnded then b
    else
      match b.nextTick? with
      | some tick =>
        if tick ≤ target then
          advanceTo target untilEnded steps (b.moveTo tick)
        else b.moveTo target
      | none => b.moveTo target

/-- Lets time pass. -/
def advance (nanos : Nat) (b : Bench) : Bench :=
  advanceTo (b.system.now + nanos) false patience b

/-- Lets time pass as long as the loop of the bridge is not over. -/
def advanceBridge (nanos : Nat) (b : Bench) : Bench :=
  advanceTo (b.system.now + nanos) true patience b

end Bench

end MarketGate
