import MarketGate.Feed.Bridge
import MarketGate.Feed.Memory
import MarketGate.Hub
import MarketGate.Pump.Reader
import MarketGate.Pump.Writer

/-!
# The gateway as one machine

A gateway is a set of tasks that run side by side: the hub, the feed bridge, and for every client a
reader, a writer and the task that set them up.  `System` is the state of all of them together with
what they share, and `System.step?` makes one step of one of them, or of the outside world.

Which task makes the next step is not decided here.  An `Action` names the step, with every choice
that is not the gateway's own: what a socket gives or takes, which of several ready things a task
takes up, how time passes.  A step that is not possible gives nothing.  So what holds in every state
that `System.run?` reaches holds however the tasks are scheduled, and a schedule is a list of
actions.

Requests to the hub go through a bounded mailbox.  A task that finds it full waits, which here means
that its step is not possible; once the hub is gone every request is refused.
-/

namespace MarketGate

/-- What the pumps and the bridge of a gateway go by.  Times are in nanoseconds. -/
structure Settings where
  route : Route
  queueCapacity : Nat
  writeWait : Nat
  pongWait : Nat
  pingPeriod : Nat
  pollBatch : Nat
  idleBackoff : Duration
  deriving DecidableEq, Repr

/-- The part of a configuration that pumps and bridge go by. -/
def Config.settings (c : Config) : Settings :=
  { route := c.route
    queueCapacity := c.queueCapacity.toNat
    writeWait := c.writeWait.nanos
    pongWait := c.pongWait.nanos
    pingPeriod := c.pingPeriod.nanos
    pollBatch := c.pollBatch.toNat
    idleBackoff := c.idleBackoff }

/-- Where the task that sets up a client's reader and writer stands. -/
inductive Pump.Stage where
  /-- About to ask the hub to register the connection. -/
  | registering
  /-- Waiting for reader and writer. -/
  | running
  | returned
  deriving DecidableEq, Repr

/-- The tasks of one client, with the positions of its connection and its queue. -/
structure Pump where
  connection : Nat
  queue : Nat
  stage : Pump.Stage := .registering
  reader : Reader := {}
  writer : Writer := {}
  deriving DecidableEq, Repr

/-- Whether a task of a client can still reach the hub. -/
def Pump.holdsHub (p : Pump) : Bool := p.stage ≠ .returned

/-- Whether the hub takes requests. -/
inductive HubLoop where
  | running
  /-- Nobody could reach it any more, and it ended. -/
  | stopped
  /-- It was lost while it was running. -/
  | lost
  deriving DecidableEq, Repr

/-- The publication that orders go to, behind the answers that it was told to give instead. -/
structure Forwarder where
  publication : Publication := .memory {}
  /-- Answers to the next offers; as long as there are any, nothing is offered. -/
  rehearsed : List Int := []
  deriving DecidableEq, Repr

namespace Forwarder

/-- Offers a buffer. -/
def offer (f : Forwarder) (buffer : Bytes) : Int × Forwarder :=
  match f.rehearsed with
  | code :: rest => (code, { f with rehearsed := rest })
  | [] => ((f.publication.offer buffer).1, { f with publication := (f.publication.offer buffer).2 })

/-- What is told about an offer with an outcome, and about a publication that nobody listens to. -/
def report (outcome : PublishOutcome) (connected : Bool) : List Notice :=
  (match outcome with
    | .accepted _ => []
    | .notConnected => [.publishNotConnected]
    | .backPressured => [.publishBackPressured]
    | .unrecognized code => [.publishUnrecognized code])
  ++ if connected then [] else [.noSubscribers]

end Forwarder

/-- How many requests the hub's mailbox holds. -/
def mailboxCapacity : Nat := 1024

/-- The state of a gateway. -/
structure System where
  settings : Settings
  /-- The clock, in nanoseconds. -/
  now : Nat := 0
  hub : Hub := {}
  loop : HubLoop := .running
  /-- Requests that the hub has not dealt with, oldest first. -/
  mailbox : List Command := []
  /-- The number of the next connection. -/
  nextId : Nat := 1
  pumps : List Pump := []
  bridge : Bridge := {}
  subscription : Subscription := {}
  forwarder : Forwarder := {}
  /-- Whether someone outside can still reach the hub. -/
  attached : Bool := true
  /-- The answers of the hub under their tickets, newest first. -/
  answers : List (Nat × Nat) := []
  /-- What was told so far, newest first. -/
  notices : List Notice := []
  deriving Repr

/-- A step of a task, or of the world outside. -/
inductive Action where
  /-- Time passes. -/
  | advance (nanos : Nat)
  /-- A client connects. -/
  | connect (peer : Option SocketAddress)
  /-- Someone outside asks the hub for something. -/
  | request (command : Command)
  /-- Everyone outside lets go of the hub. -/
  | detach
  /-- The hub is lost. -/
  | loseHub
  /-- The hub deals with the next request. -/
  | serve
  /-- The hub ends, because nobody can reach it. -/
  | stopHub
  /-- The pump at a position asks for registration. -/
  | enter (pump : Nat)
  /-- The pump at a position finds its reader and writer done. -/
  | leave (pump : Nat)
  | read (pump : Nat) (move : Reader.Move)
  | write (pump : Nat) (move : Writer.Move)
  /-- A fragment arrives on the feed. -/
  | inject (fragment : Bytes)
  /-- The far end of the feed goes away. -/
  | loseFeed
  /-- Someone begins or stops to take what is published. -/
  | setConnected (value : Bool)
  /-- The publication runs out of room, or has room again. -/
  | setBackPressured (value : Bool)
  /-- What was published is taken away. -/
  | drain
  /-- A bridge is set up, in place of the one before. -/
  | newBridge
  /-- The bridge is polled by hand. -/
  | pollOnce
  /-- The bridge starts its loop. -/
  | runBridge
  /-- The bridge makes its next step. -/
  | bridge
  deriving Repr

namespace System

/-! ## What the tasks share -/

/-- Tells something. -/
def tell (notices : List Notice) (s : System) : System :=
  { s with notices := notices.reverse ++ s.notices }

/-- Changes the pump at a position. -/
def onPump (p : Nat) (f : Pump → Pump) (s : System) : System :=
  { s with pumps := s.pumps.modify p f }

/-- Changes the hub. -/
def onHub (f : Hub → Hub) (s : System) : System := { s with hub := f s.hub }

/-- Changes the connection at a position. -/
def onConnection (key : Nat) (f : Connection → Connection) (s : System) : System :=
  s.onHub (Hub.onConnection key f)

/-- Changes the queue at a position. -/
def onQueue (key : Nat) (f : Queue → Queue) (s : System) : System := s.onHub (Hub.onQueue key f)

/-- Sends a request to the hub: whether it was taken, or nothing if the sender has to wait. -/
def send? (command : Command) (s : System) : Option (Bool × System) :=
  match s.loop with
  | .running =>
    if s.mailbox.length < mailboxCapacity then
      some (true, { s with mailbox := s.mailbox ++ [command] })
    else none
  | .stopped | .lost => some (false, s.onHub (Hub.discard command))

/-- Adds a new connection and its queue; they stand at the positions that are given back. -/
def enroll (id : Nat) (peer : Option SocketAddress) (capacity : Nat) (s : System) :
    Registration × System :=
  (⟨s.hub.connections.length, s.hub.queues.length⟩,
    s.onHub fun h =>
      { h with
        connections := h.connections ++ [{ id, peer, connectedAt := s.now }]
        queues := h.queues ++ [{ capacity }] })

/-- Sends an order to the feed: the outcome, or the fault of a payload that does not fit. -/
def forward (payload : Bytes) (s : System) : Except Fault PublishOutcome × System :=
  match Fragment.frame payload with
  | .error fault => (.error fault, s)
  | .ok buffer =>
    let (code, forwarder) := s.forwarder.offer buffer
    let outcome := PublishOutcome.ofCode code
    let counted := { s with forwarder }.onHub <| Hub.onMetrics fun m =>
      { m with outcomes := m.outcomes.increment outcome }
    (.ok outcome, counted.tell (Forwarder.report outcome forwarder.publication.isConnected))

/-! ## The hub -/

/-- The hub deals with the oldest request. -/
def serve? (s : System) : Option System :=
  match s.loop, s.mailbox with
  | .running, command :: rest =>
    let answers := (s.hub.answer? command).toList ++ s.answers
    some ({ s with hub := s.hub.apply command, mailbox := rest, answers }.tell
      (s.hub.report command))
  | _, _ => none

/-- The hub ends when its mailbox is empty and nobody is left who could fill it. -/
def stopHub? (s : System) : Option System :=
  if s.loop = .running ∧ s.mailbox = [] ∧ !s.attached ∧ s.pumps.all (fun p => !p.holdsHub) then
    some ({ s with hub := s.hub.stop, loop := .stopped }.tell [.hubStopped s.hub.size])
  else none

/-- The hub is lost, with its registry and with everything in its mailbox. -/
def loseHub (s : System) : System :=
  match s.loop with
  | .running =>
    let emptied := s.mailbox.foldl (fun h c => h.discard c) s.hub
    { s with hub := emptied.abandon, mailbox := [], loop := .lost }
  | .stopped | .lost => s

/-! ## Pumps -/

/-- A client connects: it gets the next number, a connection and a queue. -/
def connect (peer : Option SocketAddress) (s : System) : System :=
  let (r, s) := s.enroll s.nextId peer s.settings.queueCapacity
  { s with
    nextId := s.nextId + 1
    pumps := s.pumps ++ [{ connection := r.connection, queue := r.queue }] }

/-- A pump asks the hub to register its connection, and starts its reader and writer. -/
def enter? (p : Nat) (s : System) : Option System := do
  let pump ← s.pumps[p]?
  let conn ← s.hub.connections[pump.connection]?
  if pump.stage ≠ .registering then none
  else
    let (taken, s) ← s.send? (.register ⟨pump.connection, pump.queue⟩)
    if taken then
      return (s.onPump p fun pump =>
        { pump with
          stage := .running
          reader := ⟨.starting⟩
          writer := { pump.writer with stage := .starting } }).tell
        [.connectionAccepted conn.id conn.peer]
    else
      let refused := (s.onConnection pump.connection Connection.markClosed).onQueue pump.queue
        Queue.dropReceiver
      return (refused.onPump p fun pump => { pump with stage := .returned }).tell
        [.notRegistered conn.id .hubUnavailable]

/-- A pump whose reader and writer are done marks its connection closed. -/
def leave? (p : Nat) (s : System) : Option System := do
  let pump ← s.pumps[p]?
  if pump.stage = .running ∧ pump.reader.isDone ∧ pump.writer.stage = .done then
    return (s.onConnection pump.connection Connection.markClosed).onPump p fun pump =>
      { pump with stage := .returned }
  else none

/-! ## Readers -/

/-- Puts the reader of a pump in a stage. -/
def setReader (p : Nat) (stage : Reader.Stage) (s : System) : System :=
  s.onPump p fun pump => { pump with reader := ⟨stage⟩ }

/-- A reader deals with a message that should be an order: anything else is counted and dropped, and
whatever becomes of the order, the connection stays. -/
def publishOrder (id : Nat) (data : Bytes) (s : System) : System :=
  match Order.decode data with
  | .error e =>
    (s.onHub <| Hub.onMetrics fun m => { m with malformed := m.malformed + 1 }).tell
      [.malformedDropped id e.message]
  | .ok order =>
    match (s.tell [.orderReceived id order]).forward data with
    | (.ok _, s) => s
    | (.error fault, s) => s.tell [.orderNotForwarded id fault]

/-- A move of the reader of a pump. -/
def read? (p : Nat) (move : Reader.Move) (s : System) : Option System := do
  let pump ← s.pumps[p]?
  let conn ← s.hub.connections[pump.connection]?
  match pump.reader.stage, move with
  | .starting, .proceed => return s.setReader p (.waiting (s.now + s.settings.pongWait))
  | .waiting deadline, .receive incoming =>
    let s := s.setReader p <|
      Reader.Stage.afterReceiving s.settings.route s.settings.pongWait s.now deadline incoming
    return if incoming = .pong then s.onConnection pump.connection (·.touchPong s.now) else s
  | .waiting deadline, .expire =>
    if deadline ≤ s.now then return s.setReader p (.claiming (.timeout "pong")) else none
  | .waiting _, .hearStopped =>
    if conn.stoppedPermit then
      return (s.onConnection pump.connection Connection.hearStopped).setReader p
        (.claiming .connectionClosed)
    else none
  | .relaying data deadline, .proceed =>
    let (taken, s) ← s.send? (.broadcast data)
    return s.setReader p (if taken then .waiting deadline else .claiming .hubUnavailable)
  | .publishing data deadline, .proceed =>
    return (s.publishOrder conn.id data).setReader p (.waiting deadline)
  | .claiming reason, .proceed =>
    return (s.onConnection pump.connection (·.exchange .registered .closing)).setReader p
      (if conn.stands .registered then .waking reason else .claimingEarly reason)
  | .claimingEarly reason, .proceed =>
    return (s.onConnection pump.connection (·.exchange .connecting .closing)).setReader p
      (if conn.stands .connecting then .waking reason else .reporting reason)
  | .waking reason, .proceed =>
    return (s.onConnection pump.connection Connection.wakeWriter).setReader p (.reporting reason)
  | .reporting reason, .proceed =>
    return (s.tell [Reader.farewell conn.id reason]).setReader p (.leaving reason)
  | .leaving reason, .proceed =>
    let (taken, s) ← s.send? (.unregister conn.id)
    let s := if taken then s else s.tell [.notUnregistered conn.id .hubUnavailable]
    return s.setReader p (.done reason)
  | _, _ => none

/-! ## Writers -/

/-- A move of the writer of a pump. -/
def write? (p : Nat) (move : Writer.Move) (s : System) : Option System := do
  let pump ← s.pumps[p]?
  let connection ← s.hub.connections[pump.connection]?
  let queue ← s.hub.queues[pump.queue]?
  let before : Writer.Scene := ⟨pump.writer, queue, connection⟩
  let after ← Writer.step? s.settings.pingPeriod s.settings.writeWait s.now move before
  let s := s.onPump p fun pump => { pump with writer := after.writer }
  let s := (s.onConnection pump.connection fun _ => after.connection).onQueue pump.queue
    fun _ => after.queue
  return s.tell (Writer.report move before)

/-! ## The feed bridge -/

/-- Puts the bridge in a stage. -/
def setBridge (stage : Bridge.Stage) (s : System) : System :=
  { s with bridge := { s.bridge with stage } }

/-- Sets the gauge of the feed. -/
def setFeedGauge (value : Int) (s : System) : System :=
  s.onHub <| Hub.onMetrics fun m => { m with feedConnected := value }

/-- Counts a fragment by its kind. -/
def countFragment (fragment : Bytes) (s : System) : System :=
  s.onHub <| Hub.onMetrics fun m =>
    { m with fragments := m.fragments.increment (EventKind.ofFragment fragment) }

/-- The next step of the bridge. -/
def bridgeStep? (s : System) : Option System :=
  let collecting := Bridge.Stage.collecting [] s.settings.pollBatch
  match s.bridge.stage with
  | .absent | .ready | .ended _ => none
  | .starting =>
    some ((s.tell [.pollingStarted s.settings.pollBatch s.settings.idleBackoff]).setBridge
      collecting)
  | .collecting taken 0 => some (s.setBridge (.forwarding taken { fragments := taken.length }))
  | .collecting taken (budget + 1) =>
    match s.subscription.poll with
    | (some fragment, subscription) =>
      some ({ s with subscription }.setBridge (.collecting (taken ++ [fragment]) budget))
    | (none, subscription) =>
      some ({ s with subscription }.setBridge
        (.forwarding taken { fragments := taken.length }))
  | .forwarding [] summary => some (s.setBridge (.polled (.ok summary)))
  | .forwarding (fragment :: rest) summary =>
    some ((s.countFragment fragment).setBridge <|
      match Fragment.record? fragment with
      | some record => .sending record rest summary
      | none => .forwarding rest { summary with dropped := summary.dropped + 1 })
  | .sending record rest summary => do
    let (taken, s) ← s.send? (.broadcast record)
    return s.setBridge <|
      if taken then .forwarding rest { summary with broadcast := summary.broadcast + 1 }
      else .polled (.error .hubUnavailable)
  | .polled result =>
    if !s.bridge.looping then none
    else
      match result with
      | .error fault => some (s.setBridge (.ended fault))
      | .ok summary =>
        if summary.fragments ≠ 0 then some (s.setBridge collecting)
        else if s.subscription.isClosed then
          some (((s.setFeedGauge 0).tell [.subscriptionLost]).setBridge (.ended Bridge.feedClosed))
        else some (s.setBridge (.resting (s.now + s.settings.idleBackoff.nanos)))
  | .resting wake => if wake ≤ s.now then some (s.setBridge collecting) else none

/-- Sets up a bridge, which takes the feed to be live. -/
def newBridge (s : System) : System := { s with bridge := ⟨.ready, false⟩ }.setFeedGauge 1

/-- Starts a bridge that is ready. -/
def startBridge? (looping : Bool) (s : System) : Option System :=
  match s.bridge.stage with
  | .ready =>
    some { s with
      bridge := ⟨if looping then .starting else .collecting [] s.settings.pollBatch, looping⟩ }
  | _ => none

/-! ## Steps -/

/-- Changes a publication in memory. -/
def onMemory (f : MemoryPublication → MemoryPublication) (s : System) : System :=
  { s with forwarder := { s.forwarder with publication := s.forwarder.publication.onMemory f } }

/-- One step, if it is possible. -/
def step? (action : Action) (s : System) : Option System :=
  match action with
  | .advance nanos => some { s with now := s.now + nanos }
  | .connect peer => if s.attached then some (s.connect peer) else none
  | .request command => if s.attached then (s.send? command).map fun r => r.2 else none
  | .detach => some { s with attached := false, bridge := {} }
  | .loseHub => some s.loseHub
  | .serve => s.serve?
  | .stopHub => s.stopHub?
  | .enter p => s.enter? p
  | .leave p => s.leave? p
  | .read p move => s.read? p move
  | .write p move => s.write? p move
  | .inject fragment => some { s with subscription := s.subscription.push fragment }
  | .loseFeed => some { s with subscription := s.subscription.lose }
  | .setConnected value => some (s.onMemory fun p => { p with connected := value })
  | .setBackPressured value => some (s.onMemory fun p => { p with backPressured := value })
  | .drain => some (s.onMemory fun p => p.drain.2)
  | .newBridge => if s.attached then some s.newBridge else none
  | .pollOnce => s.startBridge? false
  | .runBridge => s.startBridge? true
  | .bridge => s.bridgeStep?

/-- The state after a list of actions, if all of them are possible in turn. -/
def run? : List Action → System → Option System
  | [], s => some s
  | action :: rest, s => (s.step? action).bind (run? rest)

/-- A gateway that has just been started with a feed in memory. -/
def start (settings : Settings) : System := { settings }

theorem run?_append (first second : List Action) (s : System) :
    run? (first ++ second) s = (run? first s).bind (run? second) := by
  induction first generalizing s with
  | nil => rfl
  | cons action rest ih =>
    simp only [List.cons_append, run?]
    cases s.step? action with
    | none => rfl
    | some s' => exact ih s'

end System

end MarketGate
