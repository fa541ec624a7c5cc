import MarketGate.Bench.Schedule
import MarketGate.Metrics.Exposition

/-!
# Sessions on the bench

A session does one thing after the other to a gateway on the bench and writes down what came of it.
Beside clients over pipes it holds connections of its own, whose queues it reads by hand.

`Session.perform` carries out a step.  What a step asks of the hub is sent before any task goes on;
then everyone goes on until nobody can, and only then the outcome is looked at.
-/

namespace MarketGate

open WebSocket

/-- A connection that a session holds itself. -/
structure Held where
  registration : Registration
  /-- Whether the sender of the queue was not given away yet. -/
  sender : Bool := true
  /-- Whether the receiver of the queue is still held. -/
  receiver : Bool := true
  deriving Repr

/-- A gateway on the bench, with the names that a session gives to connections and clients. -/
structure Session where
  bench : Bench
  held : List (String × Held) := []
  clients : List (String × Nat) := []
  /-- The ticket of the next question to the hub. -/
  ticket : Nat := 0
  deriving Repr

/-- What a session does. -/
inductive Step where
  | newConnection (name : String) (capacity : Nat) (id? : Option Nat) (peer? : Option SocketAddress)
  /-- Registers a held connection, with a new queue of the given capacity if there is one. -/
  | register (name : String) (fresh? : Option Nat)
  | registerTwin (name : String) (capacity : Nat)
  | look (name : String)
  | markRegistered (name : String)
  | beginDraining (name : String)
  | beginClosing (name : String)
  | markClosed (name : String)
  | touch (name : String)
  | take (name : String) (max? : Option Nat)
  | dropReceiver (name : String)
  | unregister (id : Nat)
  | broadcast (payloads : List Bytes)
  | count
  | loseHub
  | detach
  | inject (fragment : Bytes)
  | injectEvents (record : Bytes) (times : Nat)
  | poll
  | runBridge (millis : Nat)
  | newBridge
  | forward (payload : Bytes)
  | rehearse (codes : List Int)
  | takePublished
  | setConnected (value : Bool)
  | setBackPressured (value : Bool)
  | loseFeed
  | metrics
  | exposition
  | connect (name : String) (buffer : Nat) (peer? : Option SocketAddress)
  | send (name : String) (data : Bytes)
  | receive (name : String)
  | hangUp (name : String)
  | shutdown (name : String)
  | join (name : String)
  | wait (millis : Nat)
  deriving Repr

/-- What a session lacks for a step. -/
inductive Lack where
  | connection
  | sender
  | receiver
  | client
  | hub
  | bridge
  deriving DecidableEq, Repr

/-- How reading a queue by hand ended. -/
inductive QueueEnd where
  /-- As many messages as asked for were read. -/
  | more
  | empty
  | closed
  deriving DecidableEq, Repr

/-- What came of a step. -/
inductive Answer where
  | done
  | lacking (what : Lack)
  | fault (fault : Fault)
  | flag (value : Bool)
  | flags (values : List Bool)
  | number (n : Nat)
  | connection (c : Connection)
  | phase (c : Connection)
  | registered (result : Option Fault) (c : Connection)
  | twin (result : Option Fault) (closed : Bool)
  | taken (messages : List Bytes) (queueEnd : QueueEnd)
  | stopped (hub : Bool)
  | polled (summary : PollSummary) (pending polls : Nat)
  | pollFailed (fault : Fault) (pending : Nat)
  | ran (fault : Option Fault) (pending polls : Nat)
  | outcome (outcome : PublishOutcome)
  | buffers (buffers : List Bytes)
  | metrics (metrics : Metrics)
  | text (text : String)
  | written (count : Nat)
  | brokenPipe
  | received (frames : List Frame) (finished : Bool) (left : Nat)
  | running
  deriving Repr

namespace Session

/-- A session with a gateway that has just been started. -/
def start (settings : Settings) : Session :=
  { bench := { system := (System.start settings).newBridge } }

/-! ## Small steps -/

/-- Changes the bench. -/
def onBench (f : Bench → Bench) (s : Session) : Session := { s with bench := f s.bench }

/-- Lets everyone go on until nobody can. -/
def settle (s : Session) : Session := s.onBench Bench.settle

/-- Does something to the gateway. -/
def act (action : Action) (s : Session) : Session := s.onBench (Bench.act action)

/-- Changes the gateway by hand. -/
def onSystem (f : System → System) (s : Session) : Session :=
  s.onBench fun b => { b with system := f b.system }

/-- The connection of a registration. -/
def connection? (s : Session) (h : Held) : Option Connection :=
  s.bench.system.hub.connections[h.registration.connection]?

/-- Whether the hub takes requests. -/
def hubRuns (s : Session) : Bool := s.bench.system.loop = .running

/-- Lets tasks go on until the mailbox of the hub has room. -/
def makeRoom : (steps : Nat) → Bench → Bench
  | 0, b => b
  | steps + 1, b =>
    if b.system.mailbox.length < mailboxCapacity ∨ b.system.loop ≠ .running then b
    else makeRoom steps (if b.ready.isEmpty then b.wake else b).runFirst

/-- Sends a request to the hub: the fault if it is refused. -/
def request (command : Command) (s : Session) : Option Fault × Session :=
  let s := s.onBench (makeRoom Bench.patience)
  (if s.hubRuns then none else some .hubUnavailable, s.act (.request command))

/-- Sends requests one after the other: the fault of the last. -/
def requests : List Command → Option Fault → Session → Option Fault × Session
  | [], result, s => (result, s)
  | command :: rest, _, s =>
    let (result, s) := s.request command
    requests rest result s

/-- Gives a name to a held connection. -/
def hold (name : String) (h : Held) (s : Session) : Session :=
  { s with held := (name, h) :: s.held.filter fun e => e.1 != name }

/-- The answer to a request that needs none. -/
def resultAnswer : Option Fault → Answer
  | none => .done
  | some fault => .fault fault

/-! ## Held connections -/

/-- Makes a connection and a queue that the session holds. -/
def newConnection (name : String) (capacity : Nat) (id? : Option Nat) (peer? : Option SocketAddress)
    (s : Session) : Answer × Session :=
  match id?, s.bench.system.attached with
  | none, false => (.lacking .hub, s)
  | id?, _ =>
    let system := s.bench.system
    let (id, nextId) :=
      match id? with
      | some id => (id, system.nextId)
      | none => (system.nextId, system.nextId + 1)
    let (registration, system) := { system with nextId }.enroll id peer? capacity
    let s := { s with bench := { s.bench with system } }.hold name { registration }
    match system.hub.connections[registration.connection]? with
    | some c => (.connection c, s)
    | none => (.lacking .connection, s)

/-- Puts a new queue in the place of a held one. -/
def freshQueue (capacity : Nat) (h : Held) (s : Session) : Held × Session :=
  let queues := s.bench.system.hub.queues
  let drop (q : Queue) : Queue := if h.sender then q.dropReceiver.dropSender else q.dropReceiver
  let s := s.onSystem fun system =>
    (system.onQueue h.registration.queue drop).onHub fun hub =>
      { hub with queues := hub.queues ++ [{ capacity }] }
  ({ h with
      registration := { h.registration with queue := queues.length }
      sender := true
      receiver := true }, s)

/-- Registers a held connection. -/
def register (name : String) (h : Held) (fresh? : Option Nat) (s : Session) :
    Answer × Session :=
  if !s.bench.system.attached then (.lacking .hub, s)
  else
    let (h, s) :=
      match fresh? with
      | some capacity => s.freshQueue capacity h
      | none => (h, s)
    if !h.sender then (.lacking .sender, s.hold name h)
    else
      let (result, s) := s.request (.register h.registration)
      let s := (s.hold name { h with sender := false }).settle
      match s.connection? h with
      | some c => (.registered result c, s)
      | none => (.lacking .connection, s)

/-- Registers a held connection once more, with another queue, and lets go of that queue. -/
def registerTwin (h : Held) (capacity : Nat) (s : Session) : Answer × Session :=
  if !s.bench.system.attached then (.lacking .hub, s)
  else
    let queue := s.bench.system.hub.queues.length
    let s := s.onSystem fun system =>
      system.onHub fun hub => { hub with queues := hub.queues ++ [{ capacity }] }
    let (result, s) := s.request (.register ⟨h.registration.connection, queue⟩)
    let s := s.settle
    let closed :=
      match s.bench.system.hub.queues[queue]? with
      | some q => q.isFinished
      | none => true
    (.twin result closed, s.onSystem (System.onQueue queue Queue.dropReceiver))

/-- Reads messages from a queue by hand, at most `budget` of them; `read` holds those before, last
one first. -/
def takeFrom : (budget : Option Nat) → (steps : Nat) → List Bytes → Queue →
    List Bytes × QueueEnd × Queue
  | some 0, _, read, q => (read.reverse, .more, q)
  | _, 0, read, q => (read.reverse, .more, q)
  | budget, steps + 1, read, q =>
    match q.take? with
    | some (message, q) => takeFrom (budget.map (· - 1)) steps (message :: read) q
    | none => (read.reverse, if q.hasSender then .empty else .closed, q)

/-- Reads messages from the queue of a held connection. -/
def take (h : Held) (max? : Option Nat) (s : Session) : Answer × Session :=
  if !h.receiver then (.lacking .receiver, s)
  else
    match s.bench.system.hub.queues[h.registration.queue]? with
    | none => (.lacking .receiver, s)
    | some q =>
      let (messages, queueEnd, q) := takeFrom max? (q.size + 1) [] q
      (.taken messages queueEnd, s.onSystem (System.onQueue h.registration.queue fun _ => q))

/-- Changes the phase of a held connection by hand, and shows the connection. -/
def changePhase (h : Held) (f : Connection → Connection) (answer : Connection → Answer)
    (s : Session) : Answer × Session :=
  match s.connection? h with
  | none => (.lacking .connection, s)
  | some c =>
    (answer c, (s.onSystem (System.onConnection h.registration.connection f)).settle)

/-- Does something with a held connection. -/
def withHeld (name : String) (f : Held → Session → Answer × Session) (s : Session) :
    Answer × Session :=
  match s.held.lookup name with
  | some h => f h s
  | none => (.lacking .connection, s)

/-! ## The feed -/

/-- How many fragments wait. -/
def pending (s : Session) : Nat := s.bench.system.subscription.pending.length

/-- How often the feed was polled. -/
def polls (s : Session) : Nat := s.bench.system.subscription.polls

/-- Lets the bridge go on, and then everyone else. -/
def runBridgeTask (s : Session) : Session :=
  (s.onBench (Bench.runTask .bridge Bench.patience)).settle

/-- Polls the feed by hand. -/
def poll (s : Session) : Answer × Session :=
  match s.bench.act? .pollOnce with
  | none => (.lacking .bridge, s)
  | some bench =>
    let s := { s with bench }.runBridgeTask
    let answer :=
      match s.bench.system.bridge.stage with
      | .polled (.ok summary) => .polled summary s.pending s.polls
      | .polled (.error fault) => .pollFailed fault s.pending
      | _ => .lacking .bridge
    (answer, s.onSystem (System.setBridge .ready))

/-- Runs the loop of the bridge for some time, after which the bridge is gone. -/
def runBridge (millis : Nat) (s : Session) : Answer × Session :=
  match s.bench.act? .runBridge with
  | none => (.lacking .bridge, s)
  | some bench =>
    let s := ({ s with bench }.runBridgeTask).onBench
      (Bench.advanceBridge (millis * nanosPerMilli))
    let fault? :=
      match s.bench.system.bridge.stage with
      | .ended fault => some fault
      | _ => none
    (.ran fault? s.pending s.polls, s.onSystem (System.setBridge .absent))

/-- Puts in the same record a number of times. -/
def injectEvents (record : Bytes) (times : Nat) (s : Session) : Answer × Session :=
  match Fragment.frame record with
  | .error fault => if times = 0 then (.number s.pending, s) else (.fault fault, s)
  | .ok fragment =>
    let s := times.fold (fun _ _ s => s.act (.inject fragment)) s
    (.number s.pending, s)

/-! ## Clients -/

/-- Does something with a client that has not hung up. -/
def withClient (name : String) (f : Nat → Client → Session → Answer × Session) (s : Session) :
    Answer × Session :=
  match s.clients.lookup name with
  | none => (.lacking .client, s)
  | some p =>
    match s.bench.clients[p]? with
    | some c => if c.present then f p c s else (.lacking .client, s)
    | none => (.lacking .client, s)

/-- Connects a client over a pipe. -/
def connect (name : String) (buffer : Nat) (peer? : Option SocketAddress) (s : Session) :
    Answer × Session :=
  if !s.bench.system.attached then (.lacking .hub, s)
  else
    let p := s.bench.system.pumps.length
    let client : Client := { link := ⟨{ capacity := buffer }, { capacity := buffer }⟩ }
    let s := s.act (.connect peer?)
    (.done, { s with
      bench := { s.bench with clients := s.bench.clients ++ [client] }
      clients := (name, p) :: s.clients.filter fun e => e.1 != name }.settle)

/-- A client writes bytes, as long as the server makes room for them. -/
def sendFrom (p : Nat) : (steps : Nat) → Nat → Bytes → Session → Answer × Session
  | 0, written, _, s => (.written written, s)
  | steps + 1, written, data, s =>
    match s.bench.clients[p]? with
    | none => (.lacking .client, s)
    | some c =>
      match c.link.toServer.write data with
      | (.broken, _) => (.brokenPipe, s)
      | (.rest rest, toServer) =>
        let count := data.length - rest.length
        let s := (s.onBench (Bench.onClient p fun c =>
          { c with link := { c.link with toServer } })).settle
        if rest.isEmpty ∨ count = 0 then (.written (written + count), s)
        else sendFrom p steps (written + count) rest s

/-- A client reads everything that the server has for it, and lets the server go on as there is
room. -/
def drainClient (p : Nat) : (steps : Nat) → Session → Session
  | 0, s => s
  | steps + 1, s =>
    match s.bench.clients[p]? with
    | none => s
    | some c =>
      if c.link.toClient.bytes.isEmpty then s
      else
        drainClient p steps <| settle <| s.onBench <| Bench.onClient p fun c =>
          { c with
            inbox := c.inbox ++ c.link.toClient.bytes
            link := { c.link with toClient := { c.link.toClient with bytes := [] } } }

/-- A client reads frames. -/
def receive (p : Nat) (s : Session) : Answer × Session :=
  let s := drainClient p Bench.patience s
  match s.bench.clients[p]? with
  | none => (.lacking .client, s)
  | some c =>
    let (frames, left) := Frame.split (c.inbox.length + 1) c.inbox
    (.received frames c.link.toClient.isClosed left.length,
      s.onBench (Bench.onClient p fun c => { c with inbox := left }))

/-- A client drops its end of the connection. -/
def hangUp (p : Nat) (s : Session) : Answer × Session :=
  (.done, (s.onBench (Bench.onClient p fun c =>
    { c with present := false, link := ⟨c.link.toServer.close, c.link.toClient.close⟩ })).settle)

/-- A client sends no more. -/
def shutdown (p : Nat) (s : Session) : Answer × Session :=
  (.flag true, (s.onBench (Bench.onClient p fun c =>
    { c with link := { c.link with toServer := c.link.toServer.close } })).settle)

/-- What has become of the pump of a client. -/
def join (name : String) (s : Session) : Answer :=
  match s.clients.lookup name with
  | none => .lacking .client
  | some p =>
    match s.bench.system.pumps[p]? with
    | none => .lacking .client
    | some pump =>
      if pump.stage ≠ .returned then .running
      else
        match s.bench.system.hub.connections[pump.connection]? with
        | some c => .connection c
        | none => .lacking .connection

/-! ## Steps -/

/-- Sends requests to the hub, and lets everyone go on. -/
def ask (commands : List Command) (s : Session) : Answer × Session :=
  if !s.bench.system.attached then (.lacking .hub, s)
  else
    let (result, s) := s.requests commands none
    (resultAnswer result, s.settle)

/-- Asks the hub how many connections are registered. -/
def count (s : Session) : Answer × Session :=
  if !s.bench.system.attached then (.lacking .hub, s)
  else
    let ticket := s.ticket
    let (result, s) := { s with ticket := ticket + 1 }.request (.count ticket)
    let s := s.settle
    match result, s.bench.system.answers.lookup ticket with
    | none, some n => (.number n, s)
    | _, _ => (.fault .hubUnavailable, s)

/-- Does something to the gateway, lets everyone go on, and has nothing to tell. -/
def plainly (action : Action) (s : Session) : Answer × Session := (.done, (s.act action).settle)

/-- Carries out a step. -/
def perform (step : Step) (s : Session) : Answer × Session :=
  match step with
  | .newConnection name capacity id? peer? => s.newConnection name capacity id? peer?
  | .register name fresh? => s.withHeld name fun h s => s.register name h fresh?
  | .registerTwin name capacity => s.withHeld name fun h s => s.registerTwin h capacity
  | .look name => s.withHeld name fun h s => s.changePhase h id .phase
  | .markRegistered name =>
    s.withHeld name fun h s =>
      s.changePhase h Connection.markRegistered fun c => .flag (c.stands .connecting)
  | .beginDraining name =>
    s.withHeld name fun h s =>
      s.changePhase h Connection.beginDraining fun c => .flag (c.stands .registered)
  | .beginClosing name =>
    s.withHeld name fun h s => s.changePhase h Connection.beginClosing fun c => .flag c.mayClose
  | .markClosed name =>
    s.withHeld name fun h s =>
      s.changePhase h Connection.markClosed fun c => .phase c.markClosed
  | .touch name =>
    s.withHeld name fun h s =>
      let now := s.bench.system.now
      s.changePhase h (fun c => (c.touchWrite now).touchPong now) fun c =>
        .flags [c.lastWrite ≤ now, c.lastPong ≤ now]
  | .take name max? => s.withHeld name fun h s => s.take h max?
  | .dropReceiver name =>
    s.withHeld name fun h s =>
      (.done, (s.onSystem (System.onQueue h.registration.queue Queue.dropReceiver)).hold name
        { h with receiver := false })
  | .unregister id => s.ask [.unregister id]
  | .broadcast payloads => s.ask (payloads.map .broadcast)
  | .count => s.count
  | .loseHub => s.plainly .loseHub
  | .detach =>
    let s := (s.act .detach).settle
    (.stopped !s.hubRuns, s)
  | .inject fragment =>
    let s := s.act (.inject fragment)
    (.number s.pending, s)
  | .injectEvents record times => s.injectEvents record times
  | .poll => s.poll
  | .runBridge millis => s.runBridge millis
  | .newBridge =>
    match s.bench.act? .newBridge with
    | some bench => (.done, { s with bench })
    | none => (.lacking .hub, s)
  | .forward payload =>
    let (result, system) := s.bench.system.forward payload
    let s := { s with bench := { s.bench with system } }
    match result with
    | .ok outcome => (.outcome outcome, s)
    | .error fault => (.fault fault, s)
  | .rehearse codes =>
    (.done, s.onSystem fun system =>
      { system with
        forwarder := { system.forwarder with rehearsed := system.forwarder.rehearsed ++ codes } })
  | .takePublished =>
    match s.bench.system.forwarder.publication with
    | .memory p => (.buffers p.published, s.act .drain)
    | .socket _ => (.buffers [], s)
  | .setConnected value => s.plainly (.setConnected value)
  | .setBackPressured value => s.plainly (.setBackPressured value)
  | .loseFeed => s.plainly .loseFeed
  | .metrics => (.metrics s.bench.system.hub.metrics, s)
  | .exposition => (.text s.bench.system.hub.metrics.exposition, s)
  | .connect name buffer peer? => s.connect name buffer peer?
  | .send name data => s.withClient name fun p _ s => s.sendFrom p Bench.patience 0 data
  | .receive name => s.withClient name fun p _ s => s.receive p
  | .hangUp name => s.withClient name fun p _ s => s.hangUp p
  | .shutdown name => s.withClient name fun p _ s => s.shutdown p
  | .join name => (s.join name, s)
  | .wait millis => (.done, s.onBench (Bench.advance (millis * nanosPerMilli)))

/-- Carries out a step, and gives what was told meanwhile along with the answer. -/
def step (step : Step) (s : Session) : Answer × List Notice × Session :=
  let (answer, s) := s.perform step
  (answer, s.bench.system.notices.reverse, s.onSystem fun system => { system with notices := [] })

/-- Carries out steps one after the other. -/
def run : List Step → Session → List (Answer × List Notice)
  | [], _ => []
  | first :: rest, s =>
    let (answer, notices, s) := s.step first
    (answer, notices) :: run rest s

end Session

end MarketGate
