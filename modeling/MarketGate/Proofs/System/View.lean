import MarketGate.Proofs.Hub.Seat
import MarketGate.Proofs.Pump.Writer
import MarketGate.System

/-!
# A gateway as the tasks of one client see it

Every client has a pump with its reader and its writer, a seat in the hub, and a share in the hub's
mailbox.  A *view* is all of that for one client.  What other clients do changes it only through the
mailbox and through what the hub does next, so a view is a small machine of its own:

* `View.Act` lists the steps of the client's own tasks, with what each of them needs and does.
  `Reader.Turn` lists those steps of the reader that do not reach the hub.
* `View.Step` adds what comes from outside: others fill the mailbox, the hub serves it or ends.  A
  step is labelled with the command that the hub serves in it, if it serves one.
* `System.Wired` says that the pumps of a gateway stand where their connections and queues stand.
* `System.served` lists the commands that the hub serves in the course of a run.

That the steps of a gateway are steps of its views is proved in `MarketGate.Proofs.System.Step`.
-/

namespace MarketGate

/-- The steps of a reader that do not reach the hub. -/
inductive Reader.Turn (settings : Settings) (now : Nat) :
    Reader.Stage → Connection → Reader.Stage → Connection → Prop
  | start {c : Connection} : Turn settings now .starting c (.waiting (now + settings.pongWait)) c
  | receive {c : Connection} {deadline : Nat} {incoming : Incoming} (hne : incoming ≠ .pong) :
      Turn settings now (.waiting deadline) c
        (.afterReceiving settings.route settings.pongWait now deadline incoming) c
  | pong {c : Connection} {deadline : Nat} :
      Turn settings now (.waiting deadline) c (.waiting (now + settings.pongWait)) (c.touchPong now)
  | expire {c : Connection} {deadline : Nat} (hdue : deadline ≤ now) :
      Turn settings now (.waiting deadline) c (.claiming (.timeout "pong")) c
  | hearStopped {c : Connection} {deadline : Nat} (hpermit : c.stoppedPermit = true) :
      Turn settings now (.waiting deadline) c (.claiming .connectionClosed) c.hearStopped
  | publish {c : Connection} {data : Bytes} {deadline : Nat} :
      Turn settings now (.publishing data deadline) c (.waiting deadline) c
  | claim {c : Connection} {reason : Fault} :
      Turn settings now (.claiming reason) c
        (if c.stands .registered then .waking reason else .claimingEarly reason)
        (c.exchange .registered .closing)
  | claimEarly {c : Connection} {reason : Fault} :
      Turn settings now (.claimingEarly reason) c
        (if c.stands .connecting then .waking reason else .reporting reason)
        (c.exchange .connecting .closing)
  | wake {c : Connection} {reason : Fault} :
      Turn settings now (.waking reason) c (.reporting reason) c.wakeWriter
  | report {c : Connection} {reason : Fault} :
      Turn settings now (.reporting reason) c (.leaving reason) c

/-- What the tasks of one client see of a gateway. -/
structure View where
  pump : Pump
  seat : Seat
  mailbox : List Command
  loop : HubLoop
  deriving DecidableEq, Repr

namespace View

/-- The hub takes requests, and its mailbox has room for one more. -/
structure Open (v : View) : Prop where
  loop : v.loop = .running
  room : v.mailbox.length < mailboxCapacity

/-- A request is put into the mailbox. -/
def send (command : Command) (v : View) : View := { v with mailbox := v.mailbox ++ [command] }

/-- Whether the pump has still to ask for registration. -/
def waits (v : View) : Bool := v.pump.stage = .registering

lemma waits_of_stage {v : View} (hstage : v.pump.stage = .registering) : v.waits = true :=
  decide_eq_true hstage

/-- In how many places outside the hub the sender of the client's queue is. -/
def abroad (p : Nat) (v : View) : Nat := v.waits.toNat + v.mailbox.count (.register ⟨p, p⟩)

/-- The reader goes on to another stage. -/
def setReader (stage : Reader.Stage) (v : View) : View :=
  { v with pump := { v.pump with reader := ⟨stage⟩ } }

lemma abroad_send {p : Nat} {v : View} {c : Command} (hne : c ≠ .register ⟨p, p⟩) :
    (v.send c).abroad p = v.abroad p := by
  have hzero : [c].count (.register ⟨p, p⟩) = 0 :=
    List.count_eq_zero.2 (by simpa using Ne.symm hne)
  rw [abroad, send, List.count_append, hzero]
  rfl

/-- The steps of the tasks of the client at a position. -/
inductive Act (settings : Settings) (now p : Nat) (v : View) : View → Prop
  /-- The pump asks for registration and starts its reader and writer. -/
  | enter (hstage : v.pump.stage = .registering) (hopen : v.Open) :
      Act settings now p v
        { v.send (.register ⟨p, p⟩) with
          pump := { v.pump with
            stage := .running
            reader := ⟨.starting⟩
            writer := { v.pump.writer with stage := .starting } } }
  /-- The pump finds the hub gone. -/
  | refused (hstage : v.pump.stage = .registering) (hloop : v.loop ≠ .running) :
      Act settings now p v
        { v with
          pump := { v.pump with stage := .returned }
          seat := { v.seat with
            connection := v.seat.connection.markClosed
            queue := v.seat.queue.dropSender.dropReceiver } }
  /-- The pump is done. -/
  | leave (hstage : v.pump.stage = .running) (hreader : v.pump.reader.isDone = true)
      (hwriter : v.pump.writer.stage = .done) :
      Act settings now p v
        { v with
          pump := { v.pump with stage := .returned }
          seat := { v.seat with connection := v.seat.connection.markClosed } }
  | turn {stage : Reader.Stage} {connection : Connection}
      (hturn : Reader.Turn settings now v.pump.reader.stage v.seat.connection stage connection) :
      Act settings now p v { v.setReader stage with seat := { v.seat with connection } }
  /-- The reader sends a message on to the hub. -/
  | relay {data : Bytes} {deadline : Nat}
      (hstage : v.pump.reader.stage = .relaying data deadline) (hopen : v.Open) :
      Act settings now p v ((v.send (.broadcast data)).setReader (.waiting deadline))
  | relayRefused {data : Bytes} {deadline : Nat}
      (hstage : v.pump.reader.stage = .relaying data deadline) (hloop : v.loop ≠ .running) :
      Act settings now p v (v.setReader (.claiming .hubUnavailable))
  /-- The reader asks the hub to remove the connection, and is done. -/
  | part {reason : Fault} (hstage : v.pump.reader.stage = .leaving reason) (hopen : v.Open) :
      Act settings now p v ((v.send (.unregister (p + 1))).setReader (.done reason))
  | partRefused {reason : Fault} (hstage : v.pump.reader.stage = .leaving reason)
      (hloop : v.loop ≠ .running) : Act settings now p v (v.setReader (.done reason))
  | write {after : Writer.Scene}
      (hturn : Writer.Turn settings.pingPeriod settings.writeWait now
        ⟨v.pump.writer, v.seat.queue, v.seat.connection⟩ after) :
      Act settings now p v
        { v with
          pump := { v.pump with writer := after.writer }
          seat := { v.seat with connection := after.connection, queue := after.queue } }

/-- The steps of a gateway, as the tasks of the client at a position see them. -/
inductive Step (settings : Settings) (now p : Nat) : Option Command → View → View → Prop
  | idle {v : View} : Step settings now p none v v
  | act {v v' : View} (hact : Act settings now p v v') : Step settings now p none v v'
  /-- Somebody else sends a request. -/
  | send {v : View} {command : Command} (hopen : v.Open)
      (hne : command ≠ .register ⟨p, p⟩) : Step settings now p none v (v.send command)
  /-- The hub serves the oldest request. -/
  | serve {v : View} {command : Command} {rest : List Command} (hloop : v.loop = .running)
      (hmailbox : v.mailbox = command :: rest) :
      Step settings now p (some command) v
        { v with seat := v.seat.apply p command, mailbox := rest }
  /-- The hub ends, since nobody can reach it any more. -/
  | stop {v : View} (hloop : v.loop = .running) (hmailbox : v.mailbox = [])
      (hstage : v.pump.stage = .returned) :
      Step settings now p none v { v with seat := v.seat.remove, loop := .stopped }
  /-- The hub is lost. -/
  | lose {v : View} (hloop : v.loop = .running) :
      Step settings now p none v
        { v with
          seat := v.seat.lose (decide (.register ⟨p, p⟩ ∈ v.mailbox))
          mailbox := []
          loop := .lost }

end View

namespace System

/-- What the tasks of the client at a position see. -/
def view? (p : Nat) (s : System) : Option View :=
  match s.pumps[p]?, s.hub.seat? p with
  | some pump, some seat => some ⟨pump, seat, s.mailbox, s.loop⟩
  | _, _ => none

/-- Every pump stands where its connection and its queue stand, numbers follow the positions,
registrations come from pumps, and a hub that is gone has no mailbox. -/
structure Wired (s : System) : Prop where
  hub : s.hub.Wired s.pumps.length
  nextId : s.nextId = s.pumps.length + 1
  pump : ∀ (p : Nat) (pump : Pump), s.pumps[p]? = some pump → pump.connection = p ∧ pump.queue = p
  mailbox : ∀ c ∈ s.mailbox, c.Fits s.pumps.length
  gone : s.loop ≠ .running → s.mailbox = []

/-- The command that the hub serves at an action. -/
def servedAt (action : Action) (s : System) : Option Command :=
  match action with
  | .serve => s.mailbox.head?
  | _ => none

/-- The commands that the hub serves in the course of a run, in their order. -/
def served : List Action → System → List Command
  | [], _ => []
  | action :: rest, s =>
    (s.servedAt action).toList ++ match s.step? action with
      | some s' => served rest s'
      | none => []

end System

/-- Whether an action leaves registering to the pumps.  The sender of a queue is handed to the pump
that the queue was made for, so nobody else could. -/
def Action.isOrderly : Action → Bool
  | .request (.register _) => false
  | _ => true

end MarketGate
