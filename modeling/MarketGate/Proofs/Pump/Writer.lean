import MarketGate.Pump.Writer
import Mathlib.Data.List.Infix

/-!
# What a writer hands to the socket

A writer takes messages out of its queue one at a time and hands each to the socket before it takes
the next.  So at any time the binary frames that it has handed over, together with the message that
it has in hand, are what it has taken out of the queue.  A writer that stops may drop the message in
hand; from then on it hands nothing over.

* `Writer.Turn` lists the moves of a writer by what they need and what they do.
* `Writer.binaries` are the messages in the frames handed over so far.
* `Scene.Faithful` is the property above, of a writer and its queue.
* **`Scene.Faithful.step`**: every move keeps it, and so does what others put into the queue
  (`Scene.Faithful.of_log`).
* `Turn.frame`: what no move changes.
-/

namespace MarketGate

namespace Queue

/-- What is taken out is the next message of the log. -/
lemma of_take? {q q' : Queue} {message : Bytes} (h : q.take? = some (message, q')) :
    q.log[q.taken]? = some message ∧ q' = { q with taken := q.taken + 1 } := by
  simp only [take?, Option.map_eq_some_iff] at h
  obtain ⟨m, hm, heq⟩ := h
  cases heq
  exact ⟨hm, rfl⟩

end Queue

/-- The message in a frame, if it is a binary one. -/
def Outgoing.payload? : Outgoing → Option Bytes
  | .binary payload => some payload
  | .ping | .close => none

namespace Writer

/-- The messages handed to the socket, in order. -/
def binaries (w : Writer) : List Bytes := w.handed.filterMap Outgoing.payload?

/-- The message that a writer has taken out of its queue and not yet handed over. -/
def Stage.inHand : Stage → List Bytes
  | .holding payload _ => [payload]
  | .handing frame _ => frame.payload?.toList
  | _ => []

/-- Whether a writer is out of its loop. -/
def Stage.isOver : Stage → Bool
  | .ending _ | .done => true
  | _ => false

/-- The moves of a writer. -/
inductive Turn (pingPeriod writeWait now : Nat) (v : Scene) : Scene → Prop
  | start (hstage : v.writer.stage = .starting) :
      Turn pingPeriod writeWait now v (v.moveTo (.checking (now + pingPeriod)))
  | check {nextPing : Nat} (hstage : v.writer.stage = .checking nextPing) :
      Turn pingPeriod writeWait now v
        (v.moveTo (if v.connection.isClosing then .ending none else .selecting nextPing))
  | dequeue {nextPing : Nat} {payload : Bytes} {queue : Queue}
      (hstage : v.writer.stage = .selecting nextPing)
      (htake : v.queue.take? = some (payload, queue)) :
      Turn pingPeriod writeWait now v ({ v with queue }.moveTo (.holding payload nextPing))
  | finish {nextPing : Nat} (hstage : v.writer.stage = .selecting nextPing)
      (htake : v.queue.take? = none) (hsender : v.queue.hasSender = false) :
      Turn pingPeriod writeWait now v (v.moveTo (.handing .close nextPing))
  | tick {nextPing : Nat} (hstage : v.writer.stage = .selecting nextPing) (hdue : nextPing ≤ now) :
      Turn pingPeriod writeWait now v
        (v.moveTo (.handing .ping (followingPing pingPeriod nextPing now)))
  | hearClosing {nextPing : Nat} (hstage : v.writer.stage = .selecting nextPing)
      (hpermit : v.connection.closingPermit = true) :
      Turn pingPeriod writeWait now v
        ({ v with connection := v.connection.hearClosing }.moveTo (.ending none))
  | look {payload : Bytes} {nextPing : Nat} (hstage : v.writer.stage = .holding payload nextPing) :
      Turn pingPeriod writeWait now v
        (v.moveTo (if v.connection.isClosing then .ending none
          else .handing (.binary payload) nextPing))
  | hand {frame : Outgoing} {nextPing : Nat} (hstage : v.writer.stage = .handing frame nextPing) :
      Turn pingPeriod writeWait now v
        { v with
          writer := ⟨.flushing frame (now + writeWait) nextPing, v.writer.handed ++ [frame]⟩ }
  | sentBinary {payload : Bytes} {deadline nextPing : Nat}
      (hstage : v.writer.stage = .flushing (.binary payload) deadline nextPing) :
      Turn pingPeriod writeWait now v
        ({ v with connection := v.connection.touchWrite now }.moveTo (.checking nextPing))
  | sentPing {deadline nextPing : Nat}
      (hstage : v.writer.stage = .flushing .ping deadline nextPing) :
      Turn pingPeriod writeWait now v (v.moveTo (.checking nextPing))
  | sentClose {deadline nextPing : Nat}
      (hstage : v.writer.stage = .flushing .close deadline nextPing) :
      Turn pingPeriod writeWait now v (v.moveTo (.ending none))
  | failed {frame : Outgoing} {deadline nextPing : Nat} {failure : WebSocket.Failure}
      (hstage : v.writer.stage = .flushing frame deadline nextPing) :
      Turn pingPeriod writeWait now v (v.moveTo (.ending (some (Fault.ofWebSocket failure))))
  | expire {frame : Outgoing} {deadline nextPing : Nat}
      (hstage : v.writer.stage = .flushing frame deadline nextPing) (hdue : deadline ≤ now) :
      Turn pingPeriod writeWait now v (v.moveTo (.ending (some (.timeout "write"))))
  | goAway {fault? : Option Fault} (hstage : v.writer.stage = .ending fault?) :
      Turn pingPeriod writeWait now v
        ({ v with
          queue := v.queue.dropReceiver
          connection := v.connection.signalStopped }.moveTo .done)

section Step

variable {pingPeriod writeWait now : Nat} {move : Move} {v v' : Scene}

/-- A writer makes no other moves. -/
theorem Turn.of_step? (h : step? pingPeriod writeWait now move v = some v') :
    Turn pingPeriod writeWait now v v' := by
  unfold step? at h
  split at h
  · next hstage =>
      cases h
      exact .start hstage
  · next hstage =>
      cases h
      exact .check hstage
  · next hstage =>
      split at h
      · next htake =>
          cases h
          exact .dequeue hstage htake
      · next htake =>
          split_ifs at h with hsender
          cases h
          exact .finish hstage htake (by simpa using hsender)
  · next hstage =>
      split_ifs at h with hdue
      cases h
      exact .tick hstage hdue
  · next hstage =>
      split_ifs at h with hpermit
      cases h
      exact .hearClosing hstage hpermit
  · next hstage =>
      cases h
      exact .look hstage
  · next hstage =>
      cases h
      exact .hand hstage
  · next hstage =>
      split at h
      · cases h
        exact .sentBinary hstage
      · cases h
        exact .sentPing hstage
      · cases h
        exact .sentClose hstage
  · next hstage =>
      cases h
      exact .failed hstage
  · next hstage =>
      split_ifs at h with hdue
      cases h
      exact .expire hstage hdue
  · next hstage =>
      cases h
      exact .goAway hstage
  · cases h

/-- A move changes neither the number nor the phase of the connection, and of the queue no more than
what was taken and whether there is a receiver. -/
theorem Turn.frame (h : Turn pingPeriod writeWait now v v') :
    v'.connection.id = v.connection.id ∧ v'.connection.phase = v.connection.phase
      ∧ v'.queue.log = v.queue.log ∧ v'.queue.hasSender = v.queue.hasSender := by
  cases h with
  | dequeue hstage htake =>
      obtain ⟨-, rfl⟩ := Queue.of_take? htake
      exact ⟨rfl, rfl, rfl, rfl⟩
  | _ => exact ⟨rfl, rfl, rfl, rfl⟩

end Step

/-! ## Nothing lost, doubled or out of order -/

/-- What was handed over is the beginning of what was taken out, and as long as the writer is in its
loop, the rest is what it has in hand. -/
structure Scene.Faithful (v : Scene) : Prop where
  taken_le : v.queue.taken ≤ v.queue.log.length
  handed : v.writer.binaries <+: v.queue.received
  held : v.writer.stage.isOver = false →
    v.writer.binaries ++ v.writer.stage.inHand = v.queue.received

section Faithful

variable {pingPeriod writeWait now : Nat} {v v' : Scene}

/-- A writer that leaves the queue and the socket alone keeps what it has in hand, or leaves its
loop. -/
lemma Scene.Faithful.moveTo (hv : v.Faithful) {stage : Stage} (connection : Connection)
    (hhand : stage.isOver = false →
      v.writer.stage.isOver = false ∧ stage.inHand = v.writer.stage.inHand) :
    ({ v with connection }.moveTo stage).Faithful where
  taken_le := hv.taken_le
  handed := hv.handed
  held hnot := by
    obtain ⟨hloop, hsame⟩ := hhand hnot
    have heq := hv.held hloop
    rw [← hsame] at heq
    exact heq

/-- A writer takes a message out of its queue. -/
lemma Scene.Faithful.dequeue (hv : v.Faithful) {nextPing : Nat} {payload : Bytes} {queue : Queue}
    (hstage : v.writer.stage = .selecting nextPing)
    (htake : v.queue.take? = some (payload, queue)) :
    ({ v with queue }.moveTo (.holding payload nextPing)).Faithful := by
  obtain ⟨hpayload, rfl⟩ := Queue.of_take? htake
  have heq : v.writer.binaries = v.queue.received := by
    simpa [hstage, Stage.inHand] using hv.held (by rw [hstage]; rfl)
  have hreceived : ({ v.queue with taken := v.queue.taken + 1 } : Queue).received
      = v.queue.received ++ [payload] := by
    simp [Queue.received, List.take_add_one, hpayload]
  refine ⟨(List.getElem?_eq_some_iff.1 hpayload).1, ?_, fun _ => ?_⟩
  · exact hreceived.symm ▸ heq ▸ List.prefix_append _ _
  · exact (congrArg (fun list => list ++ [payload]) heq).trans hreceived.symm

/-- A writer hands a frame to the socket. -/
lemma Scene.Faithful.hand (hv : v.Faithful) {frame : Outgoing} {deadline nextPing : Nat}
    (hstage : v.writer.stage = .handing frame nextPing) :
    ({ v with writer := ⟨.flushing frame deadline nextPing, v.writer.handed ++ [frame]⟩ } :
      Scene).Faithful := by
  have heq : v.writer.binaries ++ frame.payload?.toList = v.queue.received := by
    simpa [hstage, Stage.inHand] using hv.held (by rw [hstage]; rfl)
  have hbinaries : binaries ⟨.flushing frame deadline nextPing, v.writer.handed ++ [frame]⟩
      = v.queue.received := by
    rw [← heq]
    cases frame <;> simp [binaries, Outgoing.payload?]
  exact ⟨hv.taken_le, hbinaries ▸ List.prefix_rfl, fun _ => by simpa [Stage.inHand] using hbinaries⟩

/-- **A writer hands over what it takes out of its queue**, in that order and each message once. -/
theorem Scene.Faithful.step (hv : v.Faithful) (h : Turn pingPeriod writeWait now v v') :
    v'.Faithful := by
  cases h with
  | start hstage => exact hv.moveTo _ fun _ => by rw [hstage]; exact ⟨rfl, rfl⟩
  | check hstage =>
      refine hv.moveTo _ ?_
      intro hnot
      split_ifs at hnot ⊢
      · exact Bool.noConfusion hnot
      · rw [hstage]
        exact ⟨rfl, rfl⟩
  | dequeue hstage htake => exact hv.dequeue hstage htake
  | finish hstage => exact hv.moveTo _ fun _ => by rw [hstage]; exact ⟨rfl, rfl⟩
  | tick hstage => exact hv.moveTo _ fun _ => by rw [hstage]; exact ⟨rfl, rfl⟩
  | hearClosing hstage => exact hv.moveTo _ nofun
  | look hstage =>
      refine hv.moveTo _ ?_
      intro hnot
      split_ifs at hnot ⊢
      · exact Bool.noConfusion hnot
      · rw [hstage]
        exact ⟨rfl, rfl⟩
  | hand hstage => exact hv.hand hstage
  | sentBinary hstage => exact hv.moveTo _ fun _ => by rw [hstage]; exact ⟨rfl, rfl⟩
  | sentPing hstage => exact hv.moveTo _ fun _ => by rw [hstage]; exact ⟨rfl, rfl⟩
  | sentClose hstage => exact hv.moveTo _ nofun
  | failed hstage => exact hv.moveTo _ nofun
  | expire hstage => exact hv.moveTo _ nofun
  | goAway hstage => exact ⟨hv.taken_le, hv.handed, nofun⟩

/-- A writer does not notice what is put into its queue behind what it took. -/
lemma Scene.Faithful.of_log {w : Writer} {q q' : Queue} {c c' : Connection}
    (h : Scene.Faithful ⟨w, q, c⟩) (hlog : q.log <+: q'.log) (htaken : q'.taken = q.taken) :
    Scene.Faithful ⟨w, q', c'⟩ := by
  have hle : q.taken ≤ q.log.length := h.taken_le
  have hreceived : q'.received = q.received := by
    obtain ⟨more, heq⟩ := hlog
    rw [Queue.received, htaken, ← heq, List.take_append_of_le_length hle]
    rfl
  refine ⟨?_, ?_, ?_⟩
  · exact htaken.symm ▸ hle.trans hlog.length_le
  · exact hreceived.symm ▸ h.handed
  · intro hnot
    exact (h.held hnot).trans hreceived.symm

end Faithful

end Writer

end MarketGate
