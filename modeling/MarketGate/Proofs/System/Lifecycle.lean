import MarketGate.Proofs.Connection.Phase
import MarketGate.Proofs.Pump.Ending
import MarketGate.Proofs.System.Departure
import MarketGate.Proofs.System.EventPath

/-!
# The life of a client

The phase of a connection, the two wake-up permits and the stages of pump, reader and writer are
moved by four tasks that take no notice of each other.  Still they always fit together:

* a connection is closed exactly when its pump has returned, and a pump returns only when reader and
  writer are done or were never started (`Coherent.closed`, `Coherent.returned`);
* a connection that drains has lost the sender of its queue (`Coherent.draining`);
* a connection that closes was closed by its reader, which wakes the writer; the permit stays until
  the writer is out of its loop (`Coherent.closing`, `Coherent.woken`);
* a writer that is done has left a permit for the reader, unless the reader leaves anyway
  (`Coherent.stopped`).

`View.Sound` brings this together with what is known of the sender, the messages and the Close frame
of a client.  **`View.Sound.step`** and **`sound_of_run`**: it holds of every client at any time.
`Wired.run_sound` is induction over the rest of a run, for properties that lean on it.
-/

namespace MarketGate

namespace Reader

/-- Whether a reader has begun to leave. -/
def Stage.isLeaving : Stage → Bool
  | .claiming _ | .claimingEarly _ | .waking _ | .reporting _ | .leaving _ | .done _ => true
  | _ => false

/-- Whether a reader has made both of its attempts to close the connection, or one that worked. -/
def Stage.hasTried : Stage → Bool
  | .waking _ | .reporting _ | .leaving _ | .done _ => true
  | _ => false

/-- Whether a reader is done with closing the connection, waking the writer included. -/
def Stage.isPastClosing : Stage → Bool
  | .reporting _ | .leaving _ | .done _ => true
  | _ => false

lemma stage_of_isDone {r : Reader} (h : r.isDone = true) : ∃ reason, r.stage = .done reason := by
  unfold isDone at h
  split at h
  · exact ⟨_, ‹_›⟩
  · exact Bool.noConfusion h

lemma Stage.isLeaving_of_isPastClosing {stage : Stage} (h : stage.isPastClosing = true) :
    stage.isLeaving = true := by
  cases stage with
  | reporting | leaving | done => rfl
  | _ => exact Bool.noConfusion h

lemma Stage.hasTried_of_isPastClosing {stage : Stage} (h : stage.isPastClosing = true) :
    stage.hasTried = true := by
  cases stage with
  | reporting | leaving | done => rfl
  | _ => exact Bool.noConfusion h

section Turn

variable {settings : Settings} {now : Nat} {stage stage' : Stage} {c c' : Connection}
  (h : Turn settings now stage c stage' c')

include h

lemma Turn.ne_idle_after : stage' ≠ .idle := by
  cases h with
  | @receive _ _ incoming hne =>
      cases incoming with
      | binary data => simp only [Stage.afterReceiving]; split <;> exact Stage.noConfusion
      | _ => exact Stage.noConfusion
  | claim | claimEarly => split_ifs <;> exact Stage.noConfusion
  | _ => exact Stage.noConfusion

/-- A reader that does something is not done. -/
lemma Turn.not_isDone_before : isDone ⟨stage⟩ = false := by
  cases h <;> rfl

/-- A reader moves a connection to no other phase than the one in which it closes. -/
lemma Turn.of_phase {phase : Phase} (hphase : c'.phase = phase) (hne : phase ≠ .closing) :
    c.phase = phase := by
  cases h with
  | claim | claimEarly =>
      rw [Connection.phase_exchange] at hphase
      split_ifs at hphase
      · exact absurd hphase.symm hne
      · exact hphase
  | _ => exact hphase

lemma Turn.leads : c.phase.Leads c'.phase := by
  cases h with
  | claim => exact Connection.leads_exchange .leave
  | claimEarly => exact Connection.leads_exchange .leaveEarly
  | _ => exact .stay

/-- A reader wakes the writer once it has closed the connection. -/
lemma Turn.permit_cases (hpermit : c'.closingPermit = true) :
    c.closingPermit = true ∨ ∃ reason, stage = .waking reason := by
  cases h with
  | wake => exact Or.inr ⟨_, rfl⟩
  | claim | claimEarly =>
      unfold Connection.exchange at hpermit
      split_ifs at hpermit <;> exact Or.inl hpermit
  | _ => exact Or.inl hpermit

end Turn

/-- How a reader fits together with the connection and with where the writer stands. -/
structure Agrees (stage : Stage) (c : Connection) (writer : Writer.Stage) : Prop where
  /-- Only the reader closes a connection. -/
  closing : c.phase = .closing → stage.hasTried = true
  waking : ∀ reason, stage = .waking reason → c.phase = .closing
  permit : c.closingPermit = true → c.phase = .closing ∨ c.phase = .closed
  /-- The writer of a connection that closes is woken, or is out of its loop. -/
  woken : c.phase = .closing → stage.isPastClosing = true →
    c.closingPermit = true ∨ writer.isOver = true
  /-- The reader whose writer is done finds a permit, or leaves anyway. -/
  stopped : writer = .done → c.stoppedPermit = true ∨ stage.isLeaving = true

section Agrees

variable {settings : Settings} {now : Nat} {stage stage' : Stage} {c c' : Connection}
  {writer : Writer.Stage}

/-- A reader that leaves the connection alone keeps this, as long as it does not fall back. -/
lemma Agrees.moveTo (hv : Agrees stage c writer)
    (htried : stage.hasTried = true → stage'.hasTried = true)
    (hwaking : ∀ reason, stage' ≠ .waking reason)
    (hpast : stage'.isPastClosing = true → stage.isPastClosing = true)
    (hleaving : stage.isLeaving = true → stage'.isLeaving = true) : Agrees stage' c writer where
  closing hphase := htried (hv.closing hphase)
  waking reason hstage := absurd hstage (hwaking reason)
  permit := hv.permit
  woken hphase hpast' := hv.woken hphase (hpast hpast')
  stopped hdone := (hv.stopped hdone).imp_right hleaving

/-- A turn of the reader keeps this. -/
lemma Agrees.turn (hv : Agrees stage c writer) (h : Turn settings now stage c stage' c') :
    Agrees stage' c' writer := by
  obtain ⟨hclosing, hwaking, hpermit, hwoken, hstopped⟩ := hv
  cases h with
  | start | publish | pong | expire | hearStopped | report | wake =>
      constructor <;> simp_all [Stage.hasTried, Stage.isPastClosing, Stage.isLeaving,
        Connection.touchPong, Connection.hearStopped, Connection.wakeWriter]
  | @receive _ _ incoming hne =>
      have hopen : c.phase ≠ .closing := fun hphase => Bool.noConfusion (hclosing hphase)
      refine ⟨fun h => absurd h hopen, ?_, hpermit, fun h => absurd h hopen, ?_⟩
      · intro reason
        cases incoming with
        | binary data => simp only [Stage.afterReceiving]; split <;> exact Stage.noConfusion
        | _ => exact Stage.noConfusion
      · intro hdone
        exact Or.inl ((hstopped hdone).resolve_right Bool.noConfusion)
  | claim | claimEarly =>
      have hopen : c.phase ≠ .closing := fun hphase => Bool.noConfusion (hclosing hphase)
      unfold Connection.stands Connection.exchange
      split_ifs with hstands <;> constructor <;>
        simp_all [Stage.hasTried, Stage.isPastClosing, Stage.isLeaving]

/-- So does a move of the writer. -/
lemma Agrees.write {w : Writer} {q : Queue} {pingPeriod writeWait : Nat} {after : Writer.Scene}
    (hv : Agrees stage c w.stage) (h : Writer.Turn pingPeriod writeWait now ⟨w, q, c⟩ after) :
    Agrees stage after.connection after.writer.stage := by
  have hphase : after.connection.phase = c.phase := h.frame.2.1
  refine ⟨?_, ?_, ?_, ?_, ?_⟩
  · rw [hphase]
    exact hv.closing
  · rw [hphase]
    exact hv.waking
  · rw [hphase]
    intro hpermit
    refine hv.permit ?_
    cases h with
    | hearClosing hstage => exact Bool.noConfusion hpermit
    | _ => exact hpermit
  · rw [hphase]
    intro hclosing hpast
    rcases hv.woken hclosing hpast with hpermit | hover
    · cases h with
      | hearClosing hstage => exact Or.inr rfl
      | _ => exact Or.inl hpermit
    · exact Or.inr (h.of_isOver hover).1
  · intro hdone
    cases h with
    | goAway hstage => exact Or.inl rfl
    | check | look =>
        simp only [Writer.Scene.moveTo] at hdone
        split_ifs at hdone
    | _ => cases hdone

end Agrees

end Reader

namespace Seat

variable {p : Nat} {v : Seat}

/-- What the hub does to a connection: nothing, or it registers one that was connecting, or it
drains one that was registered, and then the sender of the queue is gone. -/
structure Handles (v v' : Seat) : Prop where
  phase : v'.connection.phase = v.connection.phase
    ∨ v.connection.phase = .connecting ∧ v'.connection.phase = .registered
    ∨ v.connection.phase = .registered ∧ v'.connection.phase = .draining
      ∧ v'.queue.hasSender = false
  closingPermit : v'.connection.closingPermit = v.connection.closingPermit
  stoppedPermit : v'.connection.stoppedPermit = v.connection.stoppedPermit
  sender : v.queue.hasSender = false → v'.queue.hasSender = false

lemma Handles.of_exchange {c : Connection} {source target : Phase} {registered : Bool} {q : Queue}
    (hsender : v.queue.hasSender = false → q.hasSender = false) (hc : v.connection = c)
    (hphase : source = .connecting ∧ target = .registered
      ∨ source = .registered ∧ target = .draining ∧ q.hasSender = false) :
    v.Handles ⟨registered, c.exchange source target, q⟩ := by
  subst hc
  by_cases hstands : v.connection.phase = source
  · have heq : v.connection.exchange source target = { v.connection with phase := target } := by
      simp [Connection.exchange, hstands]
    rw [heq]
    refine ⟨?_, rfl, rfl, hsender⟩
    rcases hphase with ⟨rfl, rfl⟩ | ⟨rfl, rfl, hgone⟩
    · exact Or.inr (Or.inl ⟨hstands, rfl⟩)
    · exact Or.inr (Or.inr ⟨hstands, rfl, hgone⟩)
  · rw [Connection.exchange_of_ne hstands]
    exact ⟨Or.inl rfl, rfl, rfl, hsender⟩

/-- The hub brings a connection to no other phases than those two. -/
lemma Handles.of_phase {v' : Seat} {phase : Phase} (h : v.Handles v')
    (hphase : v'.connection.phase = phase) (hregistered : phase ≠ .registered)
    (hdraining : phase ≠ .draining) : v.connection.phase = phase := by
  rcases h.phase with heq | ⟨-, heq⟩ | ⟨-, heq, -⟩
  · exact heq.symm.trans hphase
  · exact absurd (hphase.symm.trans heq) hregistered
  · exact absurd (hphase.symm.trans heq) hdraining

lemma handles_refl (v : Seat) : v.Handles v := ⟨Or.inl rfl, rfl, rfl, id⟩

lemma handles_remove (v : Seat) : v.Handles v.remove := by
  unfold remove
  split_ifs
  · exact .of_exchange (fun _ => rfl) rfl (Or.inr ⟨rfl, rfl, rfl⟩)
  · exact v.handles_refl

/-- What a command does to a connection. -/
lemma handles_apply (command : Command) (v : Seat) : v.Handles (v.apply p command) := by
  cases command with
  | register r =>
      simp only [apply, enter]
      split_ifs
      · exact ⟨Or.inl rfl, rfl, rfl, fun _ => rfl⟩
      · exact .of_exchange id rfl (Or.inl ⟨rfl, rfl⟩)
      · exact v.handles_refl
  | unregister id =>
      simp only [apply]
      split_ifs
      · exact v.handles_remove
      · exact v.handles_refl
  | broadcast payload =>
      simp only [apply, receive]
      split_ifs
      · exact v.handles_remove
      · exact ⟨Or.inl rfl, rfl, rfl, id⟩
      · exact v.handles_refl
  | count ticket => exact v.handles_refl

/-- Nothing is put into a queue whose sender is gone. -/
lemma log_apply_of_gone {command : Command} (hsender : v.queue.hasSender = false)
    (hregistered : v.registered = false) :
    (v.apply p command).queue.hasSender = false
      ∧ (v.apply p command).queue.log = v.queue.log := by
  refine ⟨hasSender_apply hsender command, ?_⟩
  by_cases hne : command = .register ⟨p, p⟩
  · subst hne
    simpa [apply] using v.log_enter.1
  · obtain ⟨-, ⟨-, hlog⟩ | ⟨hin, -⟩⟩ := log_apply hne v
    · exact hlog
    · rw [hregistered] at hin
      exact Bool.noConfusion hin

/-- Whoever is no longer registered after a command was removed by it. -/
lemma apply_eq_remove {command : Command} (hregistered : v.registered = true)
    (hremoved : (v.apply p command).registered = false) : v.apply p command = v.remove := by
  cases command with
  | register r =>
      simp only [apply, enter, hregistered, if_true] at hremoved
      split_ifs at hremoved
      exact Bool.noConfusion (hregistered.symm.trans hremoved)
  | unregister id =>
      simp only [apply] at hremoved ⊢
      split_ifs at hremoved ⊢
      · rfl
      · exact Bool.noConfusion (hregistered.symm.trans hremoved)
  | broadcast payload =>
      simp only [apply, receive, hregistered, if_true] at hremoved ⊢
      split_ifs at hremoved ⊢
      rfl
  | count ticket => exact Bool.noConfusion (hregistered.symm.trans hremoved)

lemma taken_apply (command : Command) (v : Seat) :
    (v.apply p command).queue.taken = v.queue.taken := by
  by_cases hne : command = .register ⟨p, p⟩
  · subst hne
    simpa [apply] using v.log_enter.2
  · exact (log_apply hne v).1

end Seat

namespace View

/-- The writer of a client with what it shares. -/
def scene (v : View) : Writer.Scene := ⟨v.pump.writer, v.seat.queue, v.seat.connection⟩

/-- How the stages, the phase and the permits of a client fit together. -/
structure Coherent (v : View) : Prop extends
    Reader.Agrees v.pump.reader.stage v.seat.connection v.pump.writer.stage where
  /-- A pump at work has started its reader and its writer. -/
  running : v.pump.stage = .running →
    v.pump.reader.stage ≠ .idle ∧ v.pump.writer.stage ≠ .idle
  /-- A pump returns when both are done, or when it found the hub gone and has started neither. -/
  returned : v.pump.stage = .returned →
    v.pump.reader.isDone = true ∧ v.pump.writer.stage = .done
      ∨ v.pump.reader.stage = .idle ∧ v.pump.writer.stage = .idle ∧ v.loop ≠ .running
  closed : v.seat.connection.phase = .closed → v.pump.stage = .returned
  draining : v.seat.connection.phase = .draining → v.seat.queue.hasSender = false

section Coherent

variable {settings : Settings} {now p : Nat} {v v' : View}

/-- The hub keeps a client coherent. -/
lemma Coherent.of_handles (hv : v.Coherent) {seat : Seat} {mailbox : List Command} {loop : HubLoop}
    (h : v.seat.Handles seat) (hloop : v.loop ≠ .running → loop ≠ .running) :
    ({ v with seat, mailbox, loop } : View).Coherent where
  running := hv.running
  returned hstage := (hv.returned hstage).imp_right fun ⟨hreader, hwriter, hgone⟩ =>
    ⟨hreader, hwriter, hloop hgone⟩
  closed hphase := hv.closed (h.of_phase hphase nofun nofun)
  draining hphase := by
    rcases h.phase with heq | ⟨-, heq⟩ | ⟨-, -, hgone⟩
    · exact h.sender (hv.draining (heq.symm.trans hphase))
    · cases heq.symm.trans hphase
    · exact hgone
  closing hphase := hv.closing (h.of_phase hphase nofun nofun)
  waking reason hstage := by
    have hphase := hv.waking reason hstage
    rcases h.phase with heq | ⟨hold, -⟩ | ⟨hold, -⟩
    · exact heq.trans hphase
    · cases hold.symm.trans hphase
    · cases hold.symm.trans hphase
  permit hpermit := by
    have hphase := hv.permit (h.closingPermit.symm.trans hpermit)
    rcases h.phase with heq | ⟨hold, -⟩ | ⟨hold, -⟩
    · rwa [← heq] at hphase
    · rw [hold] at hphase
      simp at hphase
    · rw [hold] at hphase
      simp at hphase
  woken hphase hpast := by
    rw [h.closingPermit]
    exact hv.woken (h.of_phase hphase nofun nofun) hpast
  stopped hdone := by
    rw [h.stoppedPermit]
    exact hv.stopped hdone

/-- A turn of the reader keeps a client coherent. -/
lemma Coherent.turn (hv : v.Coherent) {stage : Reader.Stage} {connection : Connection}
    (h : Reader.Turn settings now v.pump.reader.stage v.seat.connection stage connection) :
    ({ v.setReader stage with seat := { v.seat with connection } } : View).Coherent where
  toAgrees := hv.toAgrees.turn h
  running hstage := ⟨h.ne_idle_after, (hv.running hstage).2⟩
  returned hstage := by
    rcases hv.returned hstage with ⟨hdone, -⟩ | ⟨hidle, -⟩
    · exact Bool.noConfusion (h.not_isDone_before.symm.trans hdone)
    · exact absurd hidle h.ne_idle
  closed hphase := hv.closed (h.of_phase hphase Phase.noConfusion)
  draining hphase := hv.draining (h.of_phase hphase Phase.noConfusion)

/-- A move of the writer keeps a client coherent. -/
lemma Coherent.write (hv : v.Coherent) {after : Writer.Scene}
    (h : Writer.Turn settings.pingPeriod settings.writeWait now v.scene after) :
    ({ v with
        pump := { v.pump with writer := after.writer }
        seat := { v.seat with connection := after.connection, queue := after.queue } } :
      View).Coherent where
  toAgrees := hv.toAgrees.write h
  running hstage := ⟨(hv.running hstage).1, h.ne_idle_after⟩
  returned hstage := by
    rcases hv.returned hstage with ⟨-, hdone⟩ | ⟨-, hidle, -⟩
    · exact absurd hdone h.ne_done
    · exact absurd hidle h.ne_idle
  closed hphase := hv.closed (h.frame.2.1.symm.trans hphase)
  draining hphase := h.frame.2.2.2.trans (hv.draining (h.frame.2.1.symm.trans hphase))

/-- A reader that deals with the hub keeps a client coherent. -/
lemma Coherent.setReader (hv : v.Coherent) {stage : Reader.Stage} (mailbox : List Command)
    (hagrees : Reader.Agrees stage v.seat.connection v.pump.writer.stage)
    (hbefore : v.pump.reader.stage ≠ .idle) (hdone : ∀ reason, v.pump.reader.stage ≠ .done reason)
    (hidle : stage ≠ .idle) : ({ v.setReader stage with mailbox } : View).Coherent where
  toAgrees := hagrees
  running hstage := ⟨hidle, (hv.running hstage).2⟩
  returned hstage := by
    rcases hv.returned hstage with ⟨hold, -⟩ | ⟨hold, -⟩
    · obtain ⟨reason, hold⟩ := Reader.stage_of_isDone hold
      exact absurd hold (hdone reason)
    · exact absurd hold hbefore
  closed := hv.closed
  draining := hv.draining

/-- The tasks of a client keep it coherent. -/
lemma Coherent.act (hv : v.Coherent) (hreader : v.waits = true → v.pump.reader.stage = .idle)
    (hwriter : v.waits = true → v.pump.writer = {}) (h : Act settings now p v v') :
    v'.Coherent := by
  cases h with
  | enter hstage hopen =>
      have hidle := hreader (waits_of_stage hstage)
      have hphase : v.seat.connection.phase ≠ .closing := fun hphase => by
        have htried := hv.closing hphase
        rw [hidle] at htried
        exact Bool.noConfusion htried
      refine ⟨⟨fun h => absurd h hphase, nofun, hv.permit, fun h => absurd h hphase, nofun⟩,
        fun _ => ⟨nofun, nofun⟩, nofun, ?_, hv.draining⟩
      intro h
      cases hstage.symm.trans (hv.closed h)
  | refused hstage hloop =>
      have hidle := hreader (waits_of_stage hstage)
      have hnew := hwriter (waits_of_stage hstage)
      refine ⟨⟨nofun, ?_, fun _ => Or.inr rfl, nofun, ?_⟩, nofun, ?_, fun _ => rfl, nofun⟩
      · intro reason h
        cases hidle.symm.trans h
      · intro h
        rw [hnew] at h
        cases h
      · exact fun _ => Or.inr ⟨hidle, by rw [hnew], hloop⟩
  | leave hstage hdone hwriter =>
      refine ⟨⟨nofun, ?_, fun _ => Or.inr rfl, nofun, hv.stopped⟩, nofun, ?_, fun _ => rfl, nofun⟩
      · intro reason h
        obtain ⟨reason', hold⟩ := Reader.stage_of_isDone hdone
        cases hold.symm.trans h
      · exact fun _ => Or.inl ⟨hdone, hwriter⟩
  | turn hturn => exact hv.turn hturn
  | relay hstage hopen | relayRefused hstage hopen =>
      refine hv.setReader _ (hv.toAgrees.moveTo ?_ nofun nofun ?_) ?_ ?_ nofun
      all_goals rw [hstage]
      · exact Bool.noConfusion
      · exact Bool.noConfusion
      · exact Reader.Stage.noConfusion
      · exact fun _ => Reader.Stage.noConfusion
  | part hstage hopen | partRefused hstage hopen =>
      refine hv.setReader _ (hv.toAgrees.moveTo (fun _ => rfl) nofun ?_ fun _ => rfl) ?_ ?_ nofun
      all_goals rw [hstage]
      · exact fun _ => rfl
      · exact Reader.Stage.noConfusion
      · exact fun _ => Reader.Stage.noConfusion
  | write hturn => exact hv.write hturn

/-- **The life of a client stays coherent.** -/
theorem Coherent.step (hv : v.Coherent) (hreader : v.waits = true → v.pump.reader.stage = .idle)
    (hwriter : v.waits = true → v.pump.writer = {}) {label : Option Command}
    (h : View.Step settings now p label v v') : v'.Coherent := by
  cases h with
  | idle => exact hv
  | act hact => exact hv.act hreader hwriter hact
  | send hopen hne => exact hv.of_handles v.seat.handles_refl id
  | serve hloop hmailbox => exact hv.of_handles (Seat.handles_apply _ _) id
  | stop hloop hmailbox hstage =>
      exact hv.of_handles v.seat.handles_remove fun _ => HubLoop.noConfusion
  | lose hloop =>
      refine hv.of_handles ⟨Or.inl rfl, rfl, rfl, ?_⟩ fun _ => HubLoop.noConfusion
      intro hsender
      simp only [Seat.lose]
      split_ifs
      · rfl
      · exact hsender

end Coherent

/-! ## What a step does to a client -/

section Step

variable {settings : Settings} {now p : Nat} {label : Option Command} {v v' : View}

/-- The phase of a connection moves in one direction. -/
lemma Step.leads (h : View.Step settings now p label v v') :
    v.seat.connection.phase.Leads v'.seat.connection.phase := by
  have handled {seat : Seat} (h : v.seat.Handles seat) :
      v.seat.connection.phase.Leads seat.connection.phase := by
    rcases h.phase with heq | ⟨hold, hnew⟩ | ⟨hold, hnew, -⟩
    · rw [heq]
      exact .stay
    · rw [hold, hnew]
      exact .register
    · rw [hold, hnew]
      exact .drain
  cases h with
  | idle | send => exact .stay
  | act hact =>
      cases hact with
      | refused | leave => exact .close
      | turn hturn => exact hturn.leads
      | write hturn =>
          rw [hturn.frame.2.1]
          exact .stay
      | _ => exact .stay
  | serve => exact handled (Seat.handles_apply _ _)
  | stop => exact handled v.seat.handles_remove
  | lose => exact .stay

/-- The writer is woken by the reader, and by nobody else. -/
lemma Step.permit_cases (h : View.Step settings now p label v v')
    (hpermit : v'.seat.connection.closingPermit = true) :
    v.seat.connection.closingPermit = true
      ∨ ∃ reason, v.pump.reader.stage = .waking reason := by
  cases h with
  | idle | send | lose => exact Or.inl hpermit
  | act hact =>
      cases hact with
      | turn hturn => exact hturn.permit_cases hpermit
      | write hturn =>
          cases hturn with
          | hearClosing => exact Bool.noConfusion hpermit
          | _ => exact Or.inl hpermit
      | _ => exact Or.inl hpermit
  | serve => exact Or.inl ((Seat.handles_apply _ _).closingPermit.symm.trans hpermit)
  | stop => exact Or.inl (v.seat.handles_remove.closingPermit.symm.trans hpermit)

/-- A sender that is gone does not come back. -/
lemma Step.sender_gone (h : View.Step settings now p label v v')
    (hsender : v.seat.queue.hasSender = false) : v'.seat.queue.hasSender = false := by
  cases h with
  | idle | send => exact hsender
  | act hact =>
      cases hact with
      | refused => rfl
      | write hturn => exact hturn.frame.2.2.2.trans hsender
      | _ => exact hsender
  | serve => exact Seat.hasSender_apply hsender _
  | stop => exact Seat.hasSender_remove hsender
  | lose =>
      simp only [Seat.lose]
      split_ifs
      · rfl
      · exact hsender

/-- A writer stays as it is, or its pump starts it, or it makes a move. -/
lemma Step.writer_cases (h : View.Step settings now p label v v') :
    v'.pump.writer = v.pump.writer
      ∨ v.waits = true ∧ v'.pump.writer = { v.pump.writer with stage := .starting }
      ∨ Writer.Turn settings.pingPeriod settings.writeWait now v.scene v'.scene := by
  cases h with
  | act hact =>
      cases hact with
      | enter hstage => exact Or.inr (Or.inl ⟨waits_of_stage hstage, rfl⟩)
      | write hturn => exact Or.inr (Or.inr hturn)
      | _ => exact Or.inl rfl
  | _ => exact Or.inl rfl

/-- A writer that has been started is not started again. -/
lemma Step.started (h : View.Step settings now p label v v')
    (hidle : v.pump.writer.stage ≠ .idle) : v'.pump.writer.stage ≠ .idle := by
  rcases h.writer_cases with heq | ⟨-, heq⟩ | hturn
  · rwa [heq]
  · rw [heq]
    exact Writer.Stage.noConfusion
  · exact hturn.ne_idle_after

end Step

/-! ## Everything together -/

section Sound

variable {settings : Settings} {now p : Nat} {label : Option Command} {v v' : View}

/-- A client whose sender is gone is not registered. -/
lemma Kept.registered_of_gone (hv : v.Kept p) (hsender : v.seat.queue.hasSender = false) :
    v.seat.registered = false := by
  have hbalanced := hv.sender
  rw [Seat.Balanced, hsender, Bool.toNat_false] at hbalanced
  cases hin : v.seat.registered with
  | false => rfl
  | true => simp [hin] at hbalanced

/-- Whatever happens, a Close frame keeps its meaning. -/
lemma finishing_step (hv : v.Kept p) {past : List Command} (hs : v.Sent p past)
    (hf : v.scene.Finishing) (h : View.Step settings now p label v v') : v'.scene.Finishing := by
  cases h with
  | idle => exact hf
  | act hact =>
      cases hact with
      | enter hstage hopen =>
          have hnew : v.pump.writer = {} := hs.idle (waits_of_stage hstage)
          refine ⟨nofun, nofun, ?_⟩
          intro hmem
          simp [scene, send, hnew] at hmem
      | refused => exact hf.of_queue rfl fun _ => ⟨rfl, rfl⟩
      | write hturn => exact hf.step hs.faithful hturn
      | _ => exact hf.of_queue rfl fun hsender => ⟨hsender, rfl⟩
  | send hopen hne => exact hf
  | serve hloop hmailbox =>
      exact hf.of_queue (Seat.taken_apply _ _) fun hsender =>
        Seat.log_apply_of_gone hsender (hv.registered_of_gone hsender)
  | stop hloop hmailbox hstage =>
      obtain ⟨hlog, htaken⟩ := v.seat.log_remove
      exact hf.of_queue htaken fun hsender => ⟨Seat.hasSender_remove hsender, hlog⟩
  | lose hloop =>
      refine hf.of_queue ?_ fun hsender => ⟨?_, ?_⟩ <;>
        (simp only [Seat.lose]; split_ifs <;> first | rfl | exact hsender)

/-- What holds of a client at any time. -/
structure Sound (p : Nat) (v : View) : Prop where
  kept : v.Kept p
  sent : ∃ past, v.Sent p past
  coherent : v.Coherent
  finishing : v.scene.Finishing

/-- **What holds of a client goes on holding**, whoever makes the next step. -/
theorem Sound.step (hv : v.Sound p) (h : View.Step settings now p label v v') : v'.Sound p := by
  obtain ⟨hkept, ⟨past, hsent⟩, hcoherent, hfinishing⟩ := hv
  exact ⟨hkept.step h, ⟨_, hsent.step h⟩, hcoherent.step hkept.idle hsent.idle h,
    finishing_step hkept hsent hfinishing h⟩

lemma Sound.faithful (hv : v.Sound p) : v.scene.Faithful := by
  obtain ⟨past, hsent⟩ := hv.sent
  exact hsent.faithful

/-- A client that has just connected. -/
lemma Fresh.sound (hnew : v.Fresh p) (hfits : ∀ c ∈ v.mailbox, c.Fits p)
    (hgone : v.loop ≠ .running → v.mailbox = []) : v.Sound p := by
  obtain ⟨peer, connectedAt, hc⟩ := hnew.connection
  refine ⟨hnew.kept hfits hgone, ⟨[], hnew.sent hfits⟩, ?_, ?_⟩
  · refine ⟨by constructor <;> simp [hnew.pump, hc], ?_, ?_, ?_, ?_⟩ <;> simp [hnew.pump, hc]
  · constructor <;> simp [scene, hnew.pump]

end Sound

end View

namespace System

/-- The writer of the client at a position, with its queue and its connection. -/
def scene? (p : Nat) (s : System) : Option Writer.Scene := do
  let pump ← s.pumps[p]?
  let connection ← s.hub.connections[pump.connection]?
  let queue ← s.hub.queues[pump.queue]?
  return ⟨pump.writer, queue, connection⟩

/-- It is what the client's view has of it. -/
lemma Wired.scene?_eq {s : System} {p : Nat} {v : View} (hw : s.Wired)
    (hview : s.view? p = some v) : s.scene? p = some v.scene := by
  obtain ⟨hpump, hconnection, hqueue, hc, hq, -⟩ := hw.parts hview
  simp [scene?, hpump, hconnection, hqueue, hc, hq, View.scene]

lemma Wired.exists_view_of_scene? {s : System} {p : Nat} {x : Writer.Scene} (hw : s.Wired)
    (hscene : s.scene? p = some x) : ∃ v, s.view? p = some v ∧ v.scene = x := by
  have hpump : ∃ pump, s.pumps[p]? = some pump := by
    simp only [scene?, Option.bind_eq_bind, Option.bind_eq_some_iff] at hscene
    obtain ⟨pump, hpump, -⟩ := hscene
    exact ⟨pump, hpump⟩
  obtain ⟨pump, hpump⟩ := hpump
  obtain ⟨v, hview, -⟩ := hw.exists_view hpump
  exact ⟨v, hview, Option.some.inj ((hw.scene?_eq hview).symm.trans hscene)⟩

section Run

variable {s t : System} {actions : List Action} {p : Nat} {v w : View}

/-- Every client is sound in every run. -/
theorem sound_of_run (settings : Settings)
    (horderly : ∀ action ∈ actions, action.isOrderly = true)
    (hrun : run? actions (start settings) = some t) (hview : t.view? p = some v) : v.Sound p := by
  refine (wired_start settings).run_view (fun _ v => v.Sound p) [] ?_
    (fun _ _ _ _ _ hv hstep => hv.step hstep) horderly hrun nofun ?_ hview
  · intro _ _ _ hnew hfits hgone
    exact hnew.sound (fun c hc => hfits c (List.mem_append_right _ hc)) hgone
  · intro v hv
    rw [view?_start] at hv
    cases hv

/-- **Induction over the rest of a run**, as a client sees it.  What is kept may speak of the
commands that the hub serves in it. -/
theorem Wired.run_sound (P : List Command → View → Prop) (hw : s.Wired)
    (horderly : ∀ action ∈ actions, action.isOrderly = true) (hrun : run? actions s = some t)
    (hview : s.view? p = some v) (hv : v.Sound p) (hstart : P [] v)
    (hkeep : ∀ past now label v v', v.Sound p → P past v →
      View.Step s.settings now p label v v' → P (past ++ label.toList) v')
    (hview' : t.view? p = some w) : P (served actions s) w := by
  have hall := hw.run_view (fun past v => v.Sound p ∧ P past v) [] (fun hnone => ?_)
    (fun past now label v v' hv hstep => ⟨hv.1.step hstep, hkeep _ _ _ _ _ hv.1 hv.2 hstep⟩)
    horderly hrun nofun (fun u hu => ?_) hview'
  · exact hall.2
  · rw [hview] at hnone
    cases hnone
  · obtain rfl := Option.some.inj (hview.symm.trans hu)
    exact ⟨hv, hstart⟩

end Run

end System

end MarketGate
