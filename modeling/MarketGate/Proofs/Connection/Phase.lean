import MarketGate.Connection
import Mathlib.Tactic.Lemma

/-!
# The order of phases

Whoever moves a connection moves it on: from connecting to registered, from there to draining or to
closing, and to closed from everywhere.

* `Phase.Leads` are the single moves, and `Phase.Precedes` is what becomes of several; by
  **`Phase.Leads.precedes`** none of them goes back.
* **`Connection.leads_exchange`**: an exchange makes such a move, or none.
* `Phase.isOpen` says that a connection has not begun to end; a move never undoes that it has.
-/

namespace MarketGate

namespace Phase

/-- Whether a connection in a phase has not begun to end. -/
def isOpen : Phase → Bool
  | connecting | registered => true
  | draining | closing | closed => false

/-- How far a connection in a phase has come. -/
def rank : Phase → Nat
  | connecting => 0
  | registered => 1
  | draining | closing => 2
  | closed => 3

/-- A connection in a phase may get into another later on, or is in it. -/
def Precedes (phase phase' : Phase) : Prop := phase = phase' ∨ phase.rank < phase'.rank

lemma Precedes.trans {first second third : Phase} (h : first.Precedes second)
    (h' : second.Precedes third) : first.Precedes third := by
  rcases h with rfl | hlt
  · exact h'
  · rcases h' with rfl | hlt'
    · exact Or.inr hlt
    · exact Or.inr (Nat.lt_trans hlt hlt')

/-- Nothing comes after the end. -/
lemma Precedes.eq_closed {phase : Phase} (h : Phase.closed.Precedes phase) : phase = .closed := by
  rcases h with rfl | hlt
  · rfl
  · cases phase <;> exact absurd hlt (by decide)

/-- From which phase a connection goes on to which. -/
inductive Leads : Phase → Phase → Prop
  | stay {phase : Phase} : Leads phase phase
  | register : Leads .connecting .registered
  | drain : Leads .registered .draining
  /-- The reader closes the connection, whether it is registered or not. -/
  | leave : Leads .registered .closing
  | leaveEarly : Leads .connecting .closing
  | close {phase : Phase} : Leads phase .closed

section Leads

variable {phase phase' : Phase} (h : phase.Leads phase')

include h

/-- Who drains does so until the end. -/
lemma Leads.of_draining (hphase : phase = .draining ∨ phase = .closed) :
    phase' = .draining ∨ phase' = .closed := by
  cases h <;> simp_all

/-- So does who closes. -/
lemma Leads.of_closing (hphase : phase = .closing ∨ phase = .closed) :
    phase' = .closing ∨ phase' = .closed := by
  cases h <;> simp_all

/-- No connection goes back to the beginning. -/
lemma Leads.of_connecting (hphase : phase' = .connecting) : phase = .connecting := by
  cases h <;> simp_all

/-- Who has begun to end does not open again. -/
lemma Leads.of_not_isOpen (hphase : phase.isOpen = false) : phase'.isOpen = false := by
  cases h <;> simp_all [isOpen]

/-- Only a registered connection begins to drain. -/
lemma Leads.of_draining_after (hphase : phase' = .draining) :
    phase = .draining ∨ phase = .registered := by
  cases h <;> simp_all

/-- **No move goes back.** -/
theorem Leads.precedes : phase.Precedes phase' := by
  cases h with
  | stay => exact Or.inl rfl
  | @close phase =>
      cases phase with
      | closed => exact Or.inl rfl
      | _ => exact Or.inr (by decide)
  | _ => exact Or.inr (by decide)

end Leads

end Phase

namespace Connection

/-- An exchange moves a connection on if it exchanges a phase for one it leads to. -/
lemma leads_exchange {c : Connection} {source target : Phase} (h : source.Leads target) :
    c.phase.Leads (c.exchange source target).phase := by
  rw [phase_exchange]
  split
  · exact ‹c.phase = source› ▸ h
  · exact .stay

end Connection

end MarketGate
