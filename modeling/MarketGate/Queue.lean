import MarketGate.Bytes

/-!
# Outbound queues

The queue of messages that wait for one client: first in, first out, and bounded.  It is kept as the
log of everything it ever accepted together with the number of messages already taken out, so what
is pending is the rest of the log (`Queue.pending`).

Each queue has one sender and one receiver, and either may be dropped.  A queue whose receiver is
gone accepts nothing; a queue whose sender is gone is finished once it is empty.

* **`Queue.taken_append_pending`**: what was taken followed by what is pending is the log.
* **`Queue.offer_eq_ok_iff`**: a message is accepted exactly when there is a receiver and room.
-/

namespace MarketGate

/-- A bounded queue of messages. -/
structure Queue where
  capacity : Nat
  /-- All messages ever accepted, in order. -/
  log : List Bytes := []
  /-- How many of them were taken out. -/
  taken : Nat := 0
  /-- Whether the sender is still there. -/
  hasSender : Bool := true
  /-- Whether the receiver is still there. -/
  hasReceiver : Bool := true
  deriving DecidableEq, Repr

namespace Queue

/-- The messages that wait. -/
def pending (q : Queue) : List Bytes := q.log.drop q.taken

/-- The messages that were taken out. -/
def received (q : Queue) : List Bytes := q.log.take q.taken

/-- What was taken followed by what is pending is the log. -/
@[simp] theorem received_append_pending (q : Queue) : q.received ++ q.pending = q.log :=
  List.take_append_drop q.taken q.log

/-- How many messages wait. -/
def size (q : Queue) : Nat := q.log.length - q.taken

@[simp] theorem length_pending (q : Queue) : q.pending.length = q.size := by
  simp [pending, size]

/-- Why a queue refuses a message. -/
inductive Refusal where
  | full
  /-- The receiver is gone. -/
  | closed
  deriving DecidableEq, Repr

/-- Offers a message without waiting. -/
def offer (q : Queue) (message : Bytes) : Except Refusal Queue :=
  if !q.hasReceiver then .error .closed
  else if q.capacity ≤ q.size then .error .full
  else .ok { q with log := q.log ++ [message] }

/-- A message is accepted exactly when there is a receiver and room, and then it goes to the end. -/
theorem offer_eq_ok_iff {q q' : Queue} {message : Bytes} :
    q.offer message = .ok q' ↔
      q.hasReceiver = true ∧ q.size < q.capacity ∧ q' = { q with log := q.log ++ [message] } := by
  unfold offer
  by_cases hr : q.hasReceiver = true
  · by_cases hc : q.capacity ≤ q.size
    · simp [hr, hc, Nat.not_lt.2 hc]
    · simp [hr, hc, Nat.lt_of_not_le hc, eq_comm]
  · simp [hr]

/-- Takes the first waiting message. -/
def take? (q : Queue) : Option (Bytes × Queue) :=
  (q.log[q.taken]?).map fun message => (message, { q with taken := q.taken + 1 })

/-- What is taken is the first of what was pending, and the rest stays pending. -/
theorem pending_of_take? {q q' : Queue} {message : Bytes} (h : q.take? = some (message, q')) :
    q.pending = message :: q'.pending := by
  simp only [take?, Option.map_eq_some_iff] at h
  obtain ⟨m, hm, heq⟩ := h
  cases heq
  obtain ⟨hlt, rfl⟩ := List.getElem?_eq_some_iff.1 hm
  exact List.drop_eq_getElem_cons hlt

/-- Nothing can be taken exactly when nothing is pending. -/
theorem take?_eq_none_iff {q : Queue} : q.take? = none ↔ q.pending = [] := by
  simp [take?, pending, List.drop_eq_nil_iff]

/-- Whether the queue is empty and will stay so. -/
def isFinished (q : Queue) : Bool := !q.hasSender && q.size == 0

/-- The sender goes away; what is pending can still be taken. -/
def dropSender (q : Queue) : Queue := { q with hasSender := false }

/-- The receiver goes away, and takes what is pending with it. -/
def dropReceiver (q : Queue) : Queue := { q with hasReceiver := false }

end Queue

end MarketGate
