import MarketGate.Proofs.Hub.Delivery
import MarketGate.Proofs.Hub.Ledger

/-!
# Who gets an entry

A registration reaches the hub some time after its connection has come into being, and the reader,
an earlier removal or the pump may have ended the connection by then.  The hub does not ask: it
tries to move the connection from connecting to registered, pays no attention to whether that
worked, and enters it.

* **`Hub.Entries.connecting_or_over`**: whoever gets an entry is connecting, or has begun to end.
* **`Hub.entry_of_register`**: only a connection that is connecting is registered by its entry.  The
  entry of one that has begun to end is like any other for all that: it counts as a registration
  and for the gauge, and broadcasts go to its queue.
-/

namespace MarketGate

namespace Hub

section Entry

variable {h : Hub} {r : Registration} {c : Connection}

/-- **Whoever gets an entry is connecting, or has begun to end.** -/
theorem Entries.connecting_or_over {gone : List (Nat × Registration)} (hentries : h.Entries gone)
    (hs : h.Sound) {key : Nat} (hc : h.connections[key]? = some c)
    (hfree : h.isRegistered c.id = false) : c.phase = .connecting ∨ h.Over key := by
  cases hphase : c.phase with
  | connecting => exact Or.inl rfl
  | draining | closing | closed => exact Or.inr ⟨c, hc, by rw [hphase]; rfl⟩
  | registered =>
    -- who is registered has an entry already, and under the same number
    obtain ⟨e, he, rfl⟩ := hentries.seated key c hc hphase
    have hid : e.1 = c.id := by
      have hnamed := hs.named e he
      rw [idAt, hc] at hnamed
      exact (Option.some.inj hnamed).symm
    rw [isRegistered_eq, ← hid, hs.entryAt?_eq_some_iff.2 he] at hfree
    exact Bool.noConfusion hfree

/-- The connection of a new entry is registered if it was connecting, and else left alone. -/
lemma connection_register_of_free (hc : h.connections[r.connection]? = some c)
    (hfree : h.isRegistered c.id = false) :
    (h.register r).connections[r.connection]? =
      some (if c.phase = .connecting then { c with phase := .registered } else c) := by
  rw [connections_register, if_pos ⟨rfl, c, hc, hfree⟩, hc]
  rfl

/-- A broadcast goes to the queue of a new entry. -/
lemma queues_broadcast_of_register (hs : h.Sound) (hc : h.connections[r.connection]? = some c)
    (hfree : h.isRegistered c.id = false) (hunfed : ∀ x, h.feeds x r.queue = false)
    (payload : Bytes) :
    ((h.register r).broadcast payload).queues[r.queue]?
      = (h.queues[r.queue]?).map (Queue.receive payload) := by
  have hfeeds : (h.register r).feeds c.id r.queue = true :=
    feeds_iff.2 ⟨r, by rw [entryAt?_register hc, if_pos ⟨hfree, rfl⟩], rfl⟩
  rw [queues_broadcast payload (hs.register r) (sole_register hc hunfed), if_pos hfeeds,
    (register_of_free hc hfree).2.1]

end Entry

/-- **Whether a registration finds its connection alive or not, it gets an entry if the number is
free.**  The entry counts like any other, and the next broadcast goes to its queue.  But only a
connection that is connecting is registered by it.  All others have begun to end: they stay as they
are, and whatever happens later, they do not open again. -/
theorem entry_of_register (events : List Event)
    (hnew : ∀ c n, .enroll c n ∈ events → c.phase = .connecting) (r : Registration)
    (c : Connection) (hc : (run events {}).connections[r.connection]? = some c) :
    let h := run events {}
    let h' := h.step (.command (.register r))
    (h.isRegistered c.id = true →
        h'.registry = h.registry ∧ h'.connections = h.connections ∧ h'.metrics = h.metrics)
      ∧ (h.isRegistered c.id = false →
        h'.registry = h.registry ++ [(c.id, r)]
          ∧ h'.metrics =
            { h.metrics with
              registrations := h.metrics.registrations + 1
              activeConnections := h.size + 1 }
          ∧ h'.connections[r.connection]? =
            some (if c.phase = .connecting then { c with phase := .registered } else c)
          ∧ (c.phase ≠ .connecting → ∀ later, (h'.run later).Over r.connection)
          ∧ ((∀ x, h.feeds x r.queue = false) → ∀ payload,
            (h'.step (.command (.broadcast payload))).queues[r.queue]? =
              (h.queues[r.queue]?).map (Queue.receive payload))) := by
  intro h h'
  have hledger := ledger_nil.run hnew
  rw [List.nil_append] at hledger
  refine ⟨fun htaken => ?_, fun hfree => ?_⟩
  · have htouch : h' = h.onQueue r.queue Queue.dropSender := register_of_taken hc htaken
    rw [htouch]
    exact ⟨rfl, rfl, rfl⟩
  · refine ⟨(register_of_free hc hfree).1, metrics_register_of_free hc hfree,
      connection_register_of_free hc hfree, ?_, ?_⟩
    · intro hphase later
      have hentries := hledger.toEntries
      have hover := (hentries.connecting_or_over hledger.sound hc hfree).resolve_left hphase
      exact (hover.step _).run later
    · exact queues_broadcast_of_register hledger.sound hc hfree

/-- A connection whose reader closes it before the hub looks at its registration. -/
def deserted : List Event := [.enroll { id := 1 } 4, .beginClosing 0]

theorem entry_of_register_of_deserted :
    let h' := (run deserted {}).step (.command (.register ⟨0, 0⟩))
    h'.registry = [(1, ⟨0, 0⟩)]
      ∧ h'.connections[0]? = some { id := 1, phase := .closing, closingPermit := true }
      ∧ (∀ later, (h'.run later).Over 0)
      ∧ (h'.step (.command (.broadcast [120]))).queues[0]? =
        some (Queue.receive [120] { capacity := 4 }) := by
  intro h'
  obtain ⟨-, hentry⟩ := entry_of_register deserted (by simp [deserted]) ⟨0, 0⟩
    { id := 1, phase := .closing, closingPermit := true } rfl
  obtain ⟨hregistry, -, hconnection, hover, hqueue⟩ := hentry rfl
  exact ⟨hregistry, hconnection, hover (by decide), hqueue (fun x => rfl) [120]⟩

/-- A connection that closes gets an entry all the same: it counts in both metrics, and the next
broadcast goes to its queue. -/
theorem closing_with_entry :
    let h := run deserted {}
    let h' := h.step (.command (.register ⟨0, 0⟩))
    h.connections.map (·.phase) = [.closing] ∧ h.registry = []
      ∧ h'.connections.map (·.phase) = [.closing] ∧ h'.registry = [(1, ⟨0, 0⟩)]
      ∧ h'.metrics.registrations = 1 ∧ h'.metrics.activeConnections = 1
      ∧ (h'.step (.command (.broadcast [120]))).queues.map (·.pending) = [[[120]]] := by
  decide

end Hub

end MarketGate
