import MarketGate.Proofs.Hub.FanOut

/-!
# Histories of a hub

A hub shares its connections and queues with the tasks of its clients, so between two commands
anything may have happened to them: a receiver took a message or went away, a reader closed its
connection, a pump was done with it.  `Hub.Event` lists what can happen, `Hub.step` says what it
does and `Hub.run` follows a list of events in their order.  No order of events is left out, so what
holds after every list of events holds however the tasks are scheduled.

* **`Sound.run`**: the registry stays a map that agrees with the numbers of the connections.
* **`entryAt?_of_entryAt?_step`**: an entry only comes from a registration.
* `polled` records what the receiver of a queue took in the course of a history.
-/

namespace MarketGate

namespace Command

/-- The message that a command sends to everyone. -/
def payload? : Command → Option Bytes
  | .broadcast payload => some payload
  | _ => none

/-- Whether a command brings the hub the sender of a queue. -/
def brings (key : Nat) : Command → Bool
  | .register r => r.queue == key
  | _ => false

end Command

namespace Queue

/-- The receiver looks for a message: the first that is pending, as long as there is a receiver. -/
def poll (q : Queue) : Option Bytes × Queue :=
  match q.hasReceiver, q.take? with
  | true, some (message, rest) => (some message, rest)
  | _, _ => (none, q)

/-- Nothing is lost or reordered when the receiver looks for a message. -/
lemma pending_poll (q : Queue) : q.pending = q.poll.1.toList ++ q.poll.2.pending := by
  unfold poll
  split
  · next message rest _ htake => simpa using pending_of_take? htake
  · rfl

/-- Looking for a message moves the mark behind what was taken, and nothing else. -/
lemma exists_taken_poll (q : Queue) : ∃ taken, q.poll.2 = { q with taken } := by
  unfold poll
  split
  · next message rest _ htake =>
      obtain ⟨m, -, heq⟩ := Option.map_eq_some_iff.1 htake
      cases heq
      exact ⟨_, rfl⟩
  · exact ⟨_, rfl⟩

end Queue

namespace Hub

/-- What can happen to a hub and to what it shares with the tasks of its clients. -/
inductive Event where
  /-- A connection and its queue come into being. -/
  | enroll (connection : Connection) (capacity : Nat)
  /-- The hub carries out a command. -/
  | command (command : Command)
  /-- The receiver of a queue looks for a message. -/
  | poll (queue : Nat)
  /-- The receiver of a queue goes away. -/
  | dropReceiver (queue : Nat)
  /-- A reader closes its connection. -/
  | beginClosing (connection : Nat)
  /-- The first attempt of a reader to close its connection, when someone may come in between. -/
  | claim (connection : Nat)
  /-- Its second attempt. -/
  | claimEarly (connection : Nat)
  /-- A pump is done with its connection. -/
  | markClosed (connection : Nat)
  /-- The hub ends. -/
  | stop
  deriving DecidableEq, Repr

/-- What an event does. -/
def step (event : Event) (h : Hub) : Hub :=
  match event with
  | .enroll connection capacity =>
    { h with
      connections := h.connections ++ [connection]
      queues := h.queues ++ [{ capacity }] }
  | .command command => h.apply command
  | .poll key => h.onQueue key fun q => q.poll.2
  | .dropReceiver key => h.onQueue key Queue.dropReceiver
  | .beginClosing key => h.onConnection key Connection.beginClosing
  | .claim key => h.onConnection key fun c => c.exchange .registered .closing
  | .claimEarly key => h.onConnection key fun c => c.exchange .connecting .closing
  | .markClosed key => h.onConnection key Connection.markClosed
  | .stop => h.stop

/-- The state after a list of events. -/
def run (events : List Event) (h : Hub) : Hub := events.foldl (fun h event => h.step event) h

@[simp] lemma run_nil (h : Hub) : h.run [] = h := rfl

@[simp] lemma run_cons (event : Event) (events : List Event) (h : Hub) :
    h.run (event :: events) = (h.step event).run events := rfl

lemma run_append (first second : List Event) (h : Hub) :
    h.run (first ++ second) = (h.run first).run second := List.foldl_append

/-- The message that an event sends to everyone. -/
def Event.payload? : Event → Option Bytes
  | .command c => c.payload?
  | _ => none

/-- The messages that were sent to everyone in the course of a history, in their order. -/
def broadcasts (events : List Event) : List Bytes := events.filterMap Event.payload?

lemma broadcasts_cons (event : Event) (events : List Event) :
    broadcasts (event :: events) = event.payload?.toList ++ broadcasts events := by
  unfold broadcasts
  cases hp : event.payload? <;> simp [hp]

lemma broadcasts_append (first second : List Event) :
    broadcasts (first ++ second) = broadcasts first ++ broadcasts second := List.filterMap_append

/-- The message that the receiver of a queue takes at an event. -/
def polledAt (key : Nat) (event : Event) (h : Hub) : Option Bytes :=
  match event with
  | .poll queue => if queue = key then (h.queues[key]?).bind fun q => q.poll.1 else none
  | _ => none

/-- The messages that the receiver of a queue takes in the course of a history, in their order. -/
def polled (key : Nat) : List Event → Hub → List Bytes
  | [], _ => []
  | event :: events, h => (h.polledAt key event).toList ++ polled key events (h.step event)

/-- Whether an event brings the hub the sender of a queue. -/
def Event.brings (key : Nat) : Event → Bool
  | .command c => c.brings key
  | _ => false

/-! ## The registry -/

section Registry

variable {h : Hub}

/-- No event but the arrival of a connection changes a number. -/
lemma idAt_step_of_ne_enroll {event : Event} (hne : ∀ c n, event ≠ .enroll c n) (key : Nat) :
    (h.step event).idAt key = h.idAt key := by
  have hone : ∀ (k : Nat) (f : Connection → Connection), (∀ c, (f c).id = c.id) →
      (h.onConnection k f).idAt key = h.idAt key := by
    intro k f hf
    refine idAt_of_map (f := f) (p := k = key) hf ?_
    by_cases hk : k = key <;> simp [onConnection, hk]
  cases event with
  | enroll connection capacity => exact absurd rfl (hne connection capacity)
  | command command =>
      cases command with
      | register r => exact idAt_register h r key
      | unregister x => exact idAt_unregister h x key
      | broadcast payload => exact idAt_broadcast payload key
      | count ticket => rfl
  | poll queue => rfl
  | dropReceiver queue => rfl
  | beginClosing k =>
      refine hone k _ ?_
      intro c
      unfold Connection.beginClosing
      split_ifs <;> simp [Connection.wakeWriter]
  | claim k => exact hone k _ fun c => Connection.id_exchange c _ _
  | claimEarly k => exact hone k _ fun c => Connection.id_exchange c _ _
  | markClosed k => exact hone k _ fun c => rfl
  | stop => exact idAt_stop h key

/-- Numbers of connections stay what they are. -/
lemma idAt_step (event : Event) {key id : Nat} (hid : h.idAt key = some id) :
    (h.step event).idAt key = some id := by
  by_cases henroll : ∃ c n, event = .enroll c n
  · obtain ⟨connection, capacity, rfl⟩ := henroll
    obtain ⟨c, hc, rfl⟩ := Option.map_eq_some_iff.1 hid
    obtain ⟨hlt, -⟩ := List.getElem?_eq_some_iff.1 hc
    simp [step, idAt, List.getElem?_append_left hlt, hc]
  · rwa [idAt_step_of_ne_enroll fun c n heq => henroll ⟨c, n, heq⟩]

/-- A number that stands somewhere stood there before, or has just arrived. -/
lemma idAt_of_idAt_step {event : Event} {key id : Nat} (hid : (h.step event).idAt key = some id) :
    h.idAt key = some id ∨ ∃ c n, event = .enroll c n ∧ c.id = id := by
  by_cases henroll : ∃ c n, event = .enroll c n
  · obtain ⟨connection, capacity, rfl⟩ := henroll
    obtain ⟨c, hc, hcid⟩ := Option.map_eq_some_iff.1 hid
    by_cases hlt : key < h.connections.length
    · rw [step, List.getElem?_append_left hlt] at hc
      exact Or.inl (by simp [idAt, hc, hcid])
    · rw [step, List.getElem?_append_right (by omega)] at hc
      obtain rfl : c = connection := by simpa using List.mem_of_getElem? hc
      exact Or.inr ⟨c, capacity, rfl, hcid⟩
  · rw [idAt_step_of_ne_enroll fun c n heq => henroll ⟨c, n, heq⟩] at hid
    exact Or.inl hid

/-- Queues do not go away. -/
lemma length_queues_step (h : Hub) (event : Event) :
    h.queues.length ≤ (h.step event).queues.length := by
  cases event with
  | enroll connection capacity => simp [step]
  | command command =>
      cases command with
      | register r => exact Nat.le_of_eq (length_queues_register h r).symm
      | unregister id => exact Nat.le_of_eq (length_queues_unregister h id).symm
      | broadcast payload => exact Nat.le_of_eq (length_queues_broadcast payload).symm
      | count ticket => exact Nat.le_refl _
  | poll queue => simp [step, onQueue]
  | dropReceiver queue => simp [step, onQueue]
  | stop => exact Nat.le_of_eq (length_queues_stop h).symm
  | _ => exact Nat.le_refl _

lemma Sound.step (hs : h.Sound) (event : Event) : (h.step event).Sound := by
  -- all but the commands and the end of the hub leave the registry as it is
  have hkeep : (h.step event).registry = h.registry → (h.step event).Sound := fun heq =>
    hs.of_sublist (heq ▸ List.Sublist.refl _) fun _ _ hid => idAt_step event hid
  cases event with
  | command command =>
      cases command with
      | register r => exact hs.register r
      | unregister id => exact hs.unregister id
      | broadcast payload => exact hs.broadcast payload
      | count ticket => exact hs
  | stop => exact Sound.stop h
  | _ => exact hkeep rfl

/-- **The registry stays a map**, whatever happens. -/
theorem Sound.run (hs : h.Sound) (events : List Event) : (h.run events).Sound := by
  induction events generalizing h with
  | nil => exact hs
  | cons event events ih => exact ih (hs.step event)

/-- A hub without entries is sound. -/
lemma sound_of_registry_eq_nil (hnil : h.registry = []) : h.Sound where
  keys := by simp [hnil]
  named := by simp [hnil]

/-- **Where entries come from**: an entry was there before, or has just been registered under the
number of its connection. -/
theorem entryAt?_of_entryAt?_step {event : Event} {x : Nat} {r : Registration}
    (he : (h.step event).entryAt? x = some r) :
    h.entryAt? x = some r ∨ event = .command (.register r) ∧ h.idAt r.connection = some x := by
  cases event with
  | command command =>
      cases command with
      | register r' =>
          cases hc : h.connections[r'.connection]? with
          | none =>
              rw [Hub.step, apply, register_of_none hc] at he
              exact Or.inl he
          | some c =>
              rw [Hub.step, apply, entryAt?_register hc] at he
              split_ifs at he with hnew
              · cases he
                exact Or.inr ⟨rfl, by simp [idAt, hc, hnew.2]⟩
              · exact Or.inl he
      | unregister id =>
          rw [Hub.step, apply, entryAt?_unregister] at he
          split_ifs at he
          exact Or.inl he
      | broadcast payload =>
          rw [Hub.step, apply, entryAt?_broadcast] at he
          split_ifs at he
          exact Or.inl he
      | count ticket => exact Or.inl he
  | stop =>
      rw [Hub.step, entryAt?_stop] at he
      cases he
  | _ => exact Or.inl he

/-- So an entry for a queue was there before, or comes from a registration with that queue. -/
theorem feeds_of_feeds_step {event : Event} {x key : Nat}
    (hfeeds : (h.step event).feeds x key = true) :
    h.feeds x key = true ∨ event.brings key = true := by
  obtain ⟨r, he, hkey⟩ := feeds_iff.1 hfeeds
  rcases entryAt?_of_entryAt?_step he with hold | ⟨rfl, -⟩
  · exact Or.inl (feeds_iff.2 ⟨r, hold, hkey⟩)
  · exact Or.inr (beq_iff_eq.2 hkey)

/-- A queue that no entry feeds gets none as long as its sender is not brought. -/
lemma not_feeds_run {key : Nat} {events : List Event}
    (hnone : ∀ x, h.feeds x key = false) (hbrings : ∀ event ∈ events, ¬ event.brings key)
    (x : Nat) :
    (h.run events).feeds x key = false := by
  induction events generalizing h with
  | nil => exact hnone x
  | cons event events ih =>
      refine ih ?_ fun e he => hbrings e (List.mem_cons_of_mem _ he)
      intro y
      by_contra hy
      rcases feeds_of_feeds_step (by simpa using hy) with hold | hnew
      · rw [hnone] at hold
        exact Bool.noConfusion hold
      · exact hbrings event List.mem_cons_self hnew

end Registry

end Hub

end MarketGate
