import Mathlib.Data.Finset.Image
import MarketGate.Proofs.Hub.FanOut

/-!
# One client of a hub

Clients share a hub, but not their numbers, their connections or their queues.  For a client that
has all of this to itself (`Client.Apart`) the commands of the hub can be read off its own part:
whether it is registered, what its connection is and what its queues hold.

* `Hub.Client` names a client: its number, its connection, the queues that it registers with.
* **`Client.Apart.register`**, **`Client.Apart.unregister`**, **`Client.Apart.broadcast`** and
  **`Client.Apart.stop`**: what becomes of the part of a client.
* `Client.Apart.register_of_ne` and `Client.Apart.unregister_of_ne`: what is done about others
  leaves it alone.
-/

namespace MarketGate

namespace Hub

/-- A client of a hub. -/
structure Client where
  /-- The number of its connection. -/
  id : Nat
  /-- The position of its connection. -/
  connection : Nat
  /-- The positions of the queues that it registers with. -/
  queues : Finset Nat

namespace Client

variable {client : Client} {h : Hub}

/-- A client has its number and its queues to itself. -/
structure Apart (client : Client) (h : Hub) : Prop where
  sound : h.Sound
  idAt : h.idAt client.connection = some client.id
  eq_of_idAt : ∀ key, h.idAt key = some client.id → key = client.connection
  queue_mem_iff : ∀ x r, h.entryAt? x = some r → (r.queue ∈ client.queues ↔ x = client.id)
  queue_lt : ∀ key ∈ client.queues, key < h.queues.length

namespace Apart

variable (ha : client.Apart h)

include ha

/-! ## What a client has to itself -/

/-- Only the entry of the client feeds a queue of the client. -/
lemma sole {key : Nat} (hkey : key ∈ client.queues) : h.Sole client.id key := by
  intro x hx
  obtain ⟨r, he, rfl⟩ := feeds_iff.1 hx
  exact (ha.queue_mem_iff x r he).1 hkey

lemma queue_mem {r : Registration} (he : h.entryAt? client.id = some r) :
    r.queue ∈ client.queues := (ha.queue_mem_iff _ r he).2 rfl

/-- The client is seated at its own connection. -/
lemma connection_eq {r : Registration} (he : h.entryAt? client.id = some r) :
    r.connection = client.connection :=
  ha.eq_of_idAt _ (ha.sound.named _ (mem_of_entryAt? he))

lemma eq_id_of_seats {x : Nat} (hx : h.seats x client.connection = true) : x = client.id := by
  have hid := ha.sound.idAt_of_seats hx
  rw [ha.idAt] at hid
  exact (Option.some.inj hid).symm

lemma seats_eq : h.seats client.id client.connection = (h.entryAt? client.id).isSome := by
  cases he : h.entryAt? client.id with
  | none => simp [Hub.seats, he]
  | some r => simp [Hub.seats, he, ha.connection_eq he]

/-- The connection of the client, with its number. -/
lemma exists_connection :
    ∃ c, h.connections[client.connection]? = some c ∧ c.id = client.id := by
  simpa [Hub.idAt] using ha.idAt

/-- A queue of the client is in the registry exactly when it is fed by the client. -/
lemma exists_queue_iff {key : Nat} (hkey : key ∈ client.queues) :
    (∃ e ∈ h.registry, e.2.queue = key) ↔ h.feeds client.id key = true := by
  constructor
  · rintro ⟨e, he, heq⟩
    have hfeeds : h.feeds e.1 key = true :=
      feeds_iff.2 ⟨e.2, ha.sound.entryAt?_eq_some_iff.2 he, heq⟩
    rwa [ha.sole hkey e.1 hfeeds] at hfeeds
  · intro hfeeds
    obtain ⟨r, he, heq⟩ := feeds_iff.1 hfeeds
    exact ⟨_, mem_of_entryAt? he, heq⟩

lemma exists_connection_iff :
    (∃ e ∈ h.registry, e.2.connection = client.connection)
      ↔ (h.entryAt? client.id).isSome = true := by
  rw [← ha.seats_eq]
  constructor
  · rintro ⟨e, he, heq⟩
    have hseats : h.seats e.1 client.connection = true :=
      seats_iff.2 ⟨e.2, ha.sound.entryAt?_eq_some_iff.2 he, heq⟩
    rwa [ha.eq_id_of_seats hseats] at hseats
  · intro hseats
    obtain ⟨r, he, heq⟩ := seats_iff.1 hseats
    exact ⟨_, mem_of_entryAt? he, heq⟩

/-! ## Commands and the end of the hub -/

/-- The registration of the client, part by part. -/
theorem register {r : Registration} (hr : r.connection = client.connection) :
    (h.register r).entryAt? client.id
        = (if h.isRegistered client.id = false then some r else h.entryAt? client.id)
      ∧ (h.register r).connections[client.connection]?
        = (if h.isRegistered client.id = false
          then (h.connections[client.connection]?).map Connection.markRegistered
          else h.connections[client.connection]?)
      ∧ ∀ key, (h.register r).queues[key]?
        = if r.queue = key ∧ h.isRegistered client.id = true
          then (h.queues[key]?).map Queue.dropSender else h.queues[key]? := by
  obtain ⟨c, hc, hcid⟩ := ha.exists_connection
  refine ⟨?_, ?_, ?_⟩
  · rw [entryAt?_register (hr ▸ hc), hcid]
    simp
  · rw [connections_register]
    simp [hr, hc, hcid]
  · intro key
    rw [queues_register]
    simp [hr, hc, hcid]

/-- The registration of someone else, who does not bring a queue of the client. -/
theorem register_of_ne {r : Registration} (hne : r.connection ≠ client.connection)
    (hqueue : r.queue ∉ client.queues) :
    (h.register r).entryAt? client.id = h.entryAt? client.id
      ∧ (h.register r).connections[client.connection]? = h.connections[client.connection]?
      ∧ ∀ key ∈ client.queues, (h.register r).queues[key]? = h.queues[key]? := by
  refine ⟨?_, ?_, ?_⟩
  · cases hr : h.connections[r.connection]? with
    | none => rw [register_of_none hr]
    | some c' =>
        rw [entryAt?_register hr, if_neg]
        rintro ⟨-, heq⟩
        exact hne (ha.eq_of_idAt _ (by simp [Hub.idAt, hr, heq]))
  · rw [connections_register, if_neg fun hand => hne hand.1]
  · intro key hkey
    rw [queues_register, if_neg]
    rintro ⟨rfl, -⟩
    exact hqueue hkey

/-- The removal of the client, part by part. -/
theorem unregister :
    (h.unregister client.id).entryAt? client.id = none
      ∧ (h.unregister client.id).connections[client.connection]?
        = (if (h.entryAt? client.id).isSome
          then (h.connections[client.connection]?).map Connection.beginDraining
          else h.connections[client.connection]?)
      ∧ ∀ key, (h.unregister client.id).queues[key]?
        = if h.feeds client.id key then (h.queues[key]?).map Queue.dropSender
          else h.queues[key]? := by
  refine ⟨?_, ?_, fun key => queues_unregister h _ key⟩
  · rw [entryAt?_unregister, if_pos rfl]
  · rw [← ha.seats_eq]
    exact connections_unregister h _ _

/-- The removal of someone else. -/
theorem unregister_of_ne {x : Nat} (hne : x ≠ client.id) :
    (h.unregister x).entryAt? client.id = h.entryAt? client.id
      ∧ (h.unregister x).connections[client.connection]? = h.connections[client.connection]?
      ∧ ∀ key ∈ client.queues, (h.unregister x).queues[key]? = h.queues[key]? := by
  refine ⟨?_, ?_, ?_⟩
  · rw [entryAt?_unregister, if_neg hne.symm]
  · rw [connections_unregister, if_neg fun hseats => hne (ha.eq_id_of_seats hseats)]
  · intro key hkey
    rw [queues_unregister, if_neg fun hfeeds => hne (ha.sole hkey x hfeeds)]

/-- A broadcast at the client, part by part. -/
theorem broadcast (payload : Bytes) :
    (h.broadcast payload).entryAt? client.id
        = (if (h.entryAt? client.id).any (fun r => h.refusesAt r.queue) then none
          else h.entryAt? client.id)
      ∧ (h.broadcast payload).connections[client.connection]?
        = (if (h.entryAt? client.id).any (fun r => h.refusesAt r.queue)
          then (h.connections[client.connection]?).map Connection.beginDraining
          else h.connections[client.connection]?)
      ∧ ∀ key ∈ client.queues, (h.broadcast payload).queues[key]?
        = if h.feeds client.id key then (h.queues[key]?).map (Queue.receive payload)
          else h.queues[key]? := by
  obtain ⟨c, hc, hcid⟩ := ha.exists_connection
  have hsole (r : Registration) (he : h.entryAt? client.id = some r) : h.Sole client.id r.queue :=
    ha.sole (ha.queue_mem he)
  refine ⟨?_, ?_, fun key hkey => queues_broadcast payload ha.sound (ha.sole hkey)⟩
  · cases he : h.entryAt? client.id with
    | none => simp [entryAt?_broadcast, he]
    | some r =>
        rw [entryAt?_broadcast_of_sole payload ha.sound he (hsole r he)]
        simp
  · rw [connections_broadcast payload ha.sound hc (hcid ▸ hsole), hcid, hc]
    cases he : h.entryAt? client.id with
    | none => simp
    | some r =>
        have hseat : r.connection = client.connection := ha.connection_eq he
        cases href : h.refusesAt r.queue <;> simp [href, hseat]

/-- The end of the hub at the client, part by part. -/
theorem stop :
    h.stop.connections[client.connection]?
        = (if (h.entryAt? client.id).isSome = true
          then (h.connections[client.connection]?).map Connection.beginDraining
          else h.connections[client.connection]?)
      ∧ ∀ key ∈ client.queues, h.stop.queues[key]?
        = if h.feeds client.id key = true then (h.queues[key]?).map Queue.dropSender
          else h.queues[key]? := by
  refine ⟨?_, ?_⟩
  · rw [connections_stop]
    simp only [ha.exists_connection_iff]
  · intro key hkey
    rw [queues_stop]
    simp only [ha.exists_queue_iff hkey]

end Apart

end Client

end Hub

end MarketGate
