import MarketGate.Proofs.Hub.Client
import MarketGate.Proofs.Hub.Event

/-!
# Clients do not disturb each other

What happens to one client of a hub is decided by the broadcasts and by what concerns that client.
Other clients may come and go, fall behind, be evicted or vanish without a trace in it.  The proof
compares two runs: events that do not concern the client leave its view of the hub alone
(`Client.Same.of_not_concerns`), and events that do concern it act alike on two hubs that look alike
to it (`Client.Alike.step`).

* `Event.concerns` picks the events of a history that matter to a client.
* `Client.Alike` says that two hubs look alike to a client, which may stand at different positions
  in them: whether it is in the registry, the phase of its connection and the content of its queues.
* **`alike_of_concerns_eq`**: histories that have the same events in them for a client, in the same
  order, end in hubs that look alike to it.
-/

namespace MarketGate

namespace Hub

/-- Whether an event matters to a client: a broadcast, the end of the hub, or something about the
client itself. -/
def Event.concerns (client : Client) : Event → Bool
  | .enroll _ _ => false
  | .command (.register r) => r.connection == client.connection
  | .command (.unregister id) => id == client.id
  | .command (.broadcast _) => true
  | .command (.count _) => false
  | .poll queue => decide (queue ∈ client.queues)
  | .dropReceiver queue => decide (queue ∈ client.queues)
  | .beginClosing connection => connection == client.connection
  | .claim connection => connection == client.connection
  | .claimEarly connection => connection == client.connection
  | .markClosed connection => connection == client.connection
  | .stop => true

/-- Whether an event leaves a client what is its own: its number is not given away again, and it
registers with its own queues, which nobody else registers with. -/
def Event.respects (client : Client) : Event → Bool
  | .enroll connection _ => connection.id != client.id
  | .command (.register r) =>
    (r.connection == client.connection) == decide (r.queue ∈ client.queues)
  | _ => true

/-- An event that concerns a client, moved to a hub where the client has another number and stands
at other positions. -/
def Event.relocate (client : Client) (place : Nat → Nat) : Event → Event
  | .command (.register r) => .command (.register ⟨client.connection, place r.queue⟩)
  | .command (.unregister _) => .command (.unregister client.id)
  | .poll queue => .poll (place queue)
  | .dropReceiver queue => .dropReceiver (place queue)
  | .beginClosing _ => .beginClosing client.connection
  | .claim _ => .claim client.connection
  | .claimEarly _ => .claimEarly client.connection
  | .markClosed _ => .markClosed client.connection
  | event => event

/-- The phase of the connection at a position. -/
def phaseAt (h : Hub) (key : Nat) : Option Phase := (h.connections[key]?).map fun c => c.phase

namespace Client

variable {client : Client}

/-- A hub looks to a client as another one did. -/
structure Same (client : Client) (h h' : Hub) : Prop where
  entry : h.entryAt? client.id = h'.entryAt? client.id
  phase : h.phaseAt client.connection = h'.phaseAt client.connection
  queue : ∀ key ∈ client.queues, h.queues[key]? = h'.queues[key]?

lemma Same.refl (client : Client) (h : Hub) : client.Same h h := ⟨rfl, rfl, fun _ _ => rfl⟩

/-- A queue of the first client has a place of its own among those of the second. -/
structure Placed (client client' : Client) (place : Nat → Nat) : Prop where
  mem : ∀ key ∈ client.queues, place key ∈ client'.queues
  inj : ∀ key ∈ client.queues, ∀ key' ∈ client.queues, place key = place key' → key = key'

lemma Placed.refl (client : Client) : client.Placed client fun key => key :=
  ⟨fun _ hkey => hkey, fun _ _ _ _ heq => heq⟩

/-- Two hubs look alike to a client that is the one in the first and the other in the second. -/
structure Alike (client client' : Client) (place : Nat → Nat) (h h' : Hub) : Prop where
  entry : (h.entryAt? client.id).map (fun r => place r.queue)
    = (h'.entryAt? client'.id).map fun r => r.queue
  phase : h.phaseAt client.connection = h'.phaseAt client'.connection
  queue : ∀ key ∈ client.queues, h.queues[key]? = h'.queues[place key]?

lemma Alike.refl (client : Client) (h : Hub) : client.Alike client (fun key => key) h h :=
  ⟨rfl, rfl, fun _ _ => rfl⟩

section Apart

variable {h : Hub} (ha : client.Apart h)

include ha

/-- What a client has to itself it keeps, as long as events respect it. -/
lemma Apart.step {event : Event} (hrespects : event.respects client = true) :
    client.Apart (h.step event) where
  sound := ha.sound.step event
  idAt := idAt_step event ha.idAt
  eq_of_idAt key hkey := by
    rcases idAt_of_idAt_step hkey with hold | ⟨c, n, rfl, hid⟩
    · exact ha.eq_of_idAt key hold
    · simp [Event.respects, hid] at hrespects
  queue_mem_iff x r he := by
    rcases entryAt?_of_entryAt?_step he with hold | ⟨rfl, hid⟩
    · exact ha.queue_mem_iff x r hold
    · have howns : r.connection = client.connection ↔ r.queue ∈ client.queues := by
        have hbeq := beq_iff_eq.1 hrespects
        rwa [Bool.eq_iff_iff, beq_iff_eq, decide_eq_true_iff] at hbeq
      rw [← howns]
      constructor
      · intro heq
        rw [heq, ha.idAt] at hid
        exact (Option.some.inj hid).symm
      · rintro rfl
        exact ha.eq_of_idAt _ hid
  queue_lt key hkey := (ha.queue_lt key hkey).trans_le (length_queues_step h event)

end Apart

/-! ## One event -/

section Step

variable {h h' : Hub}

/-- What becomes of a phase when connections are changed one by one. -/
lemma phaseAt_of_map {f : Connection → Connection} {g : Phase → Phase}
    (hf : ∀ c, (f c).phase = g c.phase) {key : Nat} {p : Prop} [Decidable p]
    (hconn : h'.connections[key]? = if p then (h.connections[key]?).map f
      else h.connections[key]?) :
    h'.phaseAt key = if p then (h.phaseAt key).map g else h.phaseAt key := by
  unfold phaseAt
  rw [hconn]
  split_ifs
  · simp [Option.map_map, Function.comp_def, hf]
  · rfl

/-- The phase that an exchange leads to. -/
def exchangePhase (source target phase : Phase) : Phase :=
  if phase = source then target else phase

lemma phase_exchange_eq (source target : Phase) (c : Connection) :
    (c.exchange source target).phase = exchangePhase source target c.phase :=
  Connection.phase_exchange c source target

/-- Closing with nobody in between is trying twice. -/
lemma phase_beginClosing (c : Connection) :
    c.beginClosing.phase
      = exchangePhase .connecting .closing (exchangePhase .registered .closing c.phase) := by
  unfold Connection.beginClosing Connection.stands
  cases hp : c.phase <;> simp [Connection.wakeWriter, Connection.exchange, hp, exchangePhase]

/-- **An event that does not concern a client leaves its view alone.** -/
lemma Same.of_not_concerns (ha : client.Apart h) {event : Event}
    (hrespects : event.respects client = true) (hnot : event.concerns client = false) :
    client.Same (h.step event) h := by
  obtain ⟨c, hc, hcid⟩ := ha.exists_connection
  -- a change at another connection, or at another queue
  have hconnection {k : Nat} (hk : (k == client.connection) = false) (f : Connection → Connection) :
      client.Same (h.onConnection k f) h := by
    have hne : k ≠ client.connection := by simpa using hk
    exact ⟨rfl, by simp [phaseAt, onConnection, hne], fun _ _ => rfl⟩
  have hqueue {k : Nat} (hk : decide (k ∈ client.queues) = false) (f : Queue → Queue) :
      client.Same (h.onQueue k f) h := by
    refine ⟨rfl, rfl, ?_⟩
    intro key hkey
    have hne : k ≠ key := fun heq => (of_decide_eq_false hk) (heq ▸ hkey)
    simp [onQueue, hne]
  cases event with
  | enroll connection capacity =>
      obtain ⟨hlt, -⟩ := List.getElem?_eq_some_iff.1 hc
      refine ⟨rfl, ?_, ?_⟩
      · simp [phaseAt, Hub.step, List.getElem?_append_left hlt]
      · intro key hkey
        simp [Hub.step, List.getElem?_append_left (ha.queue_lt key hkey)]
  | command command =>
      cases command with
      | register r =>
          have hne : r.connection ≠ client.connection := by simpa [Event.concerns] using hnot
          have hqueues : r.queue ∉ client.queues := fun hmem => by
            simp [Event.respects, hne, hmem] at hrespects
          obtain ⟨hentry, hconn, hqueue⟩ := ha.register_of_ne hne hqueues
          exact ⟨hentry, congrArg (Option.map Connection.phase) hconn, hqueue⟩
      | unregister x =>
          have hne : x ≠ client.id := by simpa [Event.concerns] using hnot
          obtain ⟨hentry, hconn, hqueue⟩ := ha.unregister_of_ne hne
          exact ⟨hentry, congrArg (Option.map Connection.phase) hconn, hqueue⟩
      | broadcast payload => exact absurd hnot (by simp [Event.concerns])
      | count ticket => exact .refl client h
  | poll queue => exact hqueue hnot _
  | dropReceiver queue => exact hqueue hnot _
  | beginClosing connection => exact hconnection hnot _
  | claim connection => exact hconnection hnot _
  | claimEarly connection => exact hconnection hnot _
  | markClosed connection => exact hconnection hnot _
  | stop => exact absurd hnot (by simp [Event.concerns])

variable {client' : Client} {place : Nat → Nat}

/-- What does not concern the client does not make hubs look different to it. -/
lemma Same.alike {h₁ : Hub} (hsame : client.Same h₁ h) (halike : client.Alike client' place h h') :
    client.Alike client' place h₁ h' where
  entry := by rw [hsame.entry, halike.entry]
  phase := hsame.phase.trans halike.phase
  queue key hkey := (hsame.queue key hkey).trans (halike.queue key hkey)

/-- The client is in neither registry, or in both with the same queue. -/
lemma Alike.entry_cases (halike : client.Alike client' place h h') :
    h.entryAt? client.id = none ∧ h'.entryAt? client'.id = none
      ∨ ∃ r r', h.entryAt? client.id = some r ∧ h'.entryAt? client'.id = some r'
        ∧ r'.queue = place r.queue := by
  have hentry := halike.entry
  cases he : h.entryAt? client.id with
  | none =>
      rw [he, Option.map_none, eq_comm, Option.map_eq_none_iff] at hentry
      exact Or.inl ⟨rfl, hentry⟩
  | some r =>
      rw [he, Option.map_some, eq_comm, Option.map_eq_some_iff] at hentry
      obtain ⟨r', he', hqueue⟩ := hentry
      exact Or.inr ⟨r, r', rfl, he', hqueue⟩

lemma Alike.isRegistered_eq (halike : client.Alike client' place h h') :
    h.isRegistered client.id = h'.isRegistered client'.id := by
  have hsome := congrArg Option.isSome halike.entry
  simpa [Hub.isRegistered_eq] using hsome

lemma Alike.feeds_eq (ha : client.Apart h) (hplaced : client.Placed client' place)
    (halike : client.Alike client' place h h') {key : Nat} (hkey : key ∈ client.queues) :
    h.feeds client.id key = h'.feeds client'.id (place key) := by
  rcases halike.entry_cases with ⟨he, he'⟩ | ⟨r, r', he, he', hqueue⟩
  · simp [Hub.feeds, he, he']
  · have hiff : place r.queue = place key ↔ r.queue = key :=
      ⟨hplaced.inj _ (ha.queue_mem he) _ hkey, fun heq => by rw [heq]⟩
    rw [Bool.eq_iff_iff]
    simp [Hub.feeds, he, he', hqueue, hiff]

/-- The hubs agree on whether a broadcast removes the client. -/
lemma Alike.refused_eq (ha : client.Apart h) (halike : client.Alike client' place h h') :
    (h.entryAt? client.id).any (fun r => h.refusesAt r.queue)
      = (h'.entryAt? client'.id).any fun r => h'.refusesAt r.queue := by
  rcases halike.entry_cases with ⟨he, he'⟩ | ⟨r, r', he, he', hqueue⟩
  · simp [he, he']
  · simp [he, he', hqueue, Hub.refusesAt, halike.queue _ (ha.queue_mem he)]

/-- **An event acts alike on hubs that look alike to the client that it concerns.** -/
lemma Alike.step (ha : client.Apart h) (ha' : client'.Apart h')
    (hplaced : client.Placed client' place) (halike : client.Alike client' place h h')
    {event : Event} (hrespects : event.respects client = true)
    (hconcerns : event.concerns client = true) :
    client.Alike client' place (h.step event) (h'.step (event.relocate client' place)) := by
  have hconnection {k : Nat} (hk : (k == client.connection) = true)
      {f : Connection → Connection} {g : Phase → Phase} (hf : ∀ c, (f c).phase = g c.phase) :
      client.Alike client' place (h.onConnection k f) (h'.onConnection client'.connection f) := by
    obtain rfl : k = client.connection := beq_iff_eq.1 hk
    have hphase (s : Hub) (key : Nat) :
        (s.onConnection key f).phaseAt key = (s.phaseAt key).map g := by
      simp [phaseAt, onConnection, Function.comp_def, hf]
    exact ⟨halike.entry, by rw [hphase, hphase, halike.phase], halike.queue⟩
  have hqueue {k : Nat} (hk : decide (k ∈ client.queues) = true) (f : Queue → Queue) :
      client.Alike client' place (h.onQueue k f) (h'.onQueue (place k) f) := by
    refine ⟨halike.entry, halike.phase, ?_⟩
    intro key hkey
    have hiff : place k = place key ↔ k = key :=
      ⟨hplaced.inj _ (of_decide_eq_true hk) _ hkey, fun heq => by rw [heq]⟩
    simp [onQueue, List.getElem?_modify, halike.queue key hkey, hiff]
  cases event with
  | enroll connection capacity => exact absurd hconcerns (by simp [Event.concerns])
  | command command =>
      cases command with
      | register r =>
          have hr : r.connection = client.connection := beq_iff_eq.1 hconcerns
          have hmem : r.queue ∈ client.queues := by
            simpa [Event.respects, hr] using hrespects
          obtain ⟨hentry, hconn, hqueues⟩ := ha.register hr
          obtain ⟨hentry', hconn', hqueues'⟩ :=
            ha'.register (r := ⟨client'.connection, place r.queue⟩) rfl
          refine ⟨?_, ?_, ?_⟩ <;> simp only [Hub.step, apply, Event.relocate]
          · rw [hentry, hentry', halike.isRegistered_eq]
            split_ifs
            · rfl
            · exact halike.entry
          · rw [phaseAt_of_map (phase_exchange_eq _ _) hconn,
              phaseAt_of_map (phase_exchange_eq _ _) hconn', halike.isRegistered_eq, halike.phase]
          · intro key hkey
            have hiff : place r.queue = place key ↔ r.queue = key :=
              ⟨hplaced.inj _ hmem _ hkey, fun heq => by rw [heq]⟩
            simp only [hqueues, hqueues', halike.isRegistered_eq, halike.queue key hkey, hiff]
      | unregister x =>
          obtain rfl : x = client.id := beq_iff_eq.1 hconcerns
          have hsome := halike.isRegistered_eq
          rw [Hub.isRegistered_eq, Hub.isRegistered_eq] at hsome
          obtain ⟨hentry, hconn, hqueues⟩ := ha.unregister
          obtain ⟨hentry', hconn', hqueues'⟩ := ha'.unregister
          refine ⟨?_, ?_, ?_⟩ <;> simp only [Hub.step, apply, Event.relocate]
          · rw [hentry, hentry']
            rfl
          · rw [phaseAt_of_map (phase_exchange_eq _ _) hconn,
              phaseAt_of_map (phase_exchange_eq _ _) hconn', hsome, halike.phase]
          · intro key hkey
            rw [hqueues, hqueues', halike.feeds_eq ha hplaced hkey, halike.queue key hkey]
      | broadcast payload =>
          obtain ⟨hentry, hconn, hqueues⟩ := ha.broadcast payload
          obtain ⟨hentry', hconn', hqueues'⟩ := ha'.broadcast payload
          refine ⟨?_, ?_, ?_⟩ <;> simp only [Hub.step, apply, Event.relocate]
          · rw [hentry, hentry', halike.refused_eq ha]
            split_ifs
            · rfl
            · exact halike.entry
          · rw [phaseAt_of_map (phase_exchange_eq _ _) hconn,
              phaseAt_of_map (phase_exchange_eq _ _) hconn', halike.refused_eq ha, halike.phase]
          · intro key hkey
            rw [hqueues key hkey, hqueues' _ (hplaced.mem key hkey),
              halike.feeds_eq ha hplaced hkey, halike.queue key hkey]
      | count ticket => exact absurd hconcerns (by simp [Event.concerns])
  | poll queue => exact hqueue hconcerns _
  | dropReceiver queue => exact hqueue hconcerns _
  | beginClosing connection =>
      exact hconnection (g := fun phase => exchangePhase .connecting .closing
        (exchangePhase .registered .closing phase)) hconcerns phase_beginClosing
  | claim connection => exact hconnection hconcerns (phase_exchange_eq .registered .closing)
  | claimEarly connection => exact hconnection hconcerns (phase_exchange_eq .connecting .closing)
  | markClosed connection =>
      exact hconnection (g := fun _ => .closed) hconcerns fun _ => rfl
  | stop =>
      obtain ⟨hconn, hqueues⟩ := ha.stop
      obtain ⟨hconn', hqueues'⟩ := ha'.stop
      have hsome := halike.isRegistered_eq
      rw [Hub.isRegistered_eq, Hub.isRegistered_eq] at hsome
      refine ⟨rfl, ?_, ?_⟩ <;> simp only [Hub.step, Event.relocate]
      · rw [phaseAt_of_map (phase_exchange_eq _ _) hconn,
          phaseAt_of_map (phase_exchange_eq _ _) hconn', hsome, halike.phase]
      · intro key hkey
        rw [hqueues key hkey, hqueues' _ (hplaced.mem key hkey), halike.feeds_eq ha hplaced hkey,
          halike.queue key hkey]

end Step

/-! ## Whole histories -/

section Run

variable {client' : Client} {place : Nat → Nat} {h h' : Hub} {events : List Event}

lemma Apart.run (ha : client.Apart h)
    (hrespects : ∀ event ∈ events, event.respects client = true) : client.Apart (h.run events) := by
  induction events generalizing h with
  | nil => exact ha
  | cons event events ih =>
      exact ih (ha.step (hrespects event List.mem_cons_self))
        fun e he => hrespects e (List.mem_cons_of_mem _ he)

/-- What respects the client in one hub respects it in the other. -/
lemma respects_relocate (hplaced : client.Placed client' place) {event : Event}
    (hrespects : event.respects client = true) (hconcerns : event.concerns client = true) :
    (event.relocate client' place).respects client' = true := by
  cases event with
  | enroll connection capacity => exact absurd hconcerns (by simp [Event.concerns])
  | command command =>
      cases command with
      | register r =>
          have hr : r.connection = client.connection := beq_iff_eq.1 hconcerns
          have hmem : r.queue ∈ client.queues := by
            simpa [Event.respects, hr] using hrespects
          simp [Event.relocate, Event.respects, hplaced.mem _ hmem]
      | _ => rfl
  | _ => rfl

/-- Events that concern a client stay what they are if the client stays where it is. -/
lemma relocate_self {event : Event} (hconcerns : event.concerns client = true) :
    event.relocate client (fun key => key) = event := by
  cases event with
  | command command =>
      cases command with
      | register r =>
          have hr : r.connection = client.connection := beq_iff_eq.1 hconcerns
          simp [Event.relocate, ← hr]
      | unregister x =>
          have hx : x = client.id := beq_iff_eq.1 hconcerns
          rw [Event.relocate, hx]
      | _ => rfl
  | beginClosing k | claim k | claimEarly k | markClosed k =>
      have hk : k = client.connection := beq_iff_eq.1 hconcerns
      rw [Event.relocate, hk]
  | _ => rfl

/-- What a history has in it for a client, seen from another hub. -/
def view (client client' : Client) (place : Nat → Nat) (events : List Event) : List Event :=
  (events.filter (Event.concerns client)).map (Event.relocate client' place)

lemma view_self (client : Client) (events : List Event) :
    client.view client (fun key => key) events = events.filter (Event.concerns client) := by
  unfold view
  rw [List.map_congr_left fun event he => relocate_self (List.mem_filter.1 he).2, List.map_id']

/-- **A client lives by what concerns it**: what else is in a history can be left out. -/
theorem Alike.run (ha : client.Apart h) (ha' : client'.Apart h')
    (hplaced : client.Placed client' place) (halike : client.Alike client' place h h')
    (hrespects : ∀ event ∈ events, event.respects client = true) :
    client.Alike client' place (h.run events) (h'.run (client.view client' place events)) := by
  induction events generalizing h h' with
  | nil => exact halike
  | cons event events ih =>
      have hone : event.respects client = true := hrespects event List.mem_cons_self
      have hlater : ∀ e ∈ events, e.respects client = true := fun e he =>
        hrespects e (List.mem_cons_of_mem _ he)
      unfold view at ih ⊢
      by_cases hconcerns : event.concerns client = true
      · rw [List.filter_cons_of_pos hconcerns]
        exact ih (ha.step hone) (ha'.step (respects_relocate hplaced hone hconcerns))
          (halike.step ha ha' hplaced hone hconcerns) hlater
      · rw [List.filter_cons_of_neg hconcerns]
        exact ih (ha.step hone) ha'
          ((Same.of_not_concerns ha hone (by simpa using hconcerns)).alike halike) hlater

/-- The receivers of a client take the same at an event. -/
lemma Alike.polledAt_eq (hplaced : client.Placed client' place)
    (halike : client.Alike client' place h h') {key : Nat} (hkey : key ∈ client.queues)
    {event : Event} (hconcerns : event.concerns client = true) :
    h.polledAt key event = h'.polledAt (place key) (event.relocate client' place) := by
  cases event with
  | poll queue =>
      have hiff : place queue = place key ↔ queue = key :=
        ⟨hplaced.inj _ (of_decide_eq_true hconcerns) _ hkey, fun heq => by rw [heq]⟩
      simp only [polledAt, Event.relocate, hiff, halike.queue key hkey]
  | command command => cases command <;> rfl
  | _ => rfl

lemma polledAt_of_not_concerns {key : Nat} (hkey : key ∈ client.queues) {event : Event}
    (hnot : event.concerns client = false) : h.polledAt key event = none := by
  cases event with
  | poll queue =>
      have hne : queue ≠ key := fun heq => of_decide_eq_false hnot (heq ▸ hkey)
      simp [polledAt, hne]
  | _ => rfl

/-- Nor does it matter to what the receivers of the client take in the course of the history. -/
lemma Alike.polled_eq (ha : client.Apart h) (ha' : client'.Apart h')
    (hplaced : client.Placed client' place) (halike : client.Alike client' place h h')
    (hrespects : ∀ event ∈ events, event.respects client = true) {key : Nat}
    (hkey : key ∈ client.queues) :
    polled key events h = polled (place key) (client.view client' place events) h' := by
  induction events generalizing h h' with
  | nil => rfl
  | cons event events ih =>
      have hone : event.respects client = true := hrespects event List.mem_cons_self
      have hlater : ∀ e ∈ events, e.respects client = true := fun e he =>
        hrespects e (List.mem_cons_of_mem _ he)
      unfold view at ih ⊢
      by_cases hconcerns : event.concerns client = true
      · rw [List.filter_cons_of_pos hconcerns, List.map_cons, polled, polled,
          halike.polledAt_eq hplaced hkey hconcerns,
          ih (ha.step hone) (ha'.step (respects_relocate hplaced hone hconcerns))
            (halike.step ha ha' hplaced hone hconcerns) hlater]
      · have hnot : event.concerns client = false := by simpa using hconcerns
        rw [List.filter_cons_of_neg hconcerns, polled, polledAt_of_not_concerns hkey hnot,
          ih (ha.step hone) ha' ((Same.of_not_concerns ha hone hnot).alike halike) hlater]
        rfl

/-- Hubs that look to a client like a third one look alike to it. -/
lemma Alike.trans_symm {k : Hub} (halike : client.Alike client' place h k)
    (halike' : client'.Alike client' (fun key => key) h' k)
    (hplaced : client.Placed client' place) : client.Alike client' place h h' where
  entry := halike.entry.trans halike'.entry.symm
  phase := halike.phase.trans halike'.phase.symm
  queue key hkey := (halike.queue key hkey).trans (halike'.queue _ (hplaced.mem key hkey)).symm

/-- Before anyone is registered, a client has to itself what nobody else was given. -/
lemma apart_of_registry_eq_nil (hnil : h.registry = [])
    (hid : ∀ key, h.idAt key = some client.id ↔ key = client.connection)
    (hlt : ∀ key ∈ client.queues, key < h.queues.length) : client.Apart h where
  sound := sound_of_registry_eq_nil hnil
  idAt := (hid _).2 rfl
  eq_of_idAt key := (hid key).1
  queue_mem_iff x r he := by simp [entryAt?, hnil] at he
  queue_lt := hlt

end Run

end Client

/-- **Isolation.**  Take two hubs that have no entries yet and the same client in both, though it
may have another number and stand at other positions in the second, and two histories that respect
it and have the same events in them for it: the same broadcasts, the same registrations and removals
of the client, the same steps of its receivers, reader and pump, in the same order.  Then, whatever
else is in the histories, the client is in both registries or in neither, with the same queue; its
connection is in the same phase; its queues hold the same and have given the same to their
receivers. -/
theorem alike_of_concerns_eq (client client' : Client) (place : Nat → Nat) (start start' : Hub)
    (history history' : List Event)
    (hstart : start.registry = []) (hstart' : start'.registry = [])
    (hid : ∀ key, start.idAt key = some client.id ↔ key = client.connection)
    (hid' : ∀ key, start'.idAt key = some client'.id ↔ key = client'.connection)
    (hplace : client.queues.image place = client'.queues)
    (hinj : ∀ key ∈ client.queues, ∀ key' ∈ client.queues, place key = place key' → key = key')
    (hphase : start.phaseAt client.connection = start'.phaseAt client'.connection)
    (hqueues : ∀ key ∈ client.queues,
      ∃ q, start.queues[key]? = some q ∧ start'.queues[place key]? = some q)
    (hrespects : ∀ event ∈ history, event.respects client = true)
    (hrespects' : ∀ event ∈ history', event.respects client' = true)
    (hsame : (history.filter (Event.concerns client)).map (Event.relocate client' place)
      = history'.filter (Event.concerns client')) :
    ((start.run history).entryAt? client.id).map (fun r => place r.queue)
        = ((start'.run history').entryAt? client'.id).map (fun r => r.queue)
      ∧ (start.run history).phaseAt client.connection
        = (start'.run history').phaseAt client'.connection
      ∧ ∀ key ∈ client.queues,
        (start.run history).queues[key]? = (start'.run history').queues[place key]?
          ∧ polled key history start = polled (place key) history' start' := by
  have hplaced : client.Placed client' place :=
    ⟨fun key hkey => hplace ▸ Finset.mem_image_of_mem place hkey, hinj⟩
  have ha : client.Apart start := by
    refine Client.apart_of_registry_eq_nil hstart hid ?_
    intro key hkey
    obtain ⟨q, hq, -⟩ := hqueues key hkey
    exact (List.getElem?_eq_some_iff.1 hq).1
  have ha' : client'.Apart start' := by
    refine Client.apart_of_registry_eq_nil hstart' hid' ?_
    intro key hkey
    rw [← hplace] at hkey
    obtain ⟨key, hmem, rfl⟩ := Finset.mem_image.1 hkey
    obtain ⟨q, -, hq⟩ := hqueues key hmem
    exact (List.getElem?_eq_some_iff.1 hq).1
  have halike : client.Alike client' place start start' :=
    ⟨by simp [entryAt?, hstart, hstart'], hphase, fun key hkey => by
      obtain ⟨q, hq, hq'⟩ := hqueues key hkey
      rw [hq, hq']⟩
  -- both histories are compared with what the second has in it for the client
  have hview :
      client.view client' place history = client'.view client' (fun key => key) history' := by
    rw [Client.view_self]
    exact hsame
  have hfirst := halike.run ha ha' hplaced hrespects
  have hsecond := (Client.Alike.refl client' start').run ha' ha' (.refl client') hrespects'
  rw [hview] at hfirst
  have hboth := hfirst.trans_symm hsecond hplaced
  refine ⟨hboth.entry, hboth.phase, fun key hkey => ⟨hboth.queue key hkey, ?_⟩⟩
  rw [halike.polled_eq ha ha' hplaced hrespects hkey, hview,
    (Client.Alike.refl client' start').polled_eq ha' ha' (.refl client') hrespects'
      (hplaced.mem key hkey)]

/-- A client that shares a hub with one that falls behind and is evicted, and another that arrives
later, gets what it would get alone. -/
theorem alike_of_evicted_neighbour :
    let start : Hub :=
      { connections := [{ id := 1 }, { id := 2 }]
        queues := [{ capacity := 1 }, { capacity := 2 }] }
    let start' : Hub := { connections := [{ id := 1 }], queues := [{ capacity := 2 }] }
    let history : List Event :=
      [.command (.register ⟨0, 0⟩), .command (.register ⟨1, 1⟩), .command (.broadcast [65]),
        .enroll { id := 3 } 7, .poll 1, .command (.broadcast [66]), .command (.register ⟨2, 2⟩),
        .markClosed 0, .command (.broadcast [67]), .beginClosing 1, .command (.unregister 2)]
    let history' : List Event :=
      [.command (.register ⟨0, 0⟩), .command (.broadcast [65]), .poll 0, .command (.broadcast [66]),
        .command (.broadcast [67]), .beginClosing 0, .command (.unregister 1)]
    (start.run history).queues[1]? = (start'.run history').queues[0]?
      ∧ polled 1 history start = polled 0 history' start' := by
  intro start start' history history'
  obtain ⟨-, -, hqueues⟩ :=
    alike_of_concerns_eq ⟨2, 1, {1}⟩ ⟨1, 0, {0}⟩ (fun _ => 0) start start' history history' rfl rfl
      (fun key => by rcases key with _ | _ | key <;> simp [idAt, start])
      (fun key => by rcases key with _ | key <;> simp [idAt, start'])
      (by decide) (by simp) rfl (by simp [start, start']) (by decide) (by decide) (by decide)
  exact hqueues 1 (Finset.mem_singleton_self 1)

end Hub

end MarketGate
