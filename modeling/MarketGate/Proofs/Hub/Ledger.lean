import MarketGate.Proofs.Connection.Phase
import MarketGate.Proofs.Hub.Broadcast

/-!
# The ledger of a hub

The registry, the gauge, the counters and the phases of the connections tell the same story in
several places.  A history of a hub has a ledger of its own: which entries it removed, and which of
them because their queue was full.  What the hub shows agrees with that ledger after every history,
duplicates, evictions and connections that close on their own included.

For the registry and the connections there are three kinds of events (**`Hub.step_cases`**): a
connection comes into being, a connection gets an entry, and the entries under some numbers are
removed, which may be none.

* **`Hub.Over.run`**: a connection that has begun to end never opens again.
* `Hub.removed` are the entries that a history removes, and `Hub.crowded` those that a broadcast
  removes because their queue was full.
* `Hub.Ledger` says that a hub agrees with what was removed and sent; **`Hub.Ledger.run`**: it goes
  on agreeing.
-/

namespace MarketGate

namespace Hub

/-! ## What is removed -/

/-- The entries that an event removes. -/
def removedAt (event : Event) (h : Hub) : List (Nat × Registration) :=
  h.registry.filter fun e => decide (e ∉ (h.step event).registry)

/-- The entries that were removed in the course of a history, in their order. -/
def removed : List Event → Hub → List (Nat × Registration)
  | [], _ => []
  | event :: events, h => h.removedAt event ++ removed events (h.step event)

/-- The entries that an event removes because their queue is full: a broadcast removes them, and
there is somebody at the queue, but no room in it. -/
def crowdedAt (event : Event) (h : Hub) : List (Nat × Registration) :=
  match event with
  | .command (.broadcast _) =>
    (h.removedAt event).filter fun e => (h.step event).overflowsAt e.2.queue
  | _ => []

/-- The entries that were removed because their queue was full, in the course of a history. -/
def crowded : List Event → Hub → List (Nat × Registration)
  | [], _ => []
  | event :: events, h => h.crowdedAt event ++ crowded events (h.step event)

/-! ## Kinds of events -/

/-- The entries under some numbers are removed.  Their connections are not registered afterwards,
and no connection begins anew. -/
structure Sheds (ids : List Nat) (h h' : Hub) : Prop where
  registry : h'.registry = h.registry.filter fun e => decide (e.1 ∉ ids)
  connections : ∀ key, ∃ f : Connection → Connection,
    h'.connections[key]? = (h.connections[key]?).map f
      ∧ (∀ c, (f c).phase.isOpen = true → (f c).phase = c.phase)
      ∧ ((∃ id ∈ ids, h.seats id key = true) → ∀ c, (f c).phase ≠ .registered)
  registrations : h'.metrics.registrations = h.metrics.registrations

section Sheds

variable {h h' : Hub} {ids : List Nat}

lemma isOpen_exchange {source target : Phase} (htarget : target.isOpen = false) (c : Connection)
    (hopen : (c.exchange source target).phase.isOpen = true) :
    (c.exchange source target).phase = c.phase := by
  rw [Connection.phase_exchange] at hopen ⊢
  split_ifs at hopen ⊢ with hphase
  · rw [htarget] at hopen
    exact Bool.noConfusion hopen
  · rfl

lemma beginDraining_ne (c : Connection) : c.beginDraining.phase ≠ .registered := by
  rw [Connection.beginDraining, Connection.phase_exchange]
  split_ifs with hphase
  · exact Phase.noConfusion
  · exact hphase

/-- Nobody is removed, and no connection begins anew. -/
lemma Sheds.of_touch (hregistry : h'.registry = h.registry)
    (hregistrations : h'.metrics.registrations = h.metrics.registrations) (key : Nat)
    {f : Connection → Connection} (hf : ∀ c, (f c).phase.isOpen = true → (f c).phase = c.phase)
    (hconnections : h'.connections = h.connections.modify key f) : Sheds [] h h' where
  registry := by simp [hregistry]
  connections k := by
    rw [hconnections]
    by_cases hk : key = k
    · exact ⟨f, by simp [hk], hf, by simp⟩
    · exact ⟨id, by simp [hk], fun _ _ => rfl, by simp⟩
  registrations := hregistrations

/-- Nobody is removed, and connections are left alone. -/
lemma Sheds.of_same (hregistry : h'.registry = h.registry)
    (hregistrations : h'.metrics.registrations = h.metrics.registrations)
    (hconnections : h'.connections = h.connections) : Sheds [] h h' where
  registry := by simp [hregistry]
  connections k := ⟨id, by simp [hconnections], fun _ _ => rfl, by simp⟩
  registrations := hregistrations

/-- The connections of those who are removed drain. -/
lemma Sheds.of_drained {p : Nat → Prop} [DecidablePred p]
    (hregistry : h'.registry = h.registry.filter fun e => decide (e.1 ∉ ids))
    (hregistrations : h'.metrics.registrations = h.metrics.registrations)
    (hconnections : ∀ key, h'.connections[key]?
      = if p key then (h.connections[key]?).map Connection.beginDraining else h.connections[key]?)
    (hp : ∀ key, (∃ id ∈ ids, h.seats id key = true) → p key) : Sheds ids h h' where
  registry := hregistry
  connections key := by
    rw [hconnections]
    split_ifs with hkey
    · exact ⟨_, rfl, isOpen_exchange rfl, fun _ => beginDraining_ne⟩
    · exact ⟨id, by simp, fun _ _ => rfl, fun hseats => absurd (hp key hseats) hkey⟩
  registrations := hregistrations

end Sheds

section Step

variable {h : Hub}

lemma registrations_unregister (id : Nat) :
    (h.unregister id).metrics.registrations = h.metrics.registrations := by
  rw [metrics_unregister_eq]

lemma registrations_broadcast (payload : Bytes) :
    (h.broadcast payload).metrics.registrations = h.metrics.registrations :=
  foldl_unregister (P := fun k => k.metrics.registrations = h.metrics.registrations)
    (fun _ _ hk => (registrations_unregister _).trans hk) (h.fanOut payload).refused rfl

/-- A command either gives a connection an entry or removes entries. -/
lemma apply_cases (command : Command) :
    (∃ r c, command = .register r ∧ h.connections[r.connection]? = some c
        ∧ h.isRegistered c.id = false)
      ∨ ∃ ids, Sheds ids h (h.apply command) := by
  cases command with
  | register r =>
      cases hc : h.connections[r.connection]? with
      | none => exact Or.inr ⟨[], by rw [apply, register_of_none hc]; exact .of_same rfl rfl rfl⟩
      | some c =>
          cases htaken : h.isRegistered c.id with
          | false => exact Or.inl ⟨r, c, rfl, hc, htaken⟩
          | true =>
              refine Or.inr ⟨[], ?_⟩
              rw [apply, register_of_taken hc htaken]
              exact .of_same rfl rfl rfl
  | unregister id =>
      refine Or.inr ⟨[id], .of_drained ?_ (registrations_unregister id)
        (connections_unregister h id) (by simp)⟩
      rw [apply, registry_unregister]
      exact List.filter_congr fun e _ => by by_cases he : e.1 = id <;> simp [he]
  | broadcast payload =>
      exact Or.inr ⟨(h.fanOut payload).numbers, .of_drained (registry_broadcast payload)
        (registrations_broadcast payload) (connections_broadcast_of_fanOut payload)
        fun _ hseats => hseats⟩
  | count ticket => exact Or.inr ⟨[], .of_same rfl rfl rfl⟩

/-- **There are three kinds of events** for the registry and the connections. -/
theorem step_cases (event : Event) :
    (∃ c n, event = .enroll c n)
      ∨ (∃ r c, event = .command (.register r) ∧ h.connections[r.connection]? = some c
          ∧ h.isRegistered c.id = false)
      ∨ ∃ ids, Sheds ids h (h.step event) := by
  cases event with
  | enroll c n => exact Or.inl ⟨c, n, rfl⟩
  | command command =>
      rcases apply_cases (h := h) command with ⟨r, c, rfl, hc, hfree⟩ | hsheds
      · exact Or.inr (Or.inl ⟨r, c, rfl, hc, hfree⟩)
      · exact Or.inr (Or.inr hsheds)
  | poll key | dropReceiver key => exact Or.inr (Or.inr ⟨[], .of_same rfl rfl rfl⟩)
  | beginClosing key =>
      refine Or.inr (Or.inr ⟨[], .of_touch rfl rfl key ?_ rfl⟩)
      intro c hopen
      unfold Connection.beginClosing at hopen ⊢
      split_ifs at hopen ⊢ with hfirst hsecond
      · exact isOpen_exchange rfl c hopen
      · exact isOpen_exchange rfl c hopen
      · rfl
  | claim key | claimEarly key =>
      exact Or.inr (Or.inr ⟨[], .of_touch rfl rfl key (isOpen_exchange rfl) rfl⟩)
  | markClosed key =>
      refine Or.inr (Or.inr ⟨[], .of_touch rfl rfl key ?_ rfl⟩)
      intro c hopen
      exact Bool.noConfusion hopen
  | stop =>
      refine Or.inr (Or.inr ⟨h.registry.map Prod.fst, .of_drained ?_
        (congrArg Metrics.registrations (metrics_stop h) :) (connections_stop h) ?_⟩)
      · refine (List.filter_eq_nil_iff.2 fun e he => ?_).symm
        simpa using ⟨e.2, he⟩
      · rintro key ⟨id, -, hseat⟩
        obtain ⟨r, hr, hkey⟩ := seats_iff.1 hseat
        exact ⟨(id, r), mem_of_entryAt? hr, hkey⟩

end Step

/-! ## Full queues -/

section Crowded

variable {h : Hub} (payload : Bytes)

/-- A queue that refuses goes on refusing in a fan-out. -/
lemma refuses_foldl {entries : List (Nat × Registration)} {f : FanOut} {key : Nat}
    (href : (f.queues[key]?).any Queue.refuses = true) :
    ((entries.foldl (FanOut.step payload) f).queues[key]?).any Queue.refuses = true := by
  induction entries generalizing f with
  | nil => exact href
  | cons e rest ih =>
      refine ih ?_
      rw [FanOut.queues_step]
      split_ifs
      · obtain ⟨q, hq, hrefuses⟩ := Option.any_eq_true _ _ |>.1 href
        simp [hq, Queue.accept, hrefuses]
      · exact href

lemma hearsAt_foldl (entries : List (Nat × Registration)) (f : FanOut) (key : Nat) :
    hearsAt (entries.foldl (FanOut.step payload) f).queues key = hearsAt f.queues key := by
  induction entries generalizing f with
  | nil => rfl
  | cons e rest ih => exact (ih (f.step payload e)).trans (FanOut.hearsAt_step payload f e key)

/-- The queue of an entry that refused refuses when the fan-out is over. -/
lemma refuses_fanOut (hs : h.Sound) {e : Nat × Registration} (he : e ∈ h.registry)
    (hmem : e.1 ∈ (h.fanOut payload).numbers) :
    ((h.fanOut payload).queues[e.2.queue]?).any Queue.refuses = true := by
  obtain ⟨before, after, hsplit, hbefore⟩ := exists_split (hs.entryAt?_eq_some_iff.2 he)
  have hafter : ∀ x ∈ after, x.1 ≠ e.1 := by
    have hkeys := hs.keys
    rw [hsplit, List.map_append, List.nodup_append, List.map_cons, List.nodup_cons] at hkeys
    exact fun x hx heq => hkeys.2.1.1 (List.mem_map.2 ⟨x, hx, heq⟩)
  unfold fanOut at hmem ⊢
  rw [hsplit, List.foldl_append, List.foldl_cons] at hmem ⊢
  rw [FanOut.mem_numbers_foldl_of_ne payload hafter, FanOut.numbers_step, List.mem_append,
    FanOut.mem_numbers_foldl_of_ne payload hbefore] at hmem
  refine refuses_foldl payload ?_
  split_ifs at hmem with href
  · rw [FanOut.queues_step, if_pos rfl]
    obtain ⟨q, hq, hrefuses⟩ := Option.any_eq_true _ _ |>.1 href
    simp [hq, Queue.accept, hrefuses]
  · simp [FanOut.numbers] at hmem

/-- After a broadcast the queue of an entry that refused is full, if there is somebody at it. -/
lemma overflowsAt_broadcast (hs : h.Sound) {e : Nat × Registration} (he : e ∈ h.registry)
    (hmem : e.1 ∈ (h.fanOut payload).numbers) :
    (h.broadcast payload).overflowsAt e.2.queue = hearsAt h.queues e.2.queue := by
  have hhears : hearsAt (h.fanOut payload).queues e.2.queue = hearsAt h.queues e.2.queue :=
    hearsAt_foldl payload h.registry ⟨h.queues, []⟩ e.2.queue
  obtain ⟨q, hq, hrefuses⟩ := Option.any_eq_true _ _ |>.1 (refuses_fanOut payload hs he hmem)
  have hover : q.overflows = q.hasReceiver := by rw [q.overflows_eq, hrefuses, Bool.true_and]
  rw [← hhears, overflowsAt, queues_broadcast_of_fanOut, hearsAt, hq]
  split_ifs
  · exact hover
  · exact hover

/-- What an event removes that removes the entries under some numbers. -/
lemma Sheds.removedAt_eq {event : Event} {ids : List Nat} (hsheds : Sheds ids h (h.step event)) :
    h.removedAt event = h.registry.filter fun e => decide (e.1 ∈ ids) := by
  refine List.filter_congr fun e he => ?_
  simp [hsheds.registry, he]

/-- **The counter of full queues counts those who were removed for it.** -/
theorem length_crowdedAt_broadcast (hs : h.Sound) :
    (h.crowdedAt (.command (.broadcast payload))).length = (h.fanOut payload).full.length := by
  have hremoved : h.removedAt (.command (.broadcast payload))
      = h.registry.filter fun e => decide (e.1 ∈ (h.fanOut payload).numbers) := by
    refine List.filter_congr fun e he => ?_
    simp [step, apply, registry_broadcast, he]
  rw [length_full_fanOut hs, crowdedAt, hremoved, List.filter_filter,
    ← List.countP_eq_length_filter]
  refine List.countP_congr fun e he => ?_
  by_cases hmem : e.1 ∈ (h.fanOut payload).numbers
  · simp [hmem, step, apply, overflowsAt_broadcast payload hs he hmem]
  · simp [hmem]

end Crowded

/-! ## Connections that have begun to end -/

/-- The connection at a position has begun to end. -/
def Over (h : Hub) (key : Nat) : Prop :=
  ∃ c, h.connections[key]? = some c ∧ c.phase.isOpen = false

section Over

variable {h h' : Hub} {key : Nat}

lemma getElem?_connections_enroll {key : Nat} {c : Connection} (hc : h.connections[key]? = some c)
    (connection : Connection) (n : Nat) :
    (h.step (.enroll connection n)).connections[key]? = some c := by
  obtain ⟨hlt, -⟩ := List.getElem?_eq_some_iff.1 hc
  rw [step, List.getElem?_append_left hlt, hc]

lemma markRegistered_of_not_isOpen {c : Connection} (hover : c.phase.isOpen = false) :
    c.markRegistered = c := by
  refine Connection.exchange_of_ne fun hphase => ?_
  rw [hphase] at hover
  exact Bool.noConfusion hover

lemma Over.enroll (hover : h.Over key) (connection : Connection) (n : Nat) :
    (h.step (.enroll connection n)).Over key := by
  obtain ⟨c, hc, hphase⟩ := hover
  exact ⟨c, getElem?_connections_enroll hc connection n, hphase⟩

lemma Over.register (hover : h.Over key) (r : Registration) : (h.register r).Over key := by
  obtain ⟨c, hc, hphase⟩ := hover
  refine ⟨c, ?_, hphase⟩
  rw [connections_register, hc]
  split_ifs
  · rw [Option.map_some, markRegistered_of_not_isOpen hphase]
  · rfl

lemma Over.sheds (hover : h.Over key) {ids : List Nat} (hsheds : Sheds ids h h') :
    h'.Over key := by
  obtain ⟨c, hc, hphase⟩ := hover
  obtain ⟨f, hf, hsame, -⟩ := hsheds.connections key
  refine ⟨f c, by rw [hf, hc]; rfl, ?_⟩
  by_contra hopen
  rw [Bool.not_eq_false] at hopen
  rw [hsame c hopen, hphase] at hopen
  exact Bool.noConfusion hopen

lemma Over.step (hover : h.Over key) (event : Event) : (h.step event).Over key := by
  rcases step_cases (h := h) event with ⟨c, n, rfl⟩ | ⟨r, c, rfl, -, -⟩ | ⟨ids, hsheds⟩
  · exact hover.enroll c n
  · exact hover.register r
  · exact hover.sheds hsheds

/-- **A connection that has begun to end never opens again**, whatever becomes of the hub. -/
theorem Over.run (hover : h.Over key) (events : List Event) : (h.run events).Over key := by
  induction events generalizing h with
  | nil => exact hover
  | cons event events ih => exact ih (hover.step event)

end Over

/-! ## The ledger -/

/-- Entries, connections and the counter of registrations agree with what was removed. -/
structure Entries (gone : List (Nat × Registration)) (h : Hub) : Prop where
  /-- Whose connection is registered has an entry. -/
  seated : ∀ key c, h.connections[key]? = some c → c.phase = .registered →
    ∃ e ∈ h.registry, e.2.connection = key
  /-- The connection of an entry is not about to connect. -/
  entered : ∀ e ∈ h.registry, ∃ c, h.connections[e.2.connection]? = some c
    ∧ c.phase ≠ .connecting
  /-- The connection of an entry that was removed has begun to end. -/
  left : ∀ e ∈ gone, ∃ c, h.connections[e.2.connection]? = some c ∧ c.phase.isOpen = false
  registrations : h.metrics.registrations = h.registry.length + gone.length

/-- A hub agrees with what was removed from it, for whatever reason and because of full queues, and
with what was sent to everyone. -/
structure Ledger (gone crowd : List (Nat × Registration)) (sent : List Bytes) (h : Hub) : Prop
    extends Entries gone h where
  sound : h.Sound
  counted : h.Counted
  backpressureDisconnects : h.metrics.backpressureDisconnects = crowd.length
  broadcasts : h.metrics.broadcasts = sent.length

section Entries

variable {h h' : Hub} {gone : List (Nat × Registration)}

lemma Entries.enroll (hentries : h.Entries gone) {connection : Connection} {n : Nat}
    (hphase : connection.phase = .connecting) :
    (h.step (.enroll connection n)).Entries gone where
  seated key c hc hregistered := by
    by_cases hlt : key < h.connections.length
    · rw [step, List.getElem?_append_left hlt] at hc
      exact hentries.seated key c hc hregistered
    · rw [step, List.getElem?_append_right (Nat.le_of_not_lt hlt)] at hc
      obtain rfl : c = connection := by simpa using List.mem_of_getElem? hc
      rw [hphase] at hregistered
      exact Phase.noConfusion hregistered
  entered e he := by
    obtain ⟨c, hc, hne⟩ := hentries.entered e he
    exact ⟨c, getElem?_connections_enroll hc connection n, hne⟩
  left e he := Over.enroll (hentries.left e he) connection n
  registrations := hentries.registrations

/-- A connection that is registered does not connect any more. -/
lemma markRegistered_ne (c : Connection) : c.markRegistered.phase ≠ .connecting := by
  rw [Connection.markRegistered, Connection.phase_exchange]
  split_ifs with hphase
  · exact Phase.noConfusion
  · exact hphase

/-- What an entry counts as. -/
lemma metrics_register_of_free {r : Registration} {c : Connection}
    (hc : h.connections[r.connection]? = some c) (hfree : h.isRegistered c.id = false) :
    (h.register r).metrics =
      { h.metrics with
        registrations := h.metrics.registrations + 1
        activeConnections := h.size + 1 } := by
  simp only [register, hc, hfree]
  simp [gauge, onMetrics, onConnection, size]

lemma Entries.register (hentries : h.Entries gone) {r : Registration} {c : Connection}
    (hc : h.connections[r.connection]? = some c) (hfree : h.isRegistered c.id = false) :
    (h.register r).Entries gone := by
  obtain ⟨hregistry, -, hconnections⟩ := register_of_free hc hfree
  have hmine : (h.register r).connections[r.connection]? = some c.markRegistered := by
    simp [hconnections, hc]
  have hother : ∀ key, r.connection ≠ key →
      (h.register r).connections[key]? = h.connections[key]? := fun key hkey => by
    simp [hconnections, hkey]
  refine ⟨?_, ?_, ?_, ?_⟩
  · intro key c' hc' hregistered
    by_cases hkey : r.connection = key
    · exact ⟨(c.id, r), by simp [hregistry], hkey⟩
    · rw [hother key hkey] at hc'
      obtain ⟨e, he, heq⟩ := hentries.seated key c' hc' hregistered
      exact ⟨e, by simp [hregistry, he], heq⟩
  · intro e he
    by_cases hkey : r.connection = e.2.connection
    · exact ⟨_, hkey ▸ hmine, markRegistered_ne c⟩
    · rw [hother _ hkey]
      rw [hregistry, List.mem_append, List.mem_singleton] at he
      rcases he with hold | rfl
      · exact hentries.entered e hold
      · exact absurd rfl hkey
  · exact fun e he => Over.register (hentries.left e he) r
  · have hcount := hentries.registrations
    rw [metrics_register_of_free hc hfree, hregistry, List.length_append, List.length_singleton]
    dsimp only
    omega

/-- What a removal leaves of a ledger: those who are removed are added to those who are gone. -/
lemma Entries.sheds (hentries : h.Entries gone) (hs : h.Sound) {ids : List Nat}
    (hsheds : Sheds ids h h') :
    h'.Entries (gone ++ h.registry.filter fun e => decide (e.1 ∈ ids)) := by
  refine ⟨?_, ?_, ?_, ?_⟩
  · intro key c' hc' hregistered
    obtain ⟨f, hf, hsame, hdrained⟩ := hsheds.connections key
    rw [hf] at hc'
    obtain ⟨c, hc, rfl⟩ := Option.map_eq_some_iff.1 hc'
    have hphase : c.phase = .registered := by
      rw [← hsame c (by rw [hregistered]; rfl), hregistered]
    obtain ⟨e, he, heq⟩ := hentries.seated key c hc hphase
    refine ⟨e, ?_, heq⟩
    rw [hsheds.registry, List.mem_filter, decide_eq_true_iff]
    exact ⟨he, fun hid => hdrained
      ⟨e.1, hid, seats_iff.2 ⟨e.2, hs.entryAt?_eq_some_iff.2 he, heq⟩⟩ c hregistered⟩
  · intro e he
    rw [hsheds.registry] at he
    obtain ⟨c, hc, hne⟩ := hentries.entered e (List.mem_filter.1 he).1
    obtain ⟨f, hf, hsame, -⟩ := hsheds.connections e.2.connection
    refine ⟨f c, by rw [hf, hc]; rfl, fun hconnecting => hne ?_⟩
    rw [← hsame c (by rw [hconnecting]; rfl), hconnecting]
  · intro e he
    rcases List.mem_append.1 he with hold | hnew
    · exact Over.sheds (hentries.left e hold) hsheds
    · obtain ⟨hmem, hid⟩ := List.mem_filter.1 hnew
      rw [decide_eq_true_iff] at hid
      obtain ⟨c, hc, hne⟩ := hentries.entered e hmem
      obtain ⟨f, hf, hsame, hdrained⟩ := hsheds.connections e.2.connection
      have hnot := hdrained ⟨e.1, hid, seats_iff.2 ⟨e.2, hs.entryAt?_eq_some_iff.2 hmem, rfl⟩⟩ c
      have hkeep := hsame c
      refine ⟨f c, by rw [hf, hc]; rfl, ?_⟩
      cases hphase : (f c).phase with
      | connecting => exact absurd ((hkeep (by rw [hphase]; rfl)).symm.trans hphase) hne
      | registered => exact absurd hphase hnot
      | draining | closing | closed => rfl
  · have hsplit := List.length_eq_length_filter_add (l := h.registry) fun e => decide (e.1 ∉ ids)
    have hremoved : (h.registry.filter fun e => !decide (e.1 ∉ ids))
        = h.registry.filter fun e => decide (e.1 ∈ ids) := by simp
    rw [hremoved] at hsplit
    rw [hsheds.registrations, hentries.registrations, hsheds.registry, List.length_append]
    omega

/-- Nobody is removed where the old entries stay. -/
lemma removedAt_eq_nil {event : Event} (hsub : h.registry ⊆ (h.step event).registry) :
    h.removedAt event = [] := by
  refine List.filter_eq_nil_iff.2 fun e he => ?_
  simpa using hsub he

lemma Entries.step (hentries : h.Entries gone) (hs : h.Sound) {event : Event}
    (hnew : ∀ c n, event = .enroll c n → c.phase = .connecting) :
    (h.step event).Entries (gone ++ h.removedAt event) := by
  rcases step_cases (h := h) event with ⟨c, n, rfl⟩ | ⟨r, c, rfl, hc, hfree⟩ | ⟨ids, hsheds⟩
  · rw [removedAt_eq_nil (List.Subset.refl _), List.append_nil]
    exact hentries.enroll (hnew c n rfl)
  · rw [removedAt_eq_nil, List.append_nil]
    · exact hentries.register hc hfree
    · rw [Hub.step, apply, (register_of_free hc hfree).1]
      exact List.subset_append_left _ _
  · rw [hsheds.removedAt_eq]
    exact hentries.sheds hs hsheds

end Entries

section Ledger

variable {h : Hub} {gone crowd : List (Nat × Registration)} {sent : List Bytes}

/-- The gauge goes on showing how many connections are registered. -/
lemma Counted.step (hc : h.Counted) (event : Event) : (h.step event).Counted := by
  cases event with
  | command command => exact hc.apply command
  | stop => exact counted_stop h
  | _ => exact hc

lemma broadcasts_step (event : Event) :
    (h.step event).metrics.broadcasts
      = h.metrics.broadcasts + event.payload?.toList.length := by
  cases event with
  | command command => exact broadcasts_apply h command
  | stop => exact (congrArg Metrics.broadcasts (metrics_stop h) :)
  | _ => rfl

/-- Only a broadcast counts full queues. -/
lemma backpressureDisconnects_step (hs : h.Sound) (hc : h.Counted) (event : Event) :
    (h.step event).metrics.backpressureDisconnects
      = h.metrics.backpressureDisconnects + (h.crowdedAt event).length := by
  cases event with
  | command command =>
      cases command with
      | broadcast payload =>
          rw [length_crowdedAt_broadcast payload hs, Hub.step, apply, metrics_broadcast_eq hc]
      | _ =>
          refine backpressureDisconnects_apply h fun payload heq => ?_
          cases heq
  | stop => exact (congrArg Metrics.backpressureDisconnects (metrics_stop h) :)
  | _ => rfl

lemma Ledger.step (hl : h.Ledger gone crowd sent) {event : Event}
    (hnew : ∀ c n, event = .enroll c n → c.phase = .connecting) :
    (h.step event).Ledger (gone ++ h.removedAt event) (crowd ++ h.crowdedAt event)
      (sent ++ event.payload?.toList) where
  toEntries := hl.toEntries.step hl.sound hnew
  sound := hl.sound.step event
  counted := hl.counted.step event
  backpressureDisconnects := by
    rw [backpressureDisconnects_step hl.sound hl.counted, hl.backpressureDisconnects,
      List.length_append]
  broadcasts := by rw [broadcasts_step, hl.broadcasts, List.length_append]

/-- **A hub goes on agreeing with its ledger**, whatever happens, as long as connections come into
being connecting. -/
theorem Ledger.run (hl : h.Ledger gone crowd sent) {events : List Event}
    (hnew : ∀ c n, .enroll c n ∈ events → c.phase = .connecting) :
    (h.run events).Ledger (gone ++ removed events h) (crowd ++ crowded events h)
      (sent ++ Hub.broadcasts events) := by
  induction events generalizing h gone crowd sent with
  | nil =>
      simp only [removed, crowded, Hub.broadcasts, List.filterMap_nil, List.append_nil]
      exact hl
  | cons event events ih =>
      have hfirst : ∀ c n, event = .enroll c n → c.phase = .connecting := fun c n heq =>
        hnew c n (heq ▸ List.mem_cons_self)
      have hrest := ih (hl.step hfirst) fun c n hmem => hnew c n (List.mem_cons_of_mem _ hmem)
      simpa only [removed, crowded, broadcasts_cons, run_cons, List.append_assoc] using hrest

/-- A hub that has just begun agrees with a ledger where nothing stands. -/
lemma ledger_nil : ({} : Hub).Ledger [] [] [] where
  seated key c hc := by simp at hc
  entered e he := by simp at he
  left e he := by simp at he
  registrations := rfl
  sound := sound_of_registry_eq_nil rfl
  counted := rfl
  backpressureDisconnects := rfl
  broadcasts := rfl

end Ledger

end Hub

end MarketGate
