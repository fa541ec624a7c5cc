import MarketGate.Proofs.Hub.Event

/-!
# What the hub delivers to one client

A client whose registration is accepted gets the messages that are broadcast from then on, one after
the other, until the first event that removes it from the registry.  This file proves that nothing
else ever enters its queue, and that nothing is missing, doubled or out of order.

* `Hub.removes` says when an event removes a client: it is unregistered, the hub ends, or a
  broadcast comes upon its queue with no room left or with no receiver.
* `Hub.stay` is the part of a history that lies before the first such event.
* `Queue.Moves` follows a queue from one state to another, with what came in and what went out.
* **`log_eq_broadcasts_stay`**: a queue accepts exactly the broadcasts of the stay of its client.

The proof has one lemma for a step in the registry (`Serves.step`), one for the step out of it
(`Serves.step_out`) and one for a step outside (`Forgets.step`).
-/

namespace MarketGate

namespace Queue

/-- No more was taken out than came in, and no more is pending than fits. -/
structure Valid (q : Queue) : Prop where
  taken_le : q.taken ≤ q.log.length
  pending_le : q.pending.length ≤ q.capacity

/-- From `q` to `q'`, some messages arrived at the end and some were taken from the front. -/
structure Moves (q q' : Queue) (arrived taken : List Bytes) : Prop where
  log : q'.log = q.log ++ arrived
  capacity : q'.capacity = q.capacity
  pending : q.pending ++ arrived = taken ++ q'.pending

lemma Moves.refl (q : Queue) : q.Moves q [] [] := ⟨by simp, rfl, by simp⟩

lemma Moves.trans {q q' q'' : Queue} {a a' t t' : List Bytes} (h : q.Moves q' a t)
    (h' : q'.Moves q'' a' t') : q.Moves q'' (a ++ a') (t ++ t') where
  log := by rw [h'.log, h.log, List.append_assoc]
  capacity := h'.capacity.trans h.capacity
  pending := by
    rw [← List.append_assoc, h.pending, List.append_assoc, h'.pending, List.append_assoc]

lemma Moves.dropSender (q : Queue) : q.Moves q.dropSender [] [] := ⟨by simp, rfl, by simp⟩

lemma Moves.dropReceiver (q : Queue) : q.Moves q.dropReceiver [] [] :=
  ⟨by simp [Queue.dropReceiver], rfl, by simp [Queue.dropReceiver, Queue.pending]⟩

lemma Moves.poll (q : Queue) : q.Moves q.poll.2 [] q.poll.1.toList := by
  obtain ⟨taken, htaken⟩ := q.exists_taken_poll
  exact ⟨by simp [htaken], by rw [htaken], by simpa using q.pending_poll⟩

/-- A queue that does not refuse takes the message at its end. -/
lemma Moves.receive {q : Queue} (hq : q.Valid) (payload : Bytes) (href : q.refuses = false) :
    q.Moves (q.receive payload) [payload] [] := by
  have hreceive : q.receive payload = { q with log := q.log ++ [payload] } := by
    simp [Queue.receive, accept, href]
  rw [hreceive]
  exact ⟨rfl, rfl, by simp [Queue.pending, List.drop_append_of_le_length hq.taken_le]⟩

lemma Valid.dropSender {q : Queue} (hq : q.Valid) : q.dropSender.Valid := ⟨hq.1, hq.2⟩

lemma Valid.dropReceiver {q : Queue} (hq : q.Valid) : q.dropReceiver.Valid := ⟨hq.1, hq.2⟩

lemma Valid.poll {q : Queue} (hq : q.Valid) : q.poll.2.Valid := by
  have hpending := q.pending_poll
  refine ⟨?_, ?_⟩
  · unfold Queue.poll
    split
    · next message rest _ htake =>
        obtain ⟨m, hm, heq⟩ := Option.map_eq_some_iff.1 htake
        cases heq
        exact (List.getElem?_eq_some_iff.1 hm).1
    · exact hq.taken_le
  · obtain ⟨taken, htaken⟩ := q.exists_taken_poll
    have hle := hq.pending_le
    rw [hpending, List.length_append] at hle
    have hcap : q.poll.2.capacity = q.capacity := by rw [htaken]
    omega

lemma Valid.receive {q : Queue} (hq : q.Valid) (payload : Bytes) : (q.receive payload).Valid := by
  unfold Queue.receive
  split_ifs with href
  · exact hq.dropSender
  · have href : q.refuses = false := by simpa using href
    have hroom : q.size < q.capacity := by
      simp only [refuses, Bool.or_eq_false_iff, decide_eq_false_iff_not, Nat.not_le] at href
      exact href.2
    have haccept : q.accept payload = { q with log := q.log ++ [payload] } := by
      simp [accept, href]
    rw [haccept]
    refine ⟨?_, ?_⟩
    · simp only [List.length_append, List.length_cons, List.length_nil]
      exact Nat.le_succ_of_le hq.taken_le
    · have htaken := hq.taken_le
      simp only [length_pending, size, List.length_append, List.length_cons,
        List.length_nil] at hroom ⊢
      omega

/-- Among valid queues, one refuses when its receiver is gone or it is exactly full. -/
lemma Valid.refuses_iff {q : Queue} (hq : q.Valid) :
    q.refuses = true ↔ q.hasReceiver = false ∨ q.pending.length = q.capacity := by
  have hle := hq.pending_le
  simp only [refuses, Bool.or_eq_true, Bool.not_eq_true', decide_eq_true_iff, length_pending]
    at hle ⊢
  exact or_congr_right ⟨fun h => Nat.le_antisymm hle h, fun h => Nat.le_of_eq h.symm⟩

end Queue

namespace Hub

/-- Whether an event removes the client under a number, whose queue stands at a position: it is
unregistered, a broadcast finds its receiver gone or its queue full, or the hub ends. -/
def removes (h : Hub) (id key : Nat) : Event → Bool
  | .command (.unregister x) => x == id
  | .command (.broadcast _) =>
    (h.queues[key]?).any fun q => !q.hasReceiver || q.pending.length == q.capacity
  | .stop => true
  | _ => false

/-- The part of a history before the first event that removes the client under a number. -/
def stay (id key : Nat) : List Event → Hub → List Event
  | [], _ => []
  | event :: events, h =>
    if h.removes id key event then [] else event :: stay id key events (h.step event)

lemma stay_prefix (id key : Nat) (events : List Event) (h : Hub) :
    stay id key events h <+: events := by
  induction events generalizing h with
  | nil => exact List.prefix_rfl
  | cons event events ih =>
      unfold stay
      split_ifs
      · exact List.nil_prefix
      · exact (List.prefix_cons_inj _).2 (ih _)

/-- A client in the registry, alone with its queue. -/
structure Serves (h : Hub) (id : Nat) (r : Registration) (q : Queue) : Prop where
  sound : h.Sound
  entry : h.entryAt? id = some r
  sole : h.Sole id r.queue
  queue : h.queues[r.queue]? = some q
  valid : q.Valid

/-- A queue that no entry feeds any more. -/
structure Forgets (h : Hub) (key : Nat) (q : Queue) : Prop where
  sound : h.Sound
  unfed : ∀ x, h.feeds x key = false
  queue : h.queues[key]? = some q
  valid : q.Valid

variable {h : Hub} {id key : Nat} {r : Registration} {q : Queue}

lemma Serves.feeds (hserves : h.Serves id r q) : h.feeds id r.queue = true :=
  feeds_iff.2 ⟨r, hserves.entry, rfl⟩

lemma Serves.removes_broadcast (hserves : h.Serves id r q) (payload : Bytes) :
    h.removes id r.queue (.command (.broadcast payload)) = q.refuses := by
  rw [Bool.eq_iff_iff, hserves.valid.refuses_iff]
  simp [removes, hserves.queue]

/-- What holds after a step into which no entry for the queue came and in which its own stayed. -/
private lemma Serves.of_step (hserves : h.Serves id r q) {event : Event}
    (hbrings : ¬ event.brings r.queue) {q' : Queue} (hentry : (h.step event).entryAt? id = some r)
    (hqueue : (h.step event).queues[r.queue]? = some q') (hvalid : q'.Valid) :
    (h.step event).Serves id r q' where
  sound := hserves.sound.step event
  entry := hentry
  sole x hx := (feeds_of_feeds_step hx).elim (hserves.sole x) fun hb => absurd hb hbrings
  queue := hqueue
  valid := hvalid

/-- What a step makes of a queue when neither a command nor the end of the hub touches it. -/
private lemma moves_step_quiet (event : Event) (hqueue : h.queues[key]? = some q) (hq : q.Valid)
    (hcommand : ∀ c, event ≠ .command c) (hstop : event ≠ .stop) :
    ∃ q', (h.step event).queues[key]? = some q' ∧ q'.Valid ∧ q'.hasSender = q.hasSender
      ∧ q.Moves q' event.payload?.toList (h.polledAt key event).toList := by
  cases event with
  | enroll connection capacity =>
      obtain ⟨hlt, -⟩ := List.getElem?_eq_some_iff.1 hqueue
      exact ⟨q, by simp [Hub.step, List.getElem?_append_left hlt, hqueue], hq, rfl, .refl q⟩
  | command c => exact absurd rfl (hcommand c)
  | poll queue =>
      by_cases hkey : queue = key
      · refine ⟨q.poll.2, by simp [Hub.step, onQueue, hkey, hqueue], hq.poll, ?_, ?_⟩
        · obtain ⟨taken, htaken⟩ := q.exists_taken_poll
          rw [htaken]
        · simpa [polledAt, hkey, hqueue, Event.payload?] using Queue.Moves.poll q
      · refine ⟨q, by simp [Hub.step, onQueue, hkey, hqueue], hq, rfl, ?_⟩
        simpa [polledAt, hkey, Event.payload?] using Queue.Moves.refl q
  | dropReceiver queue =>
      by_cases hkey : queue = key
      · exact ⟨q.dropReceiver, by simp [Hub.step, onQueue, hkey, hqueue], hq.dropReceiver, rfl,
          .dropReceiver q⟩
      · exact ⟨q, by simp [Hub.step, onQueue, hkey, hqueue], hq, rfl, .refl q⟩
  | beginClosing connection => exact ⟨q, hqueue, hq, rfl, .refl q⟩
  | claim connection => exact ⟨q, hqueue, hq, rfl, .refl q⟩
  | claimEarly connection => exact ⟨q, hqueue, hq, rfl, .refl q⟩
  | markClosed connection => exact ⟨q, hqueue, hq, rfl, .refl q⟩
  | stop => exact absurd rfl hstop

/-- A registration that does not bring the sender of a queue leaves the queue alone. -/
private lemma queues_register_of_ne {r' : Registration} (hne : r'.queue ≠ key) :
    (h.register r').queues[key]? = h.queues[key]? := by
  rw [queues_register, if_neg fun hand => hne hand.1]

/-- **A step in the registry.** -/
lemma Serves.step (hserves : h.Serves id r q) {event : Event}
    (hstay : h.removes id r.queue event = false) (hbrings : ¬ event.brings r.queue) :
    ∃ q', (h.step event).Serves id r q' ∧ q'.hasSender = q.hasSender
      ∧ q.Moves q' event.payload?.toList (h.polledAt r.queue event).toList := by
  -- whatever leaves entry and queue alone
  have hsame (hentry : (h.step event).entryAt? id = h.entryAt? id)
      (hqueue : (h.step event).queues[r.queue]? = h.queues[r.queue]?) :
      (h.step event).Serves id r q :=
    hserves.of_step hbrings (hentry.trans hserves.entry) (hqueue.trans hserves.queue)
      hserves.valid
  have hquiet := moves_step_quiet event hserves.queue hserves.valid
  cases event with
  | command c =>
      cases c with
      | register r' =>
          refine ⟨q, hsame ?_ (queues_register_of_ne fun heq => hbrings (beq_iff_eq.2 heq)), rfl,
            .refl q⟩
          cases hc : h.connections[r'.connection]? with
          | none => simp only [Hub.step, apply, register_of_none hc]
          | some c' =>
              rw [Hub.step, apply, entryAt?_register hc, if_neg]
              rintro ⟨hfree, rfl⟩
              simp [isRegistered_eq, hserves.entry] at hfree
      | unregister x =>
          have hx : id ≠ x := fun heq => by simp [removes, heq] at hstay
          refine ⟨q, hsame (by rw [Hub.step, apply, entryAt?_unregister, if_neg hx]) ?_, rfl,
            .refl q⟩
          rw [Hub.step, apply, queues_unregister,
            if_neg fun hfeeds => hx (hserves.sole x hfeeds).symm]
      | broadcast payload =>
          rw [hserves.removes_broadcast] at hstay
          refine ⟨q.receive payload, hserves.of_step hbrings ?_ ?_ (hserves.valid.receive payload),
            by simp [Queue.receive, Queue.accept, hstay], .receive hserves.valid payload hstay⟩
          · rw [Hub.step, apply,
              entryAt?_broadcast_of_sole payload hserves.sound hserves.entry hserves.sole]
            simp [refusesAt_eq hserves.queue, hstay]
          · rw [Hub.step, apply, queues_broadcast payload hserves.sound hserves.sole,
              if_pos hserves.feeds, hserves.queue]
            rfl
      | count ticket => exact ⟨q, hsame rfl rfl, rfl, .refl q⟩
  | stop => exact absurd hstay (by simp [removes])
  | _ =>
      obtain ⟨q', hqueue, hvalid, hsender, hmoves⟩ := hquiet (by simp) (by simp)
      exact ⟨q', hserves.of_step hbrings hserves.entry hqueue hvalid, hsender, hmoves⟩

/-- **The step out of the registry**: the sender is dropped, and what is in the queue stays. -/
lemma Serves.step_out (hserves : h.Serves id r q) {event : Event}
    (hout : h.removes id r.queue event = true) :
    (h.step event).Forgets r.queue q.dropSender ∧ h.polledAt r.queue event = none := by
  have hforgets (hunfed : ∀ x, (h.step event).feeds x r.queue = false)
      (hqueue : (h.step event).queues[r.queue]? = some q.dropSender) :
      (h.step event).Forgets r.queue q.dropSender :=
    ⟨hserves.sound.step event, hunfed, hqueue, hserves.valid.dropSender⟩
  -- with the entry gone, nobody feeds the queue, since nobody else did
  have hunfed (hentry : (h.step event).entryAt? id = none)
      (hbrings : ¬ event.brings r.queue) (x : Nat) : (h.step event).feeds x r.queue = false := by
    by_contra hx
    have hx : (h.step event).feeds x r.queue = true := by simpa using hx
    obtain rfl : x = id := hserves.sole x ((feeds_of_feeds_step hx).resolve_right hbrings)
    simp [Hub.feeds, hentry] at hx
  cases event with
  | command c =>
      cases c with
      | unregister x =>
          obtain rfl : x = id := by simpa [removes] using hout
          refine ⟨hforgets (hunfed ?_ Bool.false_ne_true) ?_, rfl⟩
          · rw [Hub.step, apply, entryAt?_unregister, if_pos rfl]
          · rw [Hub.step, apply, queues_unregister, if_pos hserves.feeds, hserves.queue]
            rfl
      | broadcast payload =>
          rw [hserves.removes_broadcast] at hout
          refine ⟨hforgets (hunfed ?_ Bool.false_ne_true) ?_, rfl⟩
          · rw [Hub.step, apply,
              entryAt?_broadcast_of_sole payload hserves.sound hserves.entry hserves.sole]
            simp [refusesAt_eq hserves.queue, hout]
          · rw [Hub.step, apply, queues_broadcast payload hserves.sound hserves.sole,
              if_pos hserves.feeds, hserves.queue]
            simp [Queue.receive, hout]
      | register r' => exact absurd hout (by simp [removes])
      | count ticket => exact absurd hout (by simp [removes])
  | stop =>
      refine ⟨hforgets (hunfed rfl Bool.false_ne_true) ?_, rfl⟩
      rw [Hub.step, queues_stop, if_pos ⟨_, mem_of_entryAt? hserves.entry, rfl⟩, hserves.queue]
      rfl
  | _ => exact absurd hout (by simp [removes])

/-- **A step outside**: nothing arrives any more. -/
lemma Forgets.step (hforgets : h.Forgets key q) {event : Event} (hbrings : ¬ event.brings key) :
    ∃ q', (h.step event).Forgets key q' ∧ (q.hasSender = false → q'.hasSender = false)
      ∧ q.Moves q' [] (h.polledAt key event).toList := by
  have hunfed (x : Nat) : (h.step event).feeds x key = false := by
    by_contra hx
    have hold := (feeds_of_feeds_step (by simpa using hx)).resolve_right hbrings
    rw [hforgets.unfed] at hold
    exact Bool.noConfusion hold
  have hout {q' : Queue} (hqueue : (h.step event).queues[key]? = some q') (hvalid : q'.Valid) :
      (h.step event).Forgets key q' := ⟨hforgets.sound.step event, hunfed, hqueue, hvalid⟩
  have hsame (hqueue : (h.step event).queues[key]? = h.queues[key]?) :
      (h.step event).Forgets key q := hout (hqueue.trans hforgets.queue) hforgets.valid
  have hquiet := moves_step_quiet event hforgets.queue hforgets.valid
  cases event with
  | command c =>
      refine ⟨q, hsame ?_, id, .refl q⟩
      cases c with
      | register r' => exact queues_register_of_ne fun heq => hbrings (beq_iff_eq.2 heq)
      | unregister x =>
          rw [Hub.step, apply, queues_unregister, hforgets.unfed]
          rfl
      | broadcast payload =>
          exact queues_broadcast_of_not_feeds payload hforgets.sound hforgets.unfed
      | count ticket => rfl
  | stop =>
      refine ⟨q, hsame ?_, id, .refl q⟩
      rw [Hub.step, queues_stop, if_neg]
      rintro ⟨e, he, hkey⟩
      have hfeeds : h.feeds e.1 key = true :=
        feeds_iff.2 ⟨e.2, hforgets.sound.entryAt?_eq_some_iff.2 he, hkey⟩
      rw [hforgets.unfed] at hfeeds
      exact Bool.noConfusion hfeeds
  | _ =>
      obtain ⟨q', hqueue, hvalid, hsender, hmoves⟩ := hquiet (by simp) (by simp)
      exact ⟨q', hout hqueue hvalid, fun hq => hsender.trans hq, hmoves⟩

/-! ## Whole histories -/

/-- Outside the registry a queue only ever empties. -/
lemma Forgets.run {events : List Event} (hforgets : h.Forgets key q)
    (hbrings : ∀ event ∈ events, ¬ event.brings key) :
    ∃ q', (h.run events).Forgets key q' ∧ (q.hasSender = false → q'.hasSender = false)
      ∧ q.Moves q' [] (polled key events h) := by
  induction events generalizing h q with
  | nil => exact ⟨q, hforgets, id, .refl q⟩
  | cons event events ih =>
      obtain ⟨q₁, hone, hsender, hmoves⟩ := hforgets.step (hbrings event List.mem_cons_self)
      obtain ⟨q₂, hrest, hsenders, hmove⟩ :=
        ih hone fun e he => hbrings e (List.mem_cons_of_mem _ he)
      exact ⟨q₂, hrest, fun hq => hsenders (hsender hq), hmoves.trans hmove⟩

/-- What has become of a client and its queue after a history: as long as nothing removed it, it is
in the registry, and its queue has moved by the broadcasts of its stay. -/
structure Delivered (h : Hub) (id : Nat) (r : Registration) (q : Queue) (events : List Event)
    (q' : Queue) : Prop where
  queue : (h.run events).queues[r.queue]? = some q'
  valid : q'.Valid
  moves : q.Moves q' (broadcasts (stay id r.queue events h)) (polled r.queue events h)
  entry : (h.run events).entryAt? id = some r ↔ stay id r.queue events h = events
  sender : q'.hasSender = true ↔ q.hasSender = true ∧ stay id r.queue events h = events

/-- From its registration on, a client gets the broadcasts of its stay.  The induction is on the
history; the step that removes the client hands over to `Forgets.run`. -/
theorem Serves.run {events : List Event} (hserves : h.Serves id r q)
    (hbrings : ∀ event ∈ events, ¬ event.brings r.queue) :
    ∃ q', h.Delivered id r q events q' := by
  induction events generalizing h q with
  | nil => exact ⟨q, hserves.queue, hserves.valid, .refl q, by simp [stay, hserves.entry],
      by simp [stay]⟩
  | cons event events ih =>
      have hlater : ∀ e ∈ events, ¬ e.brings r.queue := fun e he =>
        hbrings e (List.mem_cons_of_mem _ he)
      by_cases hout : h.removes id r.queue event = true
      · obtain ⟨hforgets, hpolled⟩ := hserves.step_out hout
        obtain ⟨q', hrest, hsender, hmoves⟩ := hforgets.run hlater
        have hstay : stay id r.queue (event :: events) h = [] := by simp [stay, hout]
        refine ⟨q', hrest.queue, hrest.valid, ?_, ?_, ?_⟩
        · rw [hstay, polled, hpolled]
          exact (Queue.Moves.dropSender q).trans hmoves
        · rw [hstay]
          refine ⟨?_, fun hnil => by cases hnil⟩
          intro he
          rw [run_cons] at he
          have hfeeds := hrest.unfed id
          rw [feeds_iff.2 ⟨r, he, rfl⟩] at hfeeds
          exact Bool.noConfusion hfeeds
        · rw [hstay, hsender rfl]
          simp
      · have hout : h.removes id r.queue event = false := by simpa using hout
        obtain ⟨q₁, hone, hsender, hmoves⟩ :=
          hserves.step hout (hbrings event List.mem_cons_self)
        obtain ⟨q', hrest⟩ := ih hone hlater
        have hstay : stay id r.queue (event :: events) h
            = event :: stay id r.queue events (h.step event) := by simp [stay, hout]
        refine ⟨q', hrest.queue, hrest.valid, ?_, ?_, ?_⟩
        · rw [hstay, broadcasts_cons, polled]
          exact hmoves.trans hrest.moves
        · rw [hstay, List.cons_inj_right]
          exact hrest.entry
        · rw [hstay, List.cons_inj_right, hrest.sender, hsender]

/-- The client that gets an entry is alone with its queue, if nobody feeds the queue before. -/
lemma sole_register {c : Connection} (hconnection : h.connections[r.connection]? = some c)
    (hunfed : ∀ x, h.feeds x r.queue = false) : (h.register r).Sole c.id r.queue := by
  intro x hx
  obtain ⟨r', he, hkey⟩ := feeds_iff.1 hx
  rw [entryAt?_register hconnection] at he
  split_ifs at he with hnew
  · exact hnew.2
  · have hfeeds := hunfed x
    rw [feeds_iff.2 ⟨r', he, hkey⟩] at hfeeds
    exact Bool.noConfusion hfeeds

/-- A registration that is accepted puts a client in the registry, alone with its queue. -/
lemma Sound.serves_register (hs : h.Sound) {c : Connection}
    (hconnection : h.connections[r.connection]? = some c) (hfree : h.isRegistered c.id = false)
    (hqueue : h.queues[r.queue]? = some q) (hvalid : q.Valid)
    (hunfed : ∀ x, h.feeds x r.queue = false) : (h.register r).Serves c.id r q where
  sound := hs.register r
  entry := by rw [entryAt?_register hconnection, if_pos ⟨hfree, rfl⟩]
  sole := sole_register hconnection hunfed
  queue := by rw [(register_of_free hconnection hfree).2.1, hqueue]
  valid := hvalid

/-- **Delivery.**  Take a history in which the registration of a client is accepted and its queue,
fresh by then, is brought only once.  After it, the queue has accepted exactly the messages that
were broadcast during the client's stay, in their order; what the receiver took, followed by what is
pending, is that block; no more is ever pending than fits; and the client is in the registry, with
the sender of its queue, exactly as long as no event has removed it.  So every queue holds a
contiguous block of one list, the broadcasts of the whole history. -/
theorem log_eq_broadcasts_stay (start : Hub) (before after : List Event) (r : Registration)
    {c : Connection} {capacity : Nat} {alive : Bool} (hstart : start.registry = [])
    (hconnection : (start.run before).connections[r.connection]? = some c)
    (hfree : (start.run before).isRegistered c.id = false)
    (hfresh : (start.run before).queues[r.queue]? = some { capacity, hasReceiver := alive })
    (hbrings : ∀ event ∈ before ++ after, ¬ event.brings r.queue) :
    let history := before ++ .command (.register r) :: after
    let entered := (start.run before).register r
    let during := stay c.id r.queue after entered
    ∃ q, (start.run history).queues[r.queue]? = some q
      ∧ q.log = broadcasts during
      ∧ polled r.queue after entered ++ q.pending = broadcasts during
      ∧ q.pending.length ≤ capacity
      ∧ ((start.run history).entryAt? c.id = some r ↔ during = after)
      ∧ (q.hasSender = true ↔ during = after)
      ∧ ∃ rest, broadcasts history = broadcasts before ++ q.log ++ rest := by
  intro history entered during
  have hsound : (start.run before).Sound := (sound_of_registry_eq_nil hstart).run before
  have hunfed (x : Nat) : (start.run before).feeds x r.queue = false := by
    refine not_feeds_run ?_ (fun e he => hbrings e (List.mem_append_left _ he)) x
    intro y
    simp [Hub.feeds, entryAt?, hstart]
  have hserves : entered.Serves c.id r { capacity, hasReceiver := alive } :=
    hsound.serves_register hconnection hfree hfresh ⟨Nat.le_refl _, Nat.zero_le _⟩ hunfed
  obtain ⟨q, hdelivered⟩ := hserves.run fun e he => hbrings e (List.mem_append_right _ he)
  have hrun : start.run history = entered.run after := run_append before _ start
  have hlog : q.log = broadcasts during := hdelivered.moves.log
  refine ⟨q, hrun ▸ hdelivered.queue, hlog, hdelivered.moves.pending.symm, ?_,
    hrun ▸ hdelivered.entry, by simpa using hdelivered.sender, ?_⟩
  · have hcapacity : q.capacity = capacity := hdelivered.moves.capacity
    rw [← hcapacity]
    exact hdelivered.valid.pending_le
  · obtain ⟨later, hlater⟩ := stay_prefix c.id r.queue after entered
    refine ⟨broadcasts later, ?_⟩
    rw [hlog, List.append_assoc, ← broadcasts_append, hlater, broadcasts_append]
    rfl

/-- A client whose queue holds two messages takes the first of three and is removed by the fourth,
since another client's eviction and a second registration under its number did not touch it. -/
theorem log_of_evicted_client :
    let start : Hub :=
      { connections := [{ id := 1 }, { id := 2 }]
        queues := [{ capacity := 1 }, { capacity := 2 }, { capacity := 5 }] }
    let before : List Event := [.command (.register ⟨0, 0⟩), .command (.broadcast [65])]
    let after : List Event :=
      [.command (.broadcast [66]), .poll 1, .command (.register ⟨1, 2⟩), .command (.broadcast [67]),
        .command (.broadcast [68]), .command (.broadcast [69]), .command (.broadcast [70])]
    let history := before ++ .command (.register ⟨1, 1⟩) :: after
    ∃ q, (start.run history).queues[1]? = some q ∧ q.log = [[66], [67], [68]]
      ∧ (start.run history).entryAt? 2 ≠ some ⟨1, 1⟩ := by
  intro start before after history
  obtain ⟨q, hqueue, hlog, -, -, hentry, -⟩ :=
    log_eq_broadcasts_stay start before after ⟨1, 1⟩ rfl rfl rfl rfl (by decide)
  refine ⟨q, hqueue, hlog.trans (by decide), ?_⟩
  intro he
  exact absurd (hentry.1 he) (by decide)

end Hub

end MarketGate
