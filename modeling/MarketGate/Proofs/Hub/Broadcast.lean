import MarketGate.Proofs.Hub.Counters

/-!
# A broadcast, exactly

What one broadcast does to the whole hub.  The registry is a map, and a fan-out goes through it in
whatever order the map happens to have; here the order is a list with the same entries.  As long as
no two entries share a queue, an offer to one queue cannot be seen by another entry, and so what
becomes of an entry depends on that entry alone.

* `Queue.overflows` says that somebody waits for messages and there is no room for one.
* **`FanOut.length_full`**: those whose queue was full are exactly the entries that refused while
  their receiver was there, also when queues are shared.
* **`registry_broadcast_of_unshared`**: the survivors are the entries whose queue does not refuse.
* **`broadcast_exact`**: what becomes of every entry, of everything else and of the counters, for
  every order of the registry.
-/

namespace MarketGate

namespace Queue

/-- Whether there is a receiver, but no room. -/
def overflows (q : Queue) : Bool := q.hasReceiver && decide (q.capacity ≤ q.size)

lemma offer_eq_full_iff {q : Queue} {payload : Bytes} :
    q.offer payload = .error .full ↔ q.overflows = true := by
  unfold offer overflows
  by_cases hr : q.hasReceiver = true
  · by_cases hc : q.capacity ≤ q.size <;> simp [hr, hc]
  · simp [hr]

/-- A queue that refuses while its receiver is there has no room. -/
lemma overflows_eq (q : Queue) : q.overflows = (q.refuses && q.hasReceiver) := by
  unfold overflows refuses
  cases q.hasReceiver <;> simp

lemma hasReceiver_accept (payload : Bytes) (q : Queue) :
    (q.accept payload).hasReceiver = q.hasReceiver := by
  unfold accept
  split_ifs <;> rfl

/-- A queue with a receiver and with room accepts. -/
lemma refuses_eq_false_iff {q : Queue} :
    q.refuses = false ↔ q.hasReceiver = true ∧ q.pending.length < q.capacity := by
  simp [refuses]

end Queue

namespace Hub

/-- Whether somebody waits at the queue at a position. -/
def hearsAt (queues : List Queue) (key : Nat) : Bool := (queues[key]?).any Queue.hasReceiver

/-- Whether there is a receiver, but no room, at the queue at a position. -/
def overflowsAt (h : Hub) (key : Nat) : Bool := (h.queues[key]?).any Queue.overflows

lemma overflowsAt_eq (h : Hub) (key : Nat) :
    h.overflowsAt key = (h.refusesAt key && hearsAt h.queues key) := by
  unfold overflowsAt refusesAt hearsAt
  cases h.queues[key]? with
  | none => rfl
  | some q => simpa using q.overflows_eq

/-! ## Who is counted -/

namespace FanOut

variable (payload : Bytes)

/-- Offers do not make receivers come or go. -/
lemma hearsAt_step (f : FanOut) (e : Nat × Registration) (key : Nat) :
    hearsAt (f.step payload e).queues key = hearsAt f.queues key := by
  unfold hearsAt
  rw [queues_step]
  split_ifs
  · simp [Option.any_map, Queue.hasReceiver_accept]
  · rfl

lemma full_step (f : FanOut) (e : Nat × Registration) :
    (f.step payload e).full
      = f.full ++ if (f.queues[e.2.queue]?).any Queue.overflows then [e.1] else [] := by
  cases hq : f.queues[e.2.queue]? with
  | none => simp [step, hq]
  | some q =>
      cases ho : q.offer payload with
      | ok q' =>
          have hroom : ¬ q.overflows = true := fun hover => by
            rw [Queue.offer_eq_full_iff.2 hover] at ho
            cases ho
          simp [step, hq, ho, full, hroom]
      | error refusal =>
          cases refusal with
          | full => simp [step, hq, ho, full, Queue.offer_eq_full_iff.1 ho]
          | closed =>
              have hgone : ¬ q.overflows = true := fun hover => by
                rw [Queue.offer_eq_full_iff.2 hover] at ho
                cases ho
              simp [step, hq, ho, full, hgone]

/-- The numbers whose queue was full grow by the entries that refuse with a receiver. -/
lemma length_full_foldl {entries : List (Nat × Registration)}
    (hkeys : (entries.map Prod.fst).Nodup) (f : FanOut) (hnew : ∀ e ∈ entries, e.1 ∉ f.numbers) :
    (entries.foldl (step payload) f).full.length
      = f.full.length + entries.countP fun e =>
          decide (e.1 ∈ (entries.foldl (step payload) f).numbers)
            && hearsAt f.queues e.2.queue := by
  induction entries generalizing f with
  | nil => simp
  | cons e rest ih =>
      rw [List.map_cons, List.nodup_cons] at hkeys
      have hother : ∀ x ∈ rest, x.1 ≠ e.1 := fun x hx heq =>
        hkeys.1 (List.mem_map.2 ⟨x, hx, heq⟩)
      have hold : e.1 ∉ f.numbers := hnew e List.mem_cons_self
      have hrest : ∀ x ∈ rest, x.1 ∉ (f.step payload e).numbers := by
        intro x hx hmem
        rw [numbers_step, List.mem_append] at hmem
        rcases hmem with hmem | hmem
        · exact hnew x (List.mem_cons_of_mem _ hx) hmem
        · split_ifs at hmem
          · exact hother x hx (List.mem_singleton.1 hmem)
          · exact absurd hmem List.not_mem_nil
      -- what comes behind an entry neither adds its number nor takes it back
      have hmine : e.1 ∈ (rest.foldl (step payload) (f.step payload e)).numbers
          ↔ (f.queues[e.2.queue]?).any Queue.refuses = true := by
        rw [mem_numbers_foldl_of_ne payload hother, numbers_step]
        split_ifs with href <;> simp [hold, href]
      have hcount : ((f.queues[e.2.queue]?).any Queue.overflows)
          = (decide (e.1 ∈ (rest.foldl (step payload) (f.step payload e)).numbers)
            && hearsAt f.queues e.2.queue) := by
        simp only [hmine, Bool.decide_eq_true]
        exact overflowsAt_eq { queues := f.queues } e.2.queue
      rw [List.foldl_cons, ih hkeys.2 (f.step payload e) hrest, full_step, List.length_append,
        List.countP_cons, ← hcount]
      simp only [hearsAt_step]
      split_ifs
      · simp only [List.length_singleton]
        omega
      · simp

end FanOut

/-- **Those whose queue was full** are the entries that refused while their receiver was there. -/
theorem length_full_fanOut {h : Hub} (hs : h.Sound) (payload : Bytes) :
    (h.fanOut payload).full.length
      = h.registry.countP fun e =>
          decide (e.1 ∈ (h.fanOut payload).numbers) && hearsAt h.queues e.2.queue := by
  have hfold := FanOut.length_full_foldl payload hs.keys ⟨h.queues, []⟩ fun _ _ => by
    simp [FanOut.numbers]
  exact hfold.trans (Nat.zero_add _)

/-! ## Queues of one's own -/

/-- No two entries share a queue. -/
def Unshared (h : Hub) : Prop := (h.registry.map fun e => e.2.queue).Nodup

section Unshared

variable {h : Hub} (hs : h.Sound) (hown : h.Unshared)

include hown

lemma Unshared.sole {e : Nat × Registration} (he : e ∈ h.registry) : h.Sole e.1 e.2.queue := by
  intro x hx
  obtain ⟨r, hr, hkey⟩ := feeds_iff.1 hx
  have heq : (x, r) = e := List.inj_on_of_nodup_map hown (mem_of_entryAt? hr) he hkey
  exact congrArg Prod.fst heq

include hs

/-- A number refuses exactly when the queue of its entry does. -/
lemma Unshared.mem_numbers_iff {e : Nat × Registration} (he : e ∈ h.registry) (payload : Bytes) :
    e.1 ∈ (h.fanOut payload).numbers ↔ h.refusesAt e.2.queue = true :=
  (fanOut_of_sole hs payload (hs.entryAt?_eq_some_iff.2 he) (hown.sole he)).2

/-- **The survivors of a broadcast** are the entries whose queue does not refuse. -/
theorem registry_broadcast_of_unshared (payload : Bytes) :
    (h.broadcast payload).registry = h.registry.filter fun e => !h.refusesAt e.2.queue := by
  rw [registry_broadcast]
  refine List.filter_congr fun e he => ?_
  simp [hown.mem_numbers_iff hs he payload]

lemma length_full_of_unshared (payload : Bytes) :
    (h.fanOut payload).full.length = h.registry.countP fun e => h.overflowsAt e.2.queue := by
  rw [length_full_fanOut hs]
  refine List.countP_congr fun e he => ?_
  simp only [hown.mem_numbers_iff hs he payload, Bool.decide_eq_true, overflowsAt_eq]

/-- What a broadcast makes of a queue. -/
lemma queues_broadcast_of_unshared (payload : Bytes) (key : Nat) :
    (h.broadcast payload).queues[key]?
      = if ∃ e ∈ h.registry, e.2.queue = key then (h.queues[key]?).map (Queue.receive payload)
        else h.queues[key]? := by
  split_ifs with hfed
  · obtain ⟨e, he, rfl⟩ := hfed
    rw [queues_broadcast payload hs (hown.sole he),
      if_pos (feeds_iff.2 ⟨e.2, hs.entryAt?_eq_some_iff.2 he, rfl⟩)]
  · refine queues_broadcast_of_not_feeds payload hs fun x => ?_
    by_contra hx
    obtain ⟨r, hr, hkey⟩ := feeds_iff.1 (by simpa using hx)
    exact hfed ⟨(x, r), mem_of_entryAt? hr, hkey⟩

/-- What a broadcast makes of a connection. -/
lemma connections_broadcast_of_unshared (payload : Bytes) (key : Nat) :
    (h.broadcast payload).connections[key]?
      = if ∃ e ∈ h.registry, e.2.connection = key ∧ h.refusesAt e.2.queue = true
        then (h.connections[key]?).map Connection.beginDraining else h.connections[key]? := by
  rw [connections_broadcast_of_fanOut]
  refine if_congr ⟨?_, ?_⟩ rfl rfl
  · rintro ⟨x, hx, hseat⟩
    obtain ⟨r, hr, hkey⟩ := seats_iff.1 hseat
    have he : (x, r) ∈ h.registry := mem_of_entryAt? hr
    exact ⟨(x, r), he, hkey, (hown.mem_numbers_iff hs he payload).1 hx⟩
  · rintro ⟨e, he, hkey, href⟩
    exact ⟨e.1, (hown.mem_numbers_iff hs he payload).2 href,
      seats_iff.2 ⟨e.2, hs.entryAt?_eq_some_iff.2 he, hkey⟩⟩

omit hown in
/-- A survivor and an entry that is removed have different connections. -/
lemma refusesAt_eq_of_connection_eq {e x : Nat × Registration} (he : e ∈ h.registry)
    (hx : x ∈ h.registry) (heq : x.2.connection = e.2.connection) :
    h.refusesAt x.2.queue = h.refusesAt e.2.queue := by
  have hid : some x.1 = some e.1 := by rw [← hs.named x hx, heq, hs.named e he]
  obtain rfl : x = e := List.inj_on_of_nodup_map hs.keys hx he (Option.some.inj hid)
  rfl

end Unshared

/-! ## Every order -/

section Order

variable {h : Hub} {order : List (Nat × Registration)} (horder : order.Perm h.registry)

include horder

lemma Sound.of_perm (hs : h.Sound) : ({ h with registry := order } : Hub).Sound where
  keys := (horder.map Prod.fst).nodup_iff.2 hs.keys
  named e he := hs.named e (horder.mem_iff.1 he)

lemma Unshared.of_perm (hown : h.Unshared) : ({ h with registry := order } : Hub).Unshared :=
  (horder.map _).nodup_iff.2 hown

/-- **The order does not matter**: after a broadcast the registries have the same entries, and all
else is the same. -/
theorem broadcast_of_perm (hs : h.Sound) (hown : h.Unshared) (payload : Bytes) :
    let after := ({ h with registry := order } : Hub).broadcast payload
    after.registry.Perm (h.broadcast payload).registry
      ∧ after.connections = (h.broadcast payload).connections
      ∧ after.queues = (h.broadcast payload).queues
      ∧ after.metrics = (h.broadcast payload).metrics := by
  intro after
  have hs' := hs.of_perm horder
  have hown' := hown.of_perm horder
  have hregistry : after.registry.Perm (h.broadcast payload).registry := by
    rw [registry_broadcast_of_unshared hs hown, registry_broadcast_of_unshared hs' hown']
    exact horder.filter _
  refine ⟨hregistry, ?_, ?_, ?_⟩
  · refine List.ext_getElem? fun key => ?_
    rw [connections_broadcast_of_unshared hs hown, connections_broadcast_of_unshared hs' hown']
    exact if_congr (exists_congr fun e => and_congr_left fun _ => horder.mem_iff) rfl rfl
  · refine List.ext_getElem? fun key => ?_
    rw [queues_broadcast_of_unshared hs hown, queues_broadcast_of_unshared hs' hown']
    exact if_congr (exists_congr fun e => and_congr_left fun _ => horder.mem_iff) rfl rfl
  · have hgauge : after.metrics.activeConnections
        = (h.broadcast payload).metrics.activeConnections := by
      rw [(gauged_broadcast _ payload).2, (gauged_broadcast h payload).2, hregistry.length_eq,
        horder.length_eq]
    rw [metrics_broadcast_of_gauge h, metrics_broadcast_of_gauge, hgauge,
      length_full_of_unshared hs hown, length_full_of_unshared hs' hown', ← horder.countP_eq]
    rfl

end Order

/-- **What one broadcast does**, in whatever order it goes through the registry.  An entry whose
queue has a receiver and room stays, gets the message at the end of its queue, and its connection is
as it was.  Any other entry goes: its queue keeps what is in it and loses its sender, and its
connection drains if it was registered.  Nothing else changes but the counters: the gauge shows the
survivors, those who were there but had no room are counted, and so is the broadcast.  All orders
lead to the same state. -/
theorem broadcast_exact {h : Hub} (hs : h.Sound) (hc : h.Counted) (hown : h.Unshared)
    {order : List (Nat × Registration)} (horder : order.Perm h.registry) (payload : Bytes) :
    let after := ({ h with registry := order } : Hub).broadcast payload
    (∀ e ∈ h.registry, ∀ q c, h.queues[e.2.queue]? = some q →
        h.connections[e.2.connection]? = some c →
      if q.hasReceiver = true ∧ q.pending.length < q.capacity then
        e ∈ after.registry
          ∧ after.queues[e.2.queue]? = some { q with log := q.log ++ [payload] }
          ∧ after.connections[e.2.connection]? = some c
      else
        (∀ x ∈ after.registry, x.1 ≠ e.1)
          ∧ after.queues[e.2.queue]? = some { q with hasSender := false }
          ∧ after.connections[e.2.connection]?
              = some (if c.phase = .registered then { c with phase := .draining } else c))
      ∧ (∀ e ∈ after.registry, e ∈ h.registry)
      ∧ (∀ key, (∀ e ∈ h.registry, e.2.connection ≠ key) →
          after.connections[key]? = h.connections[key]?)
      ∧ (∀ key, (∀ e ∈ h.registry, e.2.queue ≠ key) → after.queues[key]? = h.queues[key]?)
      ∧ after.metrics = { h.metrics with
          activeConnections := after.registry.length
          backpressureDisconnects := h.metrics.backpressureDisconnects
            + h.registry.countP fun e => (h.queues[e.2.queue]?).any fun q =>
                q.hasReceiver && decide (q.capacity ≤ q.pending.length)
          broadcasts := h.metrics.broadcasts + 1 }
      ∧ after.registry.Perm (h.broadcast payload).registry
      ∧ after.connections = (h.broadcast payload).connections
      ∧ after.queues = (h.broadcast payload).queues
      ∧ after.metrics = (h.broadcast payload).metrics := by
  intro after
  obtain ⟨hregistry, hconnections, hqueues, hmetrics⟩ :=
    broadcast_of_perm horder hs hown payload
  have hstays : ∀ e, e ∈ after.registry ↔ e ∈ h.registry ∧ h.refusesAt e.2.queue = false := by
    intro e
    rw [hregistry.mem_iff, registry_broadcast_of_unshared hs hown, List.mem_filter,
      Bool.not_eq_true']
  refine ⟨?_, fun e he => ((hstays e).1 he).1, ?_, ?_, ?_, hregistry, hconnections, hqueues,
    hmetrics⟩
  · intro e he q c hq hconn
    have hqueue : after.queues[e.2.queue]? = some (q.receive payload) := by
      rw [hqueues, queues_broadcast_of_unshared hs hown, if_pos ⟨e, he, rfl⟩, hq]
      rfl
    have href : h.refusesAt e.2.queue = q.refuses := refusesAt_eq hq
    by_cases hfree : q.hasReceiver = true ∧ q.pending.length < q.capacity
    · rw [if_pos hfree]
      rw [← Queue.refuses_eq_false_iff] at hfree
      refine ⟨(hstays e).2 ⟨he, href.trans hfree⟩, ?_, ?_⟩
      · rw [hqueue]
        simp [Queue.receive, Queue.accept, hfree]
      · rw [hconnections, connections_broadcast_of_unshared hs hown, if_neg, hconn]
        rintro ⟨x, hx, hkey, hxref⟩
        rw [refusesAt_eq_of_connection_eq hs he hx hkey, href, hfree] at hxref
        exact Bool.noConfusion hxref
    · rw [if_neg hfree]
      rw [← Queue.refuses_eq_false_iff, Bool.not_eq_false] at hfree
      refine ⟨?_, ?_, ?_⟩
      · intro x hx heq
        obtain ⟨hold, hxref⟩ := (hstays x).1 hx
        obtain rfl : x = e := List.inj_on_of_nodup_map hs.keys hold he heq
        rw [href, hfree] at hxref
        exact Bool.noConfusion hxref
      · rw [hqueue]
        simp [Queue.receive, Queue.dropSender, hfree]
      · rw [hconnections, connections_broadcast_of_unshared hs hown,
          if_pos ⟨e, he, rfl, href.trans hfree⟩, hconn]
        rfl
  · intro key hkey
    rw [hconnections, connections_broadcast_of_unshared hs hown, if_neg]
    rintro ⟨e, he, heq, -⟩
    exact hkey e he heq
  · intro key hkey
    rw [hqueues, queues_broadcast_of_unshared hs hown, if_neg]
    rintro ⟨e, he, heq⟩
    exact hkey e he heq
  · rw [hmetrics, metrics_broadcast_eq hc, length_full_of_unshared hs hown, hregistry.length_eq]
    simp only [overflowsAt, Queue.length_pending]
    rfl

/-- Four clients: the first has room, the queues of the next two are full and the reader of one of
them is closing already, and the fourth does not listen any more. -/
def crowd : Hub where
  registry := [(1, ⟨0, 0⟩), (2, ⟨1, 1⟩), (3, ⟨2, 2⟩), (4, ⟨3, 3⟩)]
  connections :=
    [{ id := 1, phase := .registered }, { id := 2, phase := .registered },
      { id := 3, phase := .closing }, { id := 4, phase := .registered }]
  queues :=
    [{ capacity := 2, log := [[1]] }, { capacity := 1, log := [[1]] },
      { capacity := 1, log := [[1]] }, { capacity := 2, log := [[1]], hasReceiver := false }]
  metrics := { activeConnections := 4, registrations := 4, broadcasts := 1 }

/-- The last of them first: the first client is served, and of the three who leave two are counted
and two drain. -/
theorem broadcast_exact_of_crowd :
    let after := ({ crowd with registry := crowd.registry.reverse } : Hub).broadcast [2]
    (1, ⟨0, 0⟩) ∈ after.registry
      ∧ after.queues[0]? = some { capacity := 2, log := [[1], [2]] }
      ∧ after.connections[1]? = some { id := 2, phase := .draining }
      ∧ after.connections[2]? = some { id := 3, phase := .closing }
      ∧ after.connections[3]? = some { id := 4, phase := .draining }
      ∧ after.metrics.backpressureDisconnects = 2 := by
  intro after
  have hs : crowd.Sound := ⟨by decide, by decide⟩
  have hown : crowd.Unshared := by
    unfold Unshared
    decide
  obtain ⟨hentries, -, -, -, hmetrics, -⟩ :=
    broadcast_exact hs rfl hown (List.reverse_perm crowd.registry) [2]
  obtain ⟨hstays, hqueue, -⟩ := hentries (1, ⟨0, 0⟩) (by decide) _ _ rfl rfl
  obtain ⟨-, -, hsecond⟩ := hentries (2, ⟨1, 1⟩) (by decide) _ _ rfl rfl
  obtain ⟨-, -, hthird⟩ := hentries (3, ⟨2, 2⟩) (by decide) _ _ rfl rfl
  obtain ⟨-, -, hfourth⟩ := hentries (4, ⟨3, 3⟩) (by decide) _ _ rfl rfl
  exact ⟨hstays, hqueue, hsecond, hthird, hfourth,
    (congrArg Metrics.backpressureDisconnects hmetrics).trans rfl⟩

end Hub

end MarketGate
