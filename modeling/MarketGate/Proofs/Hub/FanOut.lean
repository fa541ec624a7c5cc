import MarketGate.Proofs.Hub.Registry

/-!
# Fan-outs, entry by entry

A broadcast offers its message to the queues of all entries in turn and then removes the entries
whose queue refused it.  For a queue that a single entry feeds, the other entries do not matter:
what becomes of it depends on that queue alone.

* `Queue.receive` is what becomes of such a queue: it takes the message, or loses its sender.
* `Hub.Sole` says that a queue is fed by the entry under one number at most.
* **`entryAt?_broadcast`**, **`queues_broadcast`**, **`connections_broadcast`**: what a broadcast
  does to the entry under a number, to a queue that it alone feeds and to its connection.
-/

namespace MarketGate

namespace Queue

/-- Whether a queue refuses messages: its receiver is gone, or it has no room. -/
def refuses (q : Queue) : Bool := !q.hasReceiver || decide (q.capacity ≤ q.size)

/-- What an offer makes of a queue. -/
def accept (payload : Bytes) (q : Queue) : Queue :=
  if q.refuses then q else { q with log := q.log ++ [payload] }

/-- What a broadcast makes of the queue of an entry. -/
def receive (payload : Bytes) (q : Queue) : Queue :=
  if q.refuses then q.dropSender else q.accept payload

lemma offer_eq_error_iff {q : Queue} {payload : Bytes} :
    (∃ refusal, q.offer payload = .error refusal) ↔ q.refuses = true := by
  unfold offer refuses
  by_cases hr : q.hasReceiver = true
  · by_cases hc : q.capacity ≤ q.size <;> simp [hr, hc]
  · simp [hr]

lemma offer_eq_ok {q q' : Queue} {payload : Bytes} (ho : q.offer payload = .ok q') :
    q.refuses = false ∧ q' = q.accept payload := by
  obtain ⟨hr, hc, rfl⟩ := offer_eq_ok_iff.1 ho
  have hfalse : q.refuses = false := by simp [refuses, hr, hc]
  exact ⟨hfalse, by simp [accept, hfalse]⟩

end Queue

namespace Hub

/-- Whether the queue at a position refuses messages; where there is no queue nothing is refused. -/
def refusesAt (h : Hub) (key : Nat) : Bool := (h.queues[key]?).any Queue.refuses

/-- No entry but the one under a number feeds the queue at a position. -/
def Sole (h : Hub) (id key : Nat) : Prop := ∀ x, h.feeds x key = true → x = id

lemma refusesAt_eq {h : Hub} {key : Nat} {q : Queue} (hq : h.queues[key]? = some q) :
    h.refusesAt key = q.refuses := by
  simp [refusesAt, hq]

/-! ## The fan-out -/

namespace FanOut

variable (payload : Bytes)

/-- The numbers that refused. -/
def numbers (f : FanOut) : List Nat := f.refused.map Prod.fst

/-- An entry whose queue refuses is noted, and nothing else happens. -/
lemma step_of_refuses {f : FanOut} {e : Nat × Registration} {q : Queue}
    (hq : f.queues[e.2.queue]? = some q) (href : q.refuses = true) :
    ∃ refusal, f.step payload e = { f with refused := f.refused ++ [(e.1, refusal)] } := by
  obtain ⟨refusal, ho⟩ : ∃ refusal, q.offer payload = .error refusal :=
    Queue.offer_eq_error_iff.2 href
  exact ⟨refusal, by simp only [step, hq, ho]⟩

/-- An entry whose queue does not refuse gets the message. -/
lemma step_of_not_refuses {f : FanOut} {e : Nat × Registration} {q : Queue}
    (hq : f.queues[e.2.queue]? = some q) (href : q.refuses = false) :
    f.step payload e = { f with queues := f.queues.set e.2.queue (q.accept payload) } := by
  cases ho : q.offer payload with
  | error refusal =>
      rw [Queue.offer_eq_error_iff.1 ⟨refusal, ho⟩] at href
      exact Bool.noConfusion href
  | ok q' =>
      obtain ⟨-, rfl⟩ := Queue.offer_eq_ok ho
      simp only [step, hq, ho]

lemma queues_step (f : FanOut) (e : Nat × Registration) (key : Nat) :
    (f.step payload e).queues[key]?
      = if e.2.queue = key then (f.queues[key]?).map (Queue.accept payload)
        else f.queues[key]? := by
  cases hq : f.queues[e.2.queue]? with
  | none =>
      simp only [step, hq]
      split_ifs with hkey
      · subst hkey
        simp [hq]
      · rfl
  | some q =>
      cases href : q.refuses with
      | true =>
          obtain ⟨refusal, hstep⟩ := step_of_refuses payload hq href
          rw [hstep]
          split_ifs with hkey
          · subst hkey
            simp [hq, Queue.accept, href]
          · rfl
      | false =>
          obtain ⟨hlt, -⟩ := List.getElem?_eq_some_iff.1 hq
          rw [step_of_not_refuses payload hq href]
          split_ifs with hkey
          · subst hkey
            rw [hq, List.getElem?_set_self hlt]
            rfl
          · simp [List.getElem?_set_ne hkey]

lemma length_queues_step (f : FanOut) (e : Nat × Registration) :
    (f.step payload e).queues.length = f.queues.length := by
  cases hq : f.queues[e.2.queue]? with
  | none => simp only [step, hq]
  | some q =>
      cases href : q.refuses with
      | true =>
          obtain ⟨refusal, hstep⟩ := step_of_refuses payload hq href
          rw [hstep]
      | false => simp [step_of_not_refuses payload hq href]

lemma numbers_step (f : FanOut) (e : Nat × Registration) :
    (f.step payload e).numbers
      = f.numbers ++ if (f.queues[e.2.queue]?).any Queue.refuses then [e.1] else [] := by
  cases hq : f.queues[e.2.queue]? with
  | none => simp [step, hq]
  | some q =>
      cases href : q.refuses with
      | true =>
          obtain ⟨refusal, hstep⟩ := step_of_refuses payload hq href
          simp [hstep, numbers, href]
      | false => simp [step_of_not_refuses payload hq href, numbers, href]

/-- Entries of other queues leave a queue alone. -/
lemma queues_foldl_of_ne {entries : List (Nat × Registration)} {key : Nat}
    (hne : ∀ e ∈ entries, e.2.queue ≠ key) (f : FanOut) :
    (entries.foldl (step payload) f).queues[key]? = f.queues[key]? := by
  induction entries generalizing f with
  | nil => rfl
  | cons e rest ih =>
      have htail := ih (fun x hx => hne x (List.mem_cons_of_mem _ hx)) (f.step payload e)
      rw [List.foldl_cons, htail, queues_step, if_neg (hne e List.mem_cons_self)]

/-- Entries under other numbers do not make a number refuse. -/
lemma mem_numbers_foldl_of_ne {entries : List (Nat × Registration)} {id : Nat}
    (hne : ∀ e ∈ entries, e.1 ≠ id) (f : FanOut) :
    id ∈ (entries.foldl (step payload) f).numbers ↔ id ∈ f.numbers := by
  induction entries generalizing f with
  | nil => rfl
  | cons e rest ih =>
      have htail := ih (fun x hx => hne x (List.mem_cons_of_mem _ hx)) (f.step payload e)
      have hid : e.1 ≠ id := hne e List.mem_cons_self
      rw [List.foldl_cons, htail, numbers_step]
      split_ifs <;> simp [hid.symm]

end FanOut

section FanOut

variable {h : Hub} (hs : h.Sound) (payload : Bytes)

include hs

/-- A queue that no entry feeds is left alone. -/
lemma queues_fanOut_of_not_feeds {key : Nat} (hkey : ∀ x, h.feeds x key = false) :
    (h.fanOut payload).queues[key]? = h.queues[key]? := by
  refine FanOut.queues_foldl_of_ne payload ?_ _
  intro e he heq
  have hfeeds : h.feeds e.1 key = true := feeds_iff.2 ⟨e.2, hs.entryAt?_eq_some_iff.2 he, heq⟩
  rw [hkey] at hfeeds
  exact Bool.noConfusion hfeeds

/-- A queue that one entry feeds gets one offer, and the entry is refused if the queue refused. -/
lemma fanOut_of_sole {id : Nat} {r : Registration} (he : h.entryAt? id = some r)
    (hsole : h.Sole id r.queue) :
    (h.fanOut payload).queues[r.queue]? = (h.queues[r.queue]?).map (Queue.accept payload)
      ∧ (id ∈ (h.fanOut payload).numbers ↔ h.refusesAt r.queue = true) := by
  obtain ⟨before, after, hsplit, hbefore⟩ := exists_split he
  have hafter : ∀ e ∈ after, e.1 ≠ id := by
    have hkeys := hs.keys
    rw [hsplit, List.map_append, List.nodup_append, List.map_cons, List.nodup_cons] at hkeys
    intro e hmem heq
    exact hkeys.2.1.1 (List.mem_map.2 ⟨e, hmem, heq⟩)
  -- an entry under another number feeds another queue
  have hother : ∀ e ∈ h.registry, e.1 ≠ id → e.2.queue ≠ r.queue := fun e hmem hne heq =>
    hne (hsole e.1 (feeds_iff.2 ⟨e.2, hs.entryAt?_eq_some_iff.2 hmem, heq⟩))
  have hqbefore : ∀ e ∈ before, e.2.queue ≠ r.queue := fun e hmem =>
    hother e (by simp [hsplit, hmem]) (hbefore e hmem)
  have hqafter : ∀ e ∈ after, e.2.queue ≠ r.queue := fun e hmem =>
    hother e (by simp [hsplit, hmem]) (hafter e hmem)
  have hreach : (before.foldl (FanOut.step payload) ⟨h.queues, []⟩).queues[r.queue]?
      = h.queues[r.queue]? := FanOut.queues_foldl_of_ne payload hqbefore _
  unfold fanOut
  rw [hsplit, List.foldl_append, List.foldl_cons]
  constructor
  · rw [FanOut.queues_foldl_of_ne payload hqafter, FanOut.queues_step, if_pos rfl, hreach]
  · rw [FanOut.mem_numbers_foldl_of_ne payload hafter, FanOut.numbers_step, List.mem_append,
      FanOut.mem_numbers_foldl_of_ne payload hbefore]
    simp only [hreach]
    unfold refusesAt
    split_ifs with href <;> simp [FanOut.numbers, href]

end FanOut

/-! ## The broadcast -/

section Broadcast

variable {h : Hub} (payload : Bytes)

/-- The hub between the fan-out and the removals that follow. -/
private def served (h : Hub) (payload : Bytes) : Hub :=
  { h with
    queues := (h.fanOut payload).queues
    metrics := { h.metrics with
      backpressureDisconnects :=
        h.metrics.backpressureDisconnects + (h.fanOut payload).full.length } }

/-- A broadcast is a fan-out, the removal of those who refused, and one more in the count. -/
private lemma broadcast_eq :
    h.broadcast payload
      = ((h.served payload).unregisterAll (h.fanOut payload).numbers).onMetrics
          fun m => { m with broadcasts := m.broadcasts + 1 } := by
  simp only [unregisterAll, FanOut.numbers, List.foldl_map]
  rfl

lemma length_queues_broadcast : (h.broadcast payload).queues.length = h.queues.length := by
  rw [broadcast_eq]
  refine (length_queues_unregisterAll _ (h.served payload)).trans ?_
  have hfold : ∀ (entries : List (Nat × Registration)) (f : FanOut),
      (entries.foldl (FanOut.step payload) f).queues.length = f.queues.length := by
    intro entries
    induction entries with
    | nil => exact fun f => rfl
    | cons e rest ih => exact fun f => (ih _).trans (FanOut.length_queues_step payload f e)
  exact hfold h.registry _

lemma Sound.broadcast (hs : h.Sound) : (h.broadcast payload).Sound := by
  rw [broadcast_eq]
  have hserved : (h.served payload).Sound :=
    hs.of_sublist (List.Sublist.refl _) fun _ _ hid => hid
  exact (hserved.unregisterAll _).of_sublist (List.Sublist.refl _) fun _ _ hid => hid

/-- What a broadcast leaves of the registry. -/
theorem entryAt?_broadcast (id : Nat) :
    (h.broadcast payload).entryAt? id
      = if id ∈ (h.fanOut payload).numbers then none else h.entryAt? id := by
  rw [broadcast_eq]
  exact entryAt?_unregisterAll _ (h.served payload) id

/-- The entries that a broadcast leaves stand in their order. -/
lemma registry_broadcast :
    (h.broadcast payload).registry
      = h.registry.filter fun e => decide (e.1 ∉ (h.fanOut payload).numbers) := by
  rw [broadcast_eq]
  exact registry_unregisterAll _ (h.served payload)

/-- A broadcast at the queue at a position, in terms of the numbers that refused. -/
lemma queues_broadcast_of_fanOut (key : Nat) :
    (h.broadcast payload).queues[key]?
      = if ∃ id ∈ (h.fanOut payload).numbers, h.feeds id key = true
        then ((h.fanOut payload).queues[key]?).map Queue.dropSender
        else (h.fanOut payload).queues[key]? := by
  rw [broadcast_eq]
  exact queues_unregisterAll _ (h.served payload) key

lemma connections_broadcast_of_fanOut (key : Nat) :
    (h.broadcast payload).connections[key]?
      = if ∃ id ∈ (h.fanOut payload).numbers, h.seats id key = true
        then (h.connections[key]?).map Connection.beginDraining else h.connections[key]? := by
  rw [broadcast_eq]
  exact connections_unregisterAll _ (h.served payload) key

lemma idAt_broadcast (key : Nat) : (h.broadcast payload).idAt key = h.idAt key :=
  idAt_of_map id_beginDraining (connections_broadcast_of_fanOut payload key)

/-- An entry survives a broadcast exactly when its queue does not refuse. -/
theorem entryAt?_broadcast_of_sole (hs : h.Sound) {id : Nat} {r : Registration}
    (he : h.entryAt? id = some r) (hsole : h.Sole id r.queue) :
    (h.broadcast payload).entryAt? id = if h.refusesAt r.queue then none else some r := by
  rw [entryAt?_broadcast, he]
  have hmem := (fanOut_of_sole hs payload he hsole).2
  by_cases href : h.refusesAt r.queue = true <;> simp [hmem, href]

/-- A queue that no entry feeds takes no part in a broadcast. -/
theorem queues_broadcast_of_not_feeds (hs : h.Sound) {key : Nat}
    (hkey : ∀ x, h.feeds x key = false) :
    (h.broadcast payload).queues[key]? = h.queues[key]? := by
  rw [queues_broadcast_of_fanOut, queues_fanOut_of_not_feeds hs payload hkey, if_neg]
  rintro ⟨x, -, hx⟩
  rw [hkey] at hx
  exact Bool.noConfusion hx

/-- **What a broadcast does to a queue** that one entry feeds at most. -/
theorem queues_broadcast (hs : h.Sound) {id key : Nat} (hsole : h.Sole id key) :
    (h.broadcast payload).queues[key]?
      = if h.feeds id key then (h.queues[key]?).map (Queue.receive payload)
        else h.queues[key]? := by
  by_cases hfeeds : h.feeds id key = true
  · obtain ⟨r, he, rfl⟩ := feeds_iff.1 hfeeds
    obtain ⟨hqueue, hmem⟩ := fanOut_of_sole hs payload he hsole
    have hiff : (∃ x ∈ (h.fanOut payload).numbers, h.feeds x r.queue = true)
        ↔ h.refusesAt r.queue = true := by
      rw [← hmem]
      constructor
      · rintro ⟨x, hx, hxfeeds⟩
        rwa [hsole x hxfeeds] at hx
      · exact fun hid => ⟨id, hid, hfeeds⟩
    simp only [queues_broadcast_of_fanOut, hiff, hqueue, hfeeds, if_true]
    cases hq : h.queues[r.queue]? with
    | none => simp
    | some q =>
        rw [refusesAt_eq hq]
        by_cases href : q.refuses = true <;> simp [Queue.receive, Queue.accept, href]
  · have hnone : ∀ x, h.feeds x key = false := by
      intro x
      by_contra hx
      have hx : h.feeds x key = true := by simpa using hx
      exact hfeeds (hsole x hx ▸ hx)
    rw [queues_broadcast_of_not_feeds payload hs hnone]
    simp [hnone]

/-- **What a broadcast does to a connection**: it drains if its entry is refused. -/
theorem connections_broadcast (hs : h.Sound) {key : Nat} {c : Connection}
    (hc : h.connections[key]? = some c)
    (hsole : ∀ r, h.entryAt? c.id = some r → h.Sole c.id r.queue) :
    (h.broadcast payload).connections[key]?
      = some (if (h.entryAt? c.id).any (fun r => r.connection == key && h.refusesAt r.queue)
          then c.beginDraining else c) := by
  have hiff : (∃ x ∈ (h.fanOut payload).numbers, h.seats x key = true)
      ↔ (h.entryAt? c.id).any (fun r => r.connection == key && h.refusesAt r.queue) = true := by
    constructor
    · rintro ⟨x, hx, hseat⟩
      have hid : h.idAt key = some x := hs.idAt_of_seats hseat
      simp only [idAt, hc, Option.map_some, Option.some.injEq] at hid
      subst hid
      obtain ⟨r, he, hkey⟩ := seats_iff.1 hseat
      have href := (fanOut_of_sole hs payload he (hsole r he)).2.1 hx
      simp [he, hkey, href]
    · intro hany
      obtain ⟨r, he, hand⟩ := Option.any_eq_true _ _ |>.1 hany
      obtain ⟨hkey, href⟩ : r.connection = key ∧ h.refusesAt r.queue = true := by simpa using hand
      exact ⟨c.id, (fanOut_of_sole hs payload he (hsole r he)).2.2 href,
        seats_iff.2 ⟨r, he, hkey⟩⟩
  simp only [connections_broadcast_of_fanOut, hiff, hc]
  split_ifs <;> rfl

end Broadcast

end Hub

end MarketGate
