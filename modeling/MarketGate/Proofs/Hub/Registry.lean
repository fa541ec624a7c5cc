import Mathlib.Data.List.Nodup
import MarketGate.Hub

/-!
# The registry, entry by entry

What the commands of the hub do is stated in `MarketGate.Hub` for the whole state.  Nobody outside
sees the whole state: a client sees its own entry, its own connection and its own queue.  This file
says what registering, removing and the end of the hub do to one of each.

* `Hub.entryAt?` is the entry under a number.  `Hub.feeds` and `Hub.seats` say whether that entry
  belongs to a given queue, or to a given connection.
* **`entryAt?_register`**, **`entryAt?_unregister`**: what becomes of the entry under a number.
* `queues_*` and `connections_*`: what becomes of the queue and of the connection at a position.

Fan-outs take more work and have a file of their own, `MarketGate.Proofs.Hub.FanOut`.
-/

namespace MarketGate

namespace Queue

/-- Losing the sender twice is losing it once. -/
@[simp] lemma dropSender_dropSender (q : Queue) : q.dropSender.dropSender = q.dropSender := rfl

@[simp] lemma log_dropSender (q : Queue) : q.dropSender.log = q.log := rfl

@[simp] lemma pending_dropSender (q : Queue) : q.dropSender.pending = q.pending := rfl

end Queue

/-- A connection that drains goes on draining. -/
@[simp] lemma Connection.beginDraining_beginDraining (c : Connection) :
    c.beginDraining.beginDraining = c.beginDraining := by
  unfold beginDraining
  rw [exchange_of_ne]
  rw [phase_exchange]
  split_ifs with h
  · simp
  · exact h

namespace Hub

/-- The entry under a number. -/
def entryAt? (h : Hub) (id : Nat) : Option Registration := h.registry.lookup id

/-- Whether the entry under a number belongs to the queue at a position. -/
def feeds (h : Hub) (id key : Nat) : Bool := (h.entryAt? id).any fun r => r.queue == key

/-- Whether the entry under a number belongs to the connection at a position. -/
def seats (h : Hub) (id key : Nat) : Bool := (h.entryAt? id).any fun r => r.connection == key

lemma feeds_iff {h : Hub} {id key : Nat} :
    h.feeds id key = true ↔ ∃ r, h.entryAt? id = some r ∧ r.queue = key := by
  simp [feeds, Option.any_eq_true]

lemma seats_iff {h : Hub} {id key : Nat} :
    h.seats id key = true ↔ ∃ r, h.entryAt? id = some r ∧ r.connection = key := by
  simp [seats, Option.any_eq_true]

lemma entryAt?_eq_none_iff {h : Hub} {id : Nat} :
    h.entryAt? id = none ↔ ∀ e ∈ h.registry, e.1 ≠ id := by
  simp only [entryAt?, List.lookup_eq_none_iff, bne_iff_ne]
  exact forall₂_congr fun e _ => ne_comm

lemma isRegistered_eq (h : Hub) (id : Nat) : h.isRegistered id = (h.entryAt? id).isSome := by
  rw [Bool.eq_iff_iff, ← not_iff_not]
  simp only [Bool.not_eq_true, Option.isSome_eq_false_iff, Option.isNone_iff_eq_none,
    entryAt?_eq_none_iff, isRegistered, List.any_eq_false, beq_iff_eq, ne_eq]

/-- The entry under a number, with all entries before and behind it. -/
lemma exists_split {h : Hub} {id : Nat} {r : Registration} (he : h.entryAt? id = some r) :
    ∃ before after, h.registry = before ++ (id, r) :: after ∧ ∀ e ∈ before, e.1 ≠ id := by
  obtain ⟨before, after, hsplit, hbefore⟩ := List.lookup_eq_some_iff.1 he
  exact ⟨before, after, hsplit, fun e hmem => (bne_iff_ne.1 (hbefore e hmem)).symm⟩

lemma mem_of_entryAt? {h : Hub} {id : Nat} {r : Registration} (he : h.entryAt? id = some r) :
    (id, r) ∈ h.registry := by
  obtain ⟨before, after, hsplit, -⟩ := exists_split he
  simp [hsplit]

/-! ## The registry as a map -/

/-- The number of the connection at a position. -/
def idAt (h : Hub) (key : Nat) : Option Nat := (h.connections[key]?).map fun c => c.id

/-- No number is taken twice, and every entry stands under the number of its connection. -/
structure Sound (h : Hub) : Prop where
  keys : (h.registry.map Prod.fst).Nodup
  named : ∀ e ∈ h.registry, h.idAt e.2.connection = some e.1

/-- In a sound hub the entries are exactly what can be looked up. -/
lemma Sound.entryAt?_eq_some_iff {h : Hub} (hs : h.Sound) {id : Nat} {r : Registration} :
    h.entryAt? id = some r ↔ (id, r) ∈ h.registry := by
  refine ⟨mem_of_entryAt?, ?_⟩
  intro hmem
  obtain ⟨before, after, hsplit⟩ := List.append_of_mem hmem
  refine List.lookup_eq_some_iff.2 ⟨before, after, hsplit, ?_⟩
  intro e he
  have hkeys := hs.keys
  rw [hsplit, List.map_append, List.nodup_append] at hkeys
  exact bne_iff_ne.2 (hkeys.2.2 e.1 (List.mem_map_of_mem he) id (by simp)).symm

/-- A connection is seated under its own number only. -/
lemma Sound.idAt_of_seats {h : Hub} (hs : h.Sound) {id key : Nat}
    (hseat : h.seats id key = true) : h.idAt key = some id := by
  obtain ⟨r, he, rfl⟩ := seats_iff.1 hseat
  exact hs.named _ (mem_of_entryAt? he)

/-! ## Registering -/

section Register

variable {h : Hub} {r : Registration} {c : Connection}

/-- A registration whose connection is nowhere does nothing. -/
lemma register_of_none (hc : h.connections[r.connection]? = none) : h.register r = h := by
  simp [register, hc]

/-- A registration under a number that is taken drops the sender that it brings. -/
lemma register_of_taken (hc : h.connections[r.connection]? = some c)
    (htaken : h.isRegistered c.id = true) :
    h.register r = h.onQueue r.queue Queue.dropSender := by
  simp [register, hc, htaken]

/-- A registration under a free number, part by part. -/
lemma register_of_free (hc : h.connections[r.connection]? = some c)
    (hfree : h.isRegistered c.id = false) :
    (h.register r).registry = h.registry ++ [(c.id, r)]
      ∧ (h.register r).queues = h.queues
      ∧ (h.register r).connections
          = h.connections.modify r.connection Connection.markRegistered := by
  simp only [register, hc, hfree]
  exact ⟨rfl, rfl, rfl⟩

/-- Only a free number gets a new entry. -/
theorem entryAt?_register (hc : h.connections[r.connection]? = some c) (id : Nat) :
    (h.register r).entryAt? id
      = if h.isRegistered c.id = false ∧ id = c.id then some r else h.entryAt? id := by
  by_cases hfree : h.isRegistered c.id = false
  · rw [entryAt?, (register_of_free hc hfree).1, List.lookup_append]
    have hnone : h.registry.lookup c.id = none := by
      simpa [isRegistered_eq, entryAt?] using hfree
    by_cases hid : id = c.id
    · subst hid
      simp [hnone, hfree]
    · have hbeq : (id == c.id) = false := by simpa using hid
      simp [hid, entryAt?, List.lookup_cons, hbeq]
  · rw [register_of_taken hc (by simpa using hfree)]
    rw [if_neg fun hand => hfree hand.1]
    rfl

/-- A queue is touched only by a registration that is refused. -/
lemma queues_register (key : Nat) :
    (h.register r).queues[key]?
      = if r.queue = key ∧ (∃ c, h.connections[r.connection]? = some c
          ∧ h.isRegistered c.id = true)
        then (h.queues[key]?).map Queue.dropSender else h.queues[key]? := by
  cases hc : h.connections[r.connection]? with
  | none => simp [register_of_none hc]
  | some c =>
      cases htaken : h.isRegistered c.id with
      | false => simp [(register_of_free hc htaken).2.1, htaken]
      | true =>
          rw [register_of_taken hc htaken]
          by_cases hkey : r.queue = key
          · simp [onQueue, hkey, htaken]
          · simp [onQueue, hkey]

/-- A connection is touched only by its own registration. -/
lemma connections_register (key : Nat) :
    (h.register r).connections[key]?
      = if r.connection = key ∧ (∃ c, h.connections[key]? = some c ∧ h.isRegistered c.id = false)
        then (h.connections[key]?).map Connection.markRegistered else h.connections[key]? := by
  cases hc : h.connections[r.connection]? with
  | none =>
      rw [register_of_none hc, if_neg]
      rintro ⟨rfl, c, hc', -⟩
      simp [hc] at hc'
  | some c =>
      cases htaken : h.isRegistered c.id with
      | false =>
          rw [(register_of_free hc htaken).2.2, List.getElem?_modify]
          by_cases hkey : r.connection = key
          · subst hkey
            simp [hc, htaken]
          · simp [hkey]
      | true =>
          rw [register_of_taken hc htaken, if_neg]
          · rfl
          · rintro ⟨rfl, c', hc', hfree⟩
            rw [hc] at hc'
            cases hc'
            simp [htaken] at hfree

lemma length_queues_register (h : Hub) (r : Registration) :
    (h.register r).queues.length = h.queues.length := by
  cases hc : h.connections[r.connection]? with
  | none => rw [register_of_none hc]
  | some c =>
      cases htaken : h.isRegistered c.id with
      | false => rw [(register_of_free hc htaken).2.1]
      | true => simp [register_of_taken hc htaken, onQueue]

end Register

/-! ## Removing -/

section Unregister

variable (h : Hub) (id : Nat)

/-- Removing leaves the entries under other numbers, in their order. -/
lemma registry_unregister :
    (h.unregister id).registry = h.registry.filter fun e => e.1 != id := by
  unfold unregister
  cases he : h.registry.lookup id with
  | none =>
      refine (List.filter_eq_self.2 ?_).symm
      intro e hmem
      exact bne_iff_ne.2 (entryAt?_eq_none_iff.1 he e hmem)
  | some r => rfl

/-- What removing the entry under a number does to a queue. -/
lemma queues_unregister (key : Nat) :
    (h.unregister id).queues[key]?
      = if h.feeds id key then (h.queues[key]?).map Queue.dropSender else h.queues[key]? := by
  unfold unregister feeds entryAt?
  cases he : h.registry.lookup id with
  | none => simp
  | some r =>
      by_cases hkey : r.queue = key
      · simp [release, onQueue, onConnection, gauge, onMetrics, hkey]
      · simp [release, onQueue, onConnection, gauge, onMetrics, hkey]

/-- What removing the entry under a number does to a connection. -/
lemma connections_unregister (key : Nat) :
    (h.unregister id).connections[key]?
      = if h.seats id key then (h.connections[key]?).map Connection.beginDraining
        else h.connections[key]? := by
  unfold unregister seats entryAt?
  cases he : h.registry.lookup id with
  | none => simp
  | some r =>
      by_cases hkey : r.connection = key
      · simp [release, onQueue, onConnection, gauge, onMetrics, hkey]
      · simp [release, onQueue, onConnection, gauge, onMetrics, hkey]

/-- After a removal nothing stands under its number, and all else stands where it stood. -/
theorem entryAt?_unregister (x : Nat) :
    (h.unregister id).entryAt? x = if x = id then none else h.entryAt? x := by
  split_ifs with hx
  · rw [entryAt?_eq_none_iff, registry_unregister]
    intro e hmem
    rw [hx]
    exact bne_iff_ne.1 (List.mem_filter.1 hmem).2
  · rw [entryAt?, registry_unregister, entryAt?]
    induction h.registry with
    | nil => rfl
    | cons e rest ih =>
        obtain ⟨number, r⟩ := e
        by_cases he : number = id
        · have hxe : (x == number) = false := by simpa [he] using hx
          rw [List.filter_cons_of_neg (by simpa using he), List.lookup_cons, hxe, ih]
        · rw [List.filter_cons_of_pos (by simpa using he), List.lookup_cons, List.lookup_cons, ih]

lemma feeds_unregister (x key : Nat) :
    (h.unregister id).feeds x key = (decide (x ≠ id) && h.feeds x key) := by
  by_cases hx : x = id <;> simp [feeds, entryAt?_unregister, hx]

lemma seats_unregister (x key : Nat) :
    (h.unregister id).seats x key = (decide (x ≠ id) && h.seats x key) := by
  by_cases hx : x = id <;> simp [seats, entryAt?_unregister, hx]

end Unregister

/-! ## Removing several, one after the other -/

section UnregisterAll

/-- Removes the connections with the given numbers. -/
def unregisterAll (ids : List Nat) (h : Hub) : Hub := ids.foldl (fun h id => h.unregister id) h

/-- Removing several leaves the entries under other numbers, in their order. -/
lemma registry_unregisterAll (ids : List Nat) (h : Hub) :
    (h.unregisterAll ids).registry = h.registry.filter fun e => decide (e.1 ∉ ids) := by
  induction ids generalizing h with
  | nil => simp [unregisterAll]
  | cons id rest ih =>
      have hstep : (h.unregisterAll (id :: rest)).registry
          = ((h.unregister id).unregisterAll rest).registry := rfl
      rw [hstep, ih, registry_unregister, List.filter_filter]
      refine List.filter_congr fun e _ => ?_
      by_cases he : e.1 = id <;> simp [he]

lemma entryAt?_unregisterAll (ids : List Nat) (h : Hub) (x : Nat) :
    (h.unregisterAll ids).entryAt? x = if x ∈ ids then none else h.entryAt? x := by
  induction ids generalizing h with
  | nil => simp [unregisterAll]
  | cons id rest ih =>
      have hstep : (h.unregisterAll (id :: rest)).entryAt? x
          = ((h.unregister id).unregisterAll rest).entryAt? x := rfl
      rw [hstep, ih, entryAt?_unregister]
      by_cases hx : x = id <;> simp [hx]

/-- A part of the hub that a removal acts on when it belongs to the entry removed, and that a
second removal would find already acted on. -/
lemma part_unregisterAll {α : Type} (part : Hub → α) (act : α → α) (owns : Hub → Nat → Bool)
    (hpart : ∀ h id, part (h.unregister id) = if owns h id then act (part h) else part h)
    (howns : ∀ h id x, owns (h.unregister id) x = (decide (x ≠ id) && owns h x))
    (hact : ∀ a, act (act a) = act a) (ids : List Nat) (h : Hub) :
    part (h.unregisterAll ids) = if ∃ id ∈ ids, owns h id = true then act (part h) else part h := by
  induction ids generalizing h with
  | nil => simp [unregisterAll]
  | cons id rest ih =>
      have hstep : part (h.unregisterAll (id :: rest))
          = part ((h.unregister id).unregisterAll rest) := rfl
      rw [hstep, ih, hpart]
      by_cases hid : owns h id = true
      · simp only [hid, if_true, hact, ite_self, List.exists_mem_cons_iff, true_or]
      · have hrest : (∃ x ∈ rest, owns (h.unregister id) x = true)
            ↔ ∃ x ∈ rest, owns h x = true := by
          refine exists_congr fun x => and_congr_right ?_
          intro _
          rw [howns, Bool.and_eq_true, decide_eq_true_iff]
          exact ⟨fun hx => hx.2, fun hx => ⟨fun heq => hid (heq ▸ hx), hx⟩⟩
        simp only [hid, hrest, List.exists_mem_cons_iff, Bool.false_eq_true, if_false, false_or]

lemma queues_unregisterAll (ids : List Nat) (h : Hub) (key : Nat) :
    (h.unregisterAll ids).queues[key]?
      = if ∃ id ∈ ids, h.feeds id key = true
        then (h.queues[key]?).map Queue.dropSender else h.queues[key]? := by
  refine part_unregisterAll (fun h => h.queues[key]?) (Option.map Queue.dropSender)
    (fun h id => h.feeds id key) (fun h id => queues_unregister h id key)
    (fun h id x => feeds_unregister h id x key) ?_ ids h
  intro a
  cases a <;> rfl

lemma length_queues_unregister (h : Hub) (id : Nat) :
    (h.unregister id).queues.length = h.queues.length := by
  unfold unregister
  cases h.registry.lookup id with
  | none => rfl
  | some r => simp [release, onQueue, onConnection, gauge, onMetrics]

lemma length_queues_unregisterAll (ids : List Nat) (h : Hub) :
    (h.unregisterAll ids).queues.length = h.queues.length := by
  induction ids generalizing h with
  | nil => rfl
  | cons id rest ih => exact (ih (h.unregister id)).trans (length_queues_unregister h id)

lemma connections_unregisterAll (ids : List Nat) (h : Hub) (key : Nat) :
    (h.unregisterAll ids).connections[key]?
      = if ∃ id ∈ ids, h.seats id key = true
        then (h.connections[key]?).map Connection.beginDraining else h.connections[key]? := by
  refine part_unregisterAll (fun h => h.connections[key]?) (Option.map Connection.beginDraining)
    (fun h id => h.seats id key) (fun h id => connections_unregister h id key)
    (fun h id x => seats_unregister h id x key) ?_ ids h
  intro a
  cases a <;> simp

end UnregisterAll

/-! ## The end of the hub -/

section Stop

/-- What is done for each of a list in turn, on a part that reacts to it only once. -/
lemma part_foldl {α β : Type} (part : Hub → α) (act : α → α) (f : Hub → β → Hub)
    (owns : β → Prop) [DecidablePred owns]
    (hpart : ∀ h b, part (f h b) = if owns b then act (part h) else part h)
    (hact : ∀ a, act (act a) = act a) (list : List β) (h : Hub) :
    part (list.foldl f h) = if ∃ b ∈ list, owns b then act (part h) else part h := by
  induction list generalizing h with
  | nil => simp
  | cons b rest ih =>
      rw [List.foldl_cons, ih, hpart]
      by_cases hb : owns b
      · simp only [hb, if_true, hact, ite_self, List.exists_mem_cons_iff, true_or]
      · simp only [hb, List.exists_mem_cons_iff, if_false, false_or]

lemma entryAt?_stop (h : Hub) (id : Nat) : h.stop.entryAt? id = none := rfl

lemma queues_stop (h : Hub) (key : Nat) :
    h.stop.queues[key]?
      = if ∃ e ∈ h.registry, e.2.queue = key
        then (h.queues[key]?).map Queue.dropSender else h.queues[key]? := by
  refine part_foldl (fun h => h.queues[key]?) (Option.map Queue.dropSender)
    (fun h e => h.release e.2) (fun e => e.2.queue = key) ?_
    (fun a => by cases a <;> rfl) h.registry h
  intro h e
  by_cases hkey : e.2.queue = key <;> simp [release, onQueue, onConnection, hkey]

lemma connections_stop (h : Hub) (key : Nat) :
    h.stop.connections[key]?
      = if ∃ e ∈ h.registry, e.2.connection = key
        then (h.connections[key]?).map Connection.beginDraining else h.connections[key]? := by
  refine part_foldl (fun h => h.connections[key]?) (Option.map Connection.beginDraining)
    (fun h e => h.release e.2) (fun e => e.2.connection = key) ?_
    (fun a => by cases a <;> simp) h.registry h
  intro h e
  by_cases hkey : e.2.connection = key <;> simp [release, onQueue, onConnection, hkey]

lemma length_queues_stop (h : Hub) : h.stop.queues.length = h.queues.length := by
  have hfold := part_foldl (fun h => h.queues.length) id (fun h e => h.release e.2)
    (fun _ => False) (fun h e => by simp [release, onQueue, onConnection]) (fun _ => rfl)
    h.registry h
  exact hfold.trans (ite_self _)

lemma queues_abandon (h : Hub) (key : Nat) :
    h.abandon.queues[key]?
      = if ∃ e ∈ h.registry, e.2.queue = key
        then (h.queues[key]?).map Queue.dropSender else h.queues[key]? := by
  refine part_foldl (fun h => h.queues[key]?) (Option.map Queue.dropSender)
    (fun h e => h.onQueue e.2.queue Queue.dropSender) (fun e => e.2.queue = key) ?_
    (fun a => by cases a <;> rfl) h.registry h
  intro h e
  by_cases hkey : e.2.queue = key <;> simp [onQueue, hkey]

lemma length_queues_abandon (h : Hub) : h.abandon.queues.length = h.queues.length := by
  have hfold := part_foldl (fun h => h.queues.length) id
    (fun h e => h.onQueue e.2.queue Queue.dropSender) (fun _ => False)
    (fun h e => by simp [onQueue]) (fun _ => rfl) h.registry h
  exact hfold.trans (ite_self _)

lemma connections_abandon (h : Hub) : h.abandon.connections = h.connections := by
  have hfold := part_foldl (fun h => h.connections) id
    (fun h e => h.onQueue e.2.queue Queue.dropSender) (fun _ => False)
    (fun h e => by simp [onQueue]) (fun _ => rfl) h.registry h
  exact hfold.trans (ite_self _)

end Stop

/-! ## Soundness is kept -/

section Sound

variable {h h' : Hub}

/-- The numbers of connections do not change when connections are changed one by one. -/
lemma idAt_of_map {f : Connection → Connection} (hf : ∀ c, (f c).id = c.id) {key : Nat}
    {p : Prop} [Decidable p]
    (hconn : h'.connections[key]? = if p then (h.connections[key]?).map f
      else h.connections[key]?) : h'.idAt key = h.idAt key := by
  unfold idAt
  rw [hconn]
  split_ifs
  · simp [Option.map_map, Function.comp_def, hf]
  · rfl

lemma id_markRegistered (c : Connection) : c.markRegistered.id = c.id :=
  Connection.id_exchange c _ _

lemma id_beginDraining (c : Connection) : c.beginDraining.id = c.id :=
  Connection.id_exchange c _ _

lemma idAt_register (h : Hub) (r : Registration) (key : Nat) :
    (h.register r).idAt key = h.idAt key :=
  idAt_of_map id_markRegistered (connections_register key)

lemma idAt_unregister (h : Hub) (id key : Nat) : (h.unregister id).idAt key = h.idAt key :=
  idAt_of_map id_beginDraining (connections_unregister h id key)

lemma idAt_stop (h : Hub) (key : Nat) : h.stop.idAt key = h.idAt key :=
  idAt_of_map id_beginDraining (connections_stop h key)

/-- Fewer entries over connections with the same numbers are still a map. -/
lemma Sound.of_sublist (hs : h.Sound) (hsub : h'.registry.Sublist h.registry)
    (hid : ∀ key id, h.idAt key = some id → h'.idAt key = some id) : h'.Sound where
  keys := hs.keys.sublist (hsub.map Prod.fst)
  named e he := hid _ _ (hs.named e (hsub.subset he))

lemma Sound.register (hs : h.Sound) (r : Registration) : (h.register r).Sound := by
  cases hc : h.connections[r.connection]? with
  | none => rwa [register_of_none hc]
  | some c =>
      cases htaken : h.isRegistered c.id with
      | true =>
          rw [register_of_taken hc htaken]
          exact hs.of_sublist (List.Sublist.refl _) fun _ _ hid => hid
      | false =>
          have hfree : ∀ e ∈ h.registry, e.1 ≠ c.id :=
            entryAt?_eq_none_iff.1 (by simpa [isRegistered_eq] using htaken)
          constructor
          · rw [(register_of_free hc htaken).1, List.map_append, List.nodup_append]
            refine ⟨hs.keys, by simp, ?_⟩
            intro id hid x hx
            obtain ⟨e, he, rfl⟩ := List.mem_map.1 hid
            obtain rfl : x = c.id := by simpa using hx
            exact hfree e he
          · intro e he
            rw [idAt_register]
            rw [(register_of_free hc htaken).1, List.mem_append, List.mem_singleton] at he
            rcases he with he | rfl
            · exact hs.named e he
            · simp [idAt, hc]

lemma Sound.unregister (hs : h.Sound) (id : Nat) : (h.unregister id).Sound := by
  refine hs.of_sublist ?_ fun key x hid => by rwa [idAt_unregister]
  rw [registry_unregister]
  exact List.filter_sublist

lemma Sound.unregisterAll (hs : h.Sound) (ids : List Nat) : (h.unregisterAll ids).Sound := by
  induction ids generalizing h with
  | nil => exact hs
  | cons id rest ih => exact ih (hs.unregister id)

lemma Sound.stop (h : Hub) : h.stop.Sound where
  keys := List.nodup_nil
  named _ he := absurd he List.not_mem_nil

end Sound

end Hub

end MarketGate
