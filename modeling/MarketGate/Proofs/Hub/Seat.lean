import MarketGate.Proofs.Hub.Client
import MarketGate.Proofs.Hub.Event

/-!
# The hub as a pump sees it

In a gateway every connection has one queue, and the two stand at the same position: the connection
at position `p` has the number `p + 1` and registers with the queue at `p`.  A hub that is wired
like this (`Hub.Wired`) falls apart into one small machine for each pump.  A *seat* is the state of
that machine: whether the pump is registered, its connection and its queue.

* `Seat.apply` is what a command does to a seat.  It looks at nothing but the seat.
* **`seat?_apply`**: commands act on a wired hub as they act on its seats.
* `seat?_stop`, `seat?_lose`: the same for the two ways in which a hub can end.
* **`Wired.apply`**: commands leave a hub wired.
-/

namespace MarketGate

/-- What a hub has for one pump. -/
structure Seat where
  /-- Whether the pump is registered. -/
  registered : Bool
  connection : Connection
  queue : Queue
  deriving DecidableEq, Repr

namespace Seat

/-- The pump is registered, unless it is so already: then the sender that it brings is dropped. -/
def enter (v : Seat) : Seat :=
  if v.registered then { v with queue := v.queue.dropSender }
  else { v with registered := true, connection := v.connection.markRegistered }

/-- The pump is removed, if it is registered. -/
def remove (v : Seat) : Seat :=
  if v.registered then ⟨false, v.connection.beginDraining, v.queue.dropSender⟩ else v

/-- A message is offered to the pump, if it is registered; who refuses it is removed. -/
def receive (payload : Bytes) (v : Seat) : Seat :=
  if v.queue.refuses then v.remove
  else if v.registered then { v with queue := { v.queue with log := v.queue.log ++ [payload] } }
  else v

/-- What a command does to the seat at a position. -/
def apply (p : Nat) (command : Command) (v : Seat) : Seat :=
  match command with
  | .register r => if r = ⟨p, p⟩ then v.enter else v
  | .unregister id => if id = p + 1 then v.remove else v
  | .broadcast payload => v.receive payload
  | .count _ => v

/-- The hub is lost, together with the sender that the pump has brought it or is about to. -/
def lose (brought : Bool) (v : Seat) : Seat :=
  { v with
    registered := false
    queue := if v.registered || brought then v.queue.dropSender else v.queue }

lemma registered_remove (v : Seat) : v.remove.registered = false := by
  unfold remove
  split_ifs with hregistered
  · rfl
  · simpa using hregistered

/-- Neither who enters nor who is removed gains or loses a message. -/
lemma log_remove (v : Seat) :
    v.remove.queue.log = v.queue.log ∧ v.remove.queue.taken = v.queue.taken := by
  unfold remove
  split_ifs <;> exact ⟨rfl, rfl⟩

lemma log_enter (v : Seat) :
    v.enter.queue.log = v.queue.log ∧ v.enter.queue.taken = v.queue.taken := by
  unfold enter
  split_ifs <;> exact ⟨rfl, rfl⟩

/-- Who stays registered gets the message in a command, and nobody else does. -/
lemma log_apply {p : Nat} {command : Command} (hne : command ≠ .register ⟨p, p⟩) (v : Seat) :
    (v.apply p command).queue.taken = v.queue.taken
      ∧ ((v.apply p command).registered = false ∧ (v.apply p command).queue.log = v.queue.log
        ∨ v.registered = true
          ∧ (v.apply p command).queue.log = v.queue.log ++ command.payload?.toList) := by
  have hsame (hnone : command.payload? = none) : v.registered = false ∧ v.queue.log = v.queue.log
      ∨ v.registered = true ∧ v.queue.log = v.queue.log ++ command.payload?.toList := by
    rw [hnone]
    cases v.registered <;> simp
  cases command with
  | register r =>
      have hr : r ≠ ⟨p, p⟩ := fun heq => hne (heq ▸ rfl)
      rw [apply, if_neg hr]
      exact ⟨rfl, hsame rfl⟩
  | unregister id =>
      simp only [apply]
      split_ifs
      · exact ⟨v.log_remove.2, Or.inl ⟨v.registered_remove, v.log_remove.1⟩⟩
      · exact ⟨rfl, hsame rfl⟩
  | broadcast payload =>
      simp only [apply, receive]
      split_ifs with hrefuses hregistered
      · exact ⟨v.log_remove.2, Or.inl ⟨v.registered_remove, v.log_remove.1⟩⟩
      · exact ⟨rfl, Or.inr ⟨hregistered, rfl⟩⟩
      · exact ⟨rfl, Or.inl ⟨by simpa using hregistered, rfl⟩⟩
  | count ticket => exact ⟨rfl, hsame rfl⟩

end Seat

/-- Whether the registration in a command, if it is one, is that of one of the first `n` pumps. -/
def Command.Fits (n : Nat) : Command → Prop
  | .register r => r.queue = r.connection ∧ r.connection < n
  | _ => True

namespace Hub

/-- What a hub has for the pump at a position. -/
def seat? (p : Nat) (h : Hub) : Option Seat :=
  match h.connections[p]?, h.queues[p]? with
  | some connection, some queue => some ⟨h.isRegistered (p + 1), connection, queue⟩
  | _, _ => none

/-- The hub of `n` pumps: as many queues as connections, numbers that follow the positions, and no
entry that brings together a connection and the queue of another. -/
structure Wired (n : Nat) (h : Hub) : Prop where
  sound : h.Sound
  queues : h.queues.length = n
  idAt : ∀ key, h.idAt key = if key < n then some (key + 1) else none
  entry : ∀ x r, h.entryAt? x = some r → r.queue = r.connection

/-- The pump at a position, as a client of the hub. -/
def pumpAt (p : Nat) : Client := ⟨p + 1, p, {p}⟩

@[simp] lemma id_pumpAt (p : Nat) : (pumpAt p).id = p + 1 := rfl

@[simp] lemma connection_pumpAt (p : Nat) : (pumpAt p).connection = p := rfl

@[simp] lemma mem_queues_pumpAt (p key : Nat) : key ∈ (pumpAt p).queues ↔ key = p :=
  Finset.mem_singleton

section Wired

variable {n p : Nat} {h : Hub} (hw : h.Wired n)

include hw

lemma Wired.connections : h.connections.length = n := by
  refine Nat.le_antisymm (Nat.le_of_not_lt ?_) (Nat.le_of_not_lt ?_)
  · intro hlt
    have hid := hw.idAt n
    simp [Hub.idAt, hlt] at hid
  · intro hlt
    have hid := hw.idAt h.connections.length
    simp [Hub.idAt, hlt] at hid

/-- A pump has its number, its connection and its queue to itself. -/
lemma Wired.apart (hp : p < n) : (pumpAt p).Apart h where
  sound := hw.sound
  idAt := by simp [hw.idAt, hp]
  eq_of_idAt key hkey := by
    rw [hw.idAt] at hkey
    split_ifs at hkey with hlt
    simpa using hkey
  queue_mem_iff x r he := by
    have hid := hw.sound.named _ (mem_of_entryAt? he)
    rw [hw.idAt] at hid
    split_ifs at hid with hlt
    obtain rfl : r.connection + 1 = x := by simpa using hid
    simp [hw.entry _ _ he]
  queue_lt key hkey := by
    rw [hw.queues, (mem_queues_pumpAt p key).1 hkey]
    exact hp

/-- Every pump has a seat. -/
lemma Wired.exists_seat (hp : p < n) :
    ∃ c q, h.connections[p]? = some c ∧ h.queues[p]? = some q ∧ c.id = p + 1
      ∧ h.seat? p = some ⟨h.isRegistered (p + 1), c, q⟩ := by
  obtain ⟨c, hc, hcid⟩ := (hw.apart hp).exists_connection
  obtain ⟨q, hq⟩ : ∃ q, h.queues[p]? = some q :=
    ⟨_, List.getElem?_eq_getElem (hw.queues.symm ▸ hp)⟩
  have hc : h.connections[p]? = some c := hc
  exact ⟨c, q, hc, hq, hcid, by simp [seat?, hc, hq]⟩

/-- A pump feeds its own queue, as long as it is registered. -/
lemma Wired.feeds_eq (hp : p < n) : h.feeds (p + 1) p = h.isRegistered (p + 1) := by
  rw [isRegistered_eq]
  cases he : h.entryAt? (p + 1) with
  | none => simp [feeds, he]
  | some r =>
      have hqueue : r.queue = p := (mem_queues_pumpAt p _).1 ((hw.apart hp).queue_mem he)
      simp [feeds, he, hqueue]

/-- Nobody is registered who is not there. -/
lemma Wired.isRegistered_of_le (hp : n ≤ p) : h.isRegistered (p + 1) = false := by
  rw [isRegistered_eq, Option.isSome_eq_false_iff, Option.isNone_iff_eq_none]
  by_contra hsome
  obtain ⟨r, he⟩ := Option.ne_none_iff_exists'.1 hsome
  have hid : h.idAt r.connection = some (p + 1) := hw.sound.named _ (mem_of_entryAt? he)
  rw [hw.idAt] at hid
  split_ifs at hid with hlt
  have heq : r.connection = p := by simpa using hid
  omega

/-- Who has just arrived is not registered and has nothing in the queue. -/
lemma Wired.seat?_enroll (c : Connection) (capacity : Nat) :
    (h.step (.enroll c capacity)).seat? n = some ⟨false, c, { capacity }⟩ := by
  have hreg : (h.step (.enroll c capacity)).isRegistered (n + 1) = false :=
    hw.isRegistered_of_le (Nat.le_refl n)
  have hc : (h.step (.enroll c capacity)).connections[n]? = some c := by
    simp [Hub.step, ← hw.connections]
  have hq : (h.step (.enroll c capacity)).queues[n]? = some { capacity } := by
    simp [Hub.step, ← hw.queues]
  simp only [seat?, hc, hq, hreg]

end Wired

/-! ## Commands, seat by seat -/

section Seat

variable {n p : Nat} {h h' : Hub}

/-- A seat, put together from its parts. -/
lemma seat?_eq {f : Connection → Connection} {g : Queue → Queue} {c : Connection} {q : Queue}
    {P Q : Prop} [Decidable P] [Decidable Q] (hc : h.connections[p]? = some c)
    (hq : h.queues[p]? = some q)
    (hc' : h'.connections[p]? = if P then (h.connections[p]?).map f else h.connections[p]?)
    (hq' : h'.queues[p]? = if Q then (h.queues[p]?).map g else h.queues[p]?) :
    h'.seat? p
      = some ⟨h'.isRegistered (p + 1), if P then f c else c, if Q then g q else q⟩ := by
  rw [hc] at hc'
  rw [hq] at hq'
  split_ifs at hc' hq' ⊢ <;> simp [seat?, hc', hq']

/-- A seat is left alone by what leaves its parts alone. -/
lemma seat?_congr (hentry : h'.entryAt? (p + 1) = h.entryAt? (p + 1))
    (hc : h'.connections[p]? = h.connections[p]?) (hq : h'.queues[p]? = h.queues[p]?) :
    h'.seat? p = h.seat? p := by
  simp only [seat?, hc, hq, isRegistered_eq, hentry]

lemma seat?_register (hw : h.Wired n) (hp : p < n) {r : Registration}
    (hr : r.queue = r.connection) :
    (h.register r).seat? p = (h.seat? p).map (Seat.apply p (.register r)) := by
  obtain ⟨c, q, hc, hq, hcid, hseat⟩ := hw.exists_seat hp
  have hiff : r = ⟨p, p⟩ ↔ r.connection = p := by
    obtain ⟨connection, queue⟩ := r
    obtain rfl : queue = connection := hr
    simp
  by_cases hrp : r.connection = p
  · obtain ⟨hentry, hconn, hqueues⟩ := (hw.apart hp).register (r := r) hrp
    rw [id_pumpAt] at hentry hconn hqueues
    have hreg : (h.register r).isRegistered (p + 1) = true := by
      rw [isRegistered_eq, hentry]
      split_ifs with hfree
      · rfl
      · rw [← isRegistered_eq]
        simpa using hfree
    have hqp : r.queue = p := hr.trans hrp
    rw [seat?_eq hc hq hconn (hqueues p), hreg, hseat, Option.map_some, Seat.apply,
      if_pos (hiff.2 hrp)]
    cases hfree : h.isRegistered (p + 1) <;> simp [Seat.enter, hqp]
  · have hqp : r.queue ≠ p := fun heq => hrp (hr ▸ heq)
    obtain ⟨hentry, hconn, hqueues⟩ :=
      (hw.apart hp).register_of_ne (r := r) hrp (by simpa using hqp)
    rw [hseat, Option.map_some, Seat.apply, if_neg fun heq => hrp (hiff.1 heq), ← hseat]
    exact seat?_congr hentry hconn (hqueues p (by simp))

lemma seat?_unregister (hw : h.Wired n) (hp : p < n) (id : Nat) :
    (h.unregister id).seat? p = (h.seat? p).map (Seat.apply p (.unregister id)) := by
  obtain ⟨c, q, hc, hq, hcid, hseat⟩ := hw.exists_seat hp
  by_cases hid : id = p + 1
  · obtain ⟨hentry, hconn, hqueues⟩ := (hw.apart hp).unregister
    rw [id_pumpAt] at hentry hconn hqueues
    rw [← isRegistered_eq] at hconn
    have hreg : (h.unregister (p + 1)).isRegistered (p + 1) = false := by
      rw [isRegistered_eq, hentry]
      rfl
    rw [hid, seat?_eq hc hq hconn (hqueues p), hreg, hseat, Option.map_some, Seat.apply, if_pos rfl,
      hw.feeds_eq hp]
    cases h.isRegistered (p + 1) <;> simp [Seat.remove]
  · obtain ⟨hentry, hconn, hqueues⟩ := (hw.apart hp).unregister_of_ne (x := id) hid
    rw [hseat, Option.map_some, Seat.apply, if_neg hid, ← hseat]
    exact seat?_congr hentry hconn (hqueues p (by simp))

lemma seat?_broadcast (hw : h.Wired n) (hp : p < n) (payload : Bytes) :
    (h.broadcast payload).seat? p = (h.seat? p).map (Seat.apply p (.broadcast payload)) := by
  obtain ⟨c, q, hc, hq, hcid, hseat⟩ := hw.exists_seat hp
  obtain ⟨hentry, hconn, hqueues⟩ := (hw.apart hp).broadcast payload
  have hqueues := hqueues p (by simp)
  rw [id_pumpAt] at hentry hconn hqueues
  have hrefused : (h.entryAt? (p + 1)).any (fun r => h.refusesAt r.queue)
      = (h.isRegistered (p + 1) && q.refuses) := by
    rw [isRegistered_eq]
    cases he : h.entryAt? (p + 1) with
    | none => simp
    | some r =>
        have hqueue : r.queue = p := (mem_queues_pumpAt p _).1 ((hw.apart hp).queue_mem he)
        simp [hqueue, refusesAt_eq hq]
  rw [hrefused] at hentry hconn
  have hreg : (h.broadcast payload).isRegistered (p + 1)
      = (h.isRegistered (p + 1) && !q.refuses) := by
    rw [isRegistered_eq, hentry]
    split_ifs with hcond
    · simp [(Bool.and_eq_true_iff.1 hcond).2]
    · rw [← isRegistered_eq]
      cases hin : h.isRegistered (p + 1) with
      | false => rfl
      | true => simpa [hin] using hcond
  rw [seat?_eq hc hq hconn hqueues, hreg, hseat, Option.map_some, Seat.apply, Seat.receive,
    hw.feeds_eq hp]
  cases h.isRegistered (p + 1) <;> cases href : q.refuses <;>
    simp [Seat.remove, Queue.receive, Queue.accept, href]

/-- **A hub is the sum of its seats**: what a command does to a seat can be told from the seat. -/
theorem seat?_apply (hw : h.Wired n) (hp : p < n) {command : Command} (hfits : command.Fits n) :
    (h.apply command).seat? p = (h.seat? p).map (Seat.apply p command) := by
  cases command with
  | register r => exact seat?_register hw hp hfits.1
  | unregister id => exact seat?_unregister hw hp id
  | broadcast payload => exact seat?_broadcast hw hp payload
  | count ticket => cases hseat : h.seat? p <;> simp [apply, hseat, Seat.apply]

/-- So does the end of the hub: whoever is left is removed. -/
theorem seat?_stop (hw : h.Wired n) (hp : p < n) :
    h.stop.seat? p = (h.seat? p).map Seat.remove := by
  obtain ⟨c, q, hc, hq, hcid, hseat⟩ := hw.exists_seat hp
  obtain ⟨hconn, hqueues⟩ := (hw.apart hp).stop
  have hqueues := hqueues p (by simp)
  rw [id_pumpAt] at hconn hqueues
  rw [← isRegistered_eq] at hconn
  have hreg : h.stop.isRegistered (p + 1) = false := rfl
  rw [seat?_eq hc hq hconn hqueues, hreg, hseat, Option.map_some, hw.feeds_eq hp]
  cases h.isRegistered (p + 1) <;> simp [Seat.remove]

/-- The hub is lost together with what was sent to it. -/
def lose (mailbox : List Command) (h : Hub) : Hub :=
  (mailbox.foldl (fun h c => h.discard c) h).abandon

lemma queues_discardAll (mailbox : List Command) (h : Hub) (key : Nat) :
    (mailbox.foldl (fun h c => h.discard c) h).queues[key]?
      = if ∃ c ∈ mailbox, c.brings key = true
        then (h.queues[key]?).map Queue.dropSender else h.queues[key]? := by
  refine part_foldl (fun h => h.queues[key]?) (Option.map Queue.dropSender)
    (fun h c => h.discard c) (fun c => c.brings key = true) ?_
    (fun a => by cases a <;> rfl) mailbox h
  intro h c
  cases c with
  | register r => by_cases hkey : r.queue = key <;> simp [discard, Command.brings, onQueue, hkey]
  | _ => simp [discard, Command.brings]

/-- All but the queues is left alone when commands are discarded. -/
lemma discardAll_eq (mailbox : List Command) (h : Hub) :
    ∃ queues, queues.length = h.queues.length
      ∧ mailbox.foldl (fun h c => h.discard c) h = { h with queues } := by
  induction mailbox generalizing h with
  | nil => exact ⟨h.queues, rfl, rfl⟩
  | cons c rest ih =>
      obtain ⟨queues, hlength, heq⟩ := ih (h.discard c)
      refine ⟨queues, ?_, ?_⟩
      · rw [hlength]
        cases c <;> simp [discard, onQueue]
      · rw [List.foldl_cons, heq]
        cases c <;> rfl

/-- The loss of a hub at a seat. -/
theorem seat?_lose (hw : h.Wired n) (hp : p < n) (mailbox : List Command) :
    (h.lose mailbox).seat? p
      = (h.seat? p).map (Seat.lose (mailbox.any fun c => c.brings p)) := by
  obtain ⟨c, q, hc, hq, hcid, hseat⟩ := hw.exists_seat hp
  obtain ⟨queues, -, heq⟩ := discardAll_eq mailbox h
  have hconn : (h.lose mailbox).connections[p]? = some c := by
    rw [lose, connections_abandon, heq]
    exact hc
  have hqueue : (h.lose mailbox).queues[p]?
      = some (if h.isRegistered (p + 1) || mailbox.any fun c => c.brings p then q.dropSender
          else q) := by
    have hfeeds := (hw.apart hp).exists_queue_iff ((mem_queues_pumpAt p p).2 rfl)
    rw [id_pumpAt, hw.feeds_eq hp] at hfeeds
    have hregistry : (mailbox.foldl (fun h c => h.discard c) h).registry = h.registry := by
      rw [heq]
    rw [lose, queues_abandon, hregistry, queues_discardAll, hq]
    simp only [hfeeds, List.any_eq_true, Bool.or_eq_true]
    by_cases hin : h.isRegistered (p + 1) = true <;>
      by_cases hany : ∃ c ∈ mailbox, c.brings p = true <;>
        simp only [hin, hany, or_self, or_true, true_or, if_true, if_false, Option.map_some,
          Bool.false_eq_true, Queue.dropSender_dropSender]
  have hreg : (h.lose mailbox).isRegistered (p + 1) = false := rfl
  rw [hseat, Option.map_some]
  simp only [seat?, hconn, hqueue, hreg, Seat.lose]

end Seat

/-! ## Wiring is kept -/

section Wired

variable {n : Nat} {h h' : Hub}

lemma length_queues_apply (h : Hub) (command : Command) :
    (h.apply command).queues.length = h.queues.length := by
  cases command with
  | register r => exact length_queues_register h r
  | unregister id => exact length_queues_unregister h id
  | broadcast payload => exact length_queues_broadcast payload
  | count ticket => rfl

/-- **Commands leave a hub wired.** -/
theorem Wired.apply (hw : h.Wired n) {command : Command} (hfits : command.Fits n) :
    (h.apply command).Wired n where
  sound := hw.sound.step (.command command)
  queues := (length_queues_apply h command).trans hw.queues
  idAt key := by
    have hkeep : (h.step (.command command)).idAt key = h.idAt key :=
      idAt_step_of_ne_enroll (fun _ _ heq => by cases heq) key
    exact hkeep.trans (hw.idAt key)
  entry x r he := by
    have he : (h.step (.command command)).entryAt? x = some r := he
    rcases entryAt?_of_entryAt?_step he with hold | ⟨heq, -⟩
    · exact hw.entry x r hold
    · cases heq
      exact hfits.1

/-- Fewer entries over the same connections and as many queues are still wired. -/
lemma Wired.of_sublist (hw : h.Wired n) (hsub : h'.registry.Sublist h.registry)
    (hid : ∀ key, h'.idAt key = h.idAt key) (hlength : h'.queues.length = h.queues.length) :
    h'.Wired n where
  sound := hw.sound.of_sublist hsub fun key _ hold => (hid key).trans hold
  queues := hlength.trans hw.queues
  idAt key := (hid key).trans (hw.idAt key)
  entry x r he :=
    hw.entry x r (hw.sound.entryAt?_eq_some_iff.2 (hsub.subset (mem_of_entryAt? he)))

lemma Wired.stop (hw : h.Wired n) : h.stop.Wired n :=
  hw.of_sublist (List.nil_sublist _) (idAt_stop h) (length_queues_stop h)

lemma Wired.lose (hw : h.Wired n) (mailbox : List Command) : (h.lose mailbox).Wired n := by
  obtain ⟨queues, hlength, heq⟩ := discardAll_eq mailbox h
  refine hw.of_sublist (List.nil_sublist _) ?_ ?_
  · intro key
    rw [Hub.lose, Hub.idAt, connections_abandon, heq]
    rfl
  · rw [Hub.lose, length_queues_abandon, heq]
    exact hlength

/-- One more connection comes with one more queue and the next number. -/
lemma Wired.enroll (hw : h.Wired n) {c : Connection} (hc : c.id = n + 1) (capacity : Nat) :
    (h.step (.enroll c capacity)).Wired (n + 1) where
  sound := hw.sound.step _
  queues := by simp [Hub.step, hw.queues]
  idAt key := by
    have hconn := hw.connections
    rcases Nat.lt_trichotomy key n with hlt | rfl | hgt
    · have hid := hw.idAt key
      simp only [if_pos hlt, if_pos (Nat.lt_succ_of_lt hlt)] at hid ⊢
      exact idAt_step _ hid
    · simp [Hub.idAt, Hub.step, ← hconn, hc]
    · have hlength : n + 1 ≤ key := hgt
      simp [Hub.idAt, Hub.step, hconn, Nat.not_lt.2 hlength]
  entry x r he := by
    rcases entryAt?_of_entryAt?_step he with hold | ⟨heq, -⟩
    · exact hw.entry x r hold
    · cases heq

/-- To begin with there is no pump. -/
lemma wired_zero : ({} : Hub).Wired 0 where
  sound := sound_of_registry_eq_nil rfl
  queues := rfl
  idAt _ := rfl
  entry _ _ := nofun

end Wired

end Hub

end MarketGate
