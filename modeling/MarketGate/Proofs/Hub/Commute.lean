import MarketGate.Proofs.Hub.Ledger

/-!
# Commands about different connections

A hub works through one command after the other, and who sends which command first is a race.  The
race does not matter as long as it is between commands about different connections: only the order
of the commands about one connection, and where they stand between the broadcasts, can be seen in
what becomes of the hub.

* `Command.concerns` says whom a command is about; a broadcast is about everyone.
* `Hub.Matches` says that two hubs are in the same state: the registry is a map, so the order of its
  entries does not count.
* **`Matches.apply`**: a command cannot tell such hubs apart.
* **`apply_apply_of_apart`**: commands about different connections can be exchanged.
* **`matches_obey`**: lists with the same commands about everyone, in the same order, lead to one
  state, as the first command of one list can be brought to the front of the other.
-/

namespace MarketGate

namespace Command

variable (ids : Nat → Option Nat)

/-- Whether a command is about the connection with a number, when `ids` are the numbers of the
connections at their positions. -/
def concerns (id : Nat) : Command → Bool
  | .register r => ids r.connection == some id
  | .unregister x => x == id
  | .broadcast _ => true
  | .count _ => false

/-- No connection is one that both commands are about. -/
def Apart (c d : Command) : Prop := ∀ id, c.concerns ids id = true → d.concerns ids id = false

/-- A registration brings a queue that belongs to the number of its connection. -/
def BringsOwn (owner : Nat → Nat) : Command → Prop
  | .register r => ∀ id, ids r.connection = some id → owner r.queue = id
  | _ => True

variable {ids}

lemma Apart.symm {c d : Command} (hapart : Apart ids c d) : Apart ids d c := by
  intro id hd
  by_contra hc
  rw [hapart id (by simpa using hc)] at hd
  exact Bool.noConfusion hd

end Command

namespace Hub

/-- The hub after a list of commands. -/
def obey (commands : List Command) (h : Hub) : Hub := h.run (commands.map .command)

@[simp] lemma obey_nil (h : Hub) : h.obey [] = h := rfl

@[simp] lemma obey_cons (command : Command) (commands : List Command) (h : Hub) :
    h.obey (command :: commands) = (h.apply command).obey commands := rfl

lemma obey_append (first second : List Command) (h : Hub) :
    h.obey (first ++ second) = (h.obey first).obey second := by
  rw [obey, List.map_append, run_append]
  rfl

lemma idAt_apply (h : Hub) (command : Command) : (h.apply command).idAt = h.idAt := by
  have hne : ∀ c n, Event.command command ≠ .enroll c n := fun _ _ => Event.noConfusion
  exact funext (idAt_step_of_ne_enroll hne)

lemma idAt_obey (h : Hub) (commands : List Command) : (h.obey commands).idAt = h.idAt := by
  induction commands generalizing h with
  | nil => rfl
  | cons command rest ih => exact (ih (h.apply command)).trans (idAt_apply h command)

/-! ## The same state -/

/-- Two hubs are in the same state: their registries are the same map, and all else is equal. -/
structure Matches (h h' : Hub) : Prop where
  registry : h.registry.Perm h'.registry
  connections : h.connections = h'.connections
  queues : h.queues = h'.queues
  metrics : h.metrics = h'.metrics

namespace Matches

variable {h h' h'' : Hub}

lemma refl (h : Hub) : h.Matches h := ⟨.refl _, rfl, rfl, rfl⟩

lemma symm (hm : h.Matches h') : h'.Matches h :=
  ⟨hm.registry.symm, hm.connections.symm, hm.queues.symm, hm.metrics.symm⟩

lemma trans (hm : h.Matches h') (hm' : h'.Matches h'') : h.Matches h'' :=
  ⟨hm.registry.trans hm'.registry, hm.connections.trans hm'.connections,
    hm.queues.trans hm'.queues, hm.metrics.trans hm'.metrics⟩

/-- The other hub is this one with its registry in another order. -/
lemma eq (hm : h.Matches h') : h' = { h with registry := h'.registry } := by
  obtain ⟨-, hconnections, hqueues, hmetrics⟩ := hm
  rw [hconnections, hqueues, hmetrics]

lemma idAt (hm : h.Matches h') : h.idAt = h'.idAt := by
  funext key
  simp only [Hub.idAt, hm.connections]

lemma sound (hm : h.Matches h') (hs : h.Sound) : h'.Sound := by
  rw [hm.eq]
  exact hs.of_perm hm.registry.symm

lemma entryAt? (hm : h.Matches h') (hs : h.Sound) (id : Nat) :
    h.entryAt? id = h'.entryAt? id := by
  refine Option.ext fun r => ?_
  rw [hs.entryAt?_eq_some_iff, (hm.sound hs).entryAt?_eq_some_iff, hm.registry.mem_iff]

lemma isRegistered (hm : h.Matches h') (id : Nat) : h.isRegistered id = h'.isRegistered id :=
  hm.registry.any_eq

end Matches

/-! ## What one command does to the whole state -/

section Whole

variable {h : Hub}

/-- A registration under a free number. -/
lemma register_eq_of_free {r : Registration} {c : Connection}
    (hc : h.connections[r.connection]? = some c) (hfree : h.isRegistered c.id = false) :
    h.register r =
      { h with
        registry := h.registry ++ [(c.id, r)]
        connections := h.connections.modify r.connection Connection.markRegistered
        metrics := { h.metrics with
          registrations := h.metrics.registrations + 1
          activeConnections := h.registry.length + 1 } } := by
  obtain ⟨hregistry, hqueues, hconnections⟩ := register_of_free hc hfree
  have hmetrics := metrics_register_of_free hc hfree
  cases hr : h.register r
  simp_all [size]

/-- The removal of an entry. -/
lemma unregister_eq_of_entry {id : Nat} {r : Registration} (he : h.entryAt? id = some r) :
    h.unregister id =
      { registry := h.registry.filter fun e => e.1 != id
        connections := h.connections.modify r.connection Connection.beginDraining
        queues := h.queues.modify r.queue Queue.dropSender
        metrics := { h.metrics with
          activeConnections := (h.registry.filter fun e => e.1 != id).length } } := by
  rw [unregister, show h.registry.lookup id = some r from he]
  rfl

/-- Where there is no entry nothing is removed. -/
lemma unregister_eq_of_none {id : Nat} (he : h.entryAt? id = none) : h.unregister id = h := by
  rw [unregister, show h.registry.lookup id = none from he]

end Whole

/-! ## Queues of one's own -/

/-- The registry is a map, and every entry has a queue that belongs to its number. -/
structure Owned (owner : Nat → Nat) (h : Hub) : Prop where
  sound : h.Sound
  queue : ∀ e ∈ h.registry, owner e.2.queue = e.1

section Owned

variable {owner : Nat → Nat} {h h' : Hub}

lemma Owned.unshared (ho : h.Owned owner) : h.Unshared := by
  refine List.Nodup.of_map owner ?_
  have hkeys : (h.registry.map fun e => e.2.queue).map owner = h.registry.map Prod.fst := by
    rw [List.map_map]
    exact List.map_congr_left ho.queue
  rw [hkeys]
  exact ho.sound.keys

lemma Owned.apply (ho : h.Owned owner) {command : Command}
    (hbrings : command.BringsOwn h.idAt owner) : (h.apply command).Owned owner where
  sound := ho.sound.step (.command command)
  queue e he := by
    obtain ⟨id, r⟩ := e
    have hentry : (h.step (.command command)).entryAt? id = some r :=
      (ho.sound.step (.command command)).entryAt?_eq_some_iff.2 he
    rcases entryAt?_of_entryAt?_step hentry with hold | ⟨heq, hid⟩
    · exact ho.queue _ (mem_of_entryAt? hold)
    · cases heq
      exact hbrings id hid

end Owned

/-! ## A command cannot tell -/

section Matches

variable {h h' : Hub} (hm : h.Matches h')

include hm

lemma Matches.register (r : Registration) : (h.register r).Matches (h'.register r) := by
  have hr' : h'.connections[r.connection]? = h.connections[r.connection]? := by
    rw [hm.connections]
  cases hc : h.connections[r.connection]? with
  | none =>
      rw [register_of_none hc, register_of_none (hr'.trans hc)]
      exact hm
  | some c =>
      have hc' := hr'.trans hc
      cases htaken : h.isRegistered c.id with
      | true =>
          rw [register_of_taken hc htaken, register_of_taken hc' (hm.isRegistered c.id ▸ htaken)]
          exact ⟨hm.registry, hm.connections, by simp [onQueue, hm.queues], hm.metrics⟩
      | false =>
          rw [register_eq_of_free hc htaken,
            register_eq_of_free hc' (hm.isRegistered c.id ▸ htaken)]
          refine ⟨hm.registry.append_right _, ?_, hm.queues, ?_⟩
          · simp only [hm.connections]
          · simp only [hm.metrics, hm.registry.length_eq]

lemma Matches.unregister (hs : h.Sound) (id : Nat) :
    (h.unregister id).Matches (h'.unregister id) := by
  have hentry := hm.entryAt? hs id
  cases he : h.entryAt? id with
  | none =>
      rw [unregister_eq_of_none he, unregister_eq_of_none (hentry ▸ he)]
      exact hm
  | some r =>
      rw [unregister_eq_of_entry he, unregister_eq_of_entry (hentry ▸ he)]
      have hrest := hm.registry.filter fun e => e.1 != id
      refine ⟨hrest, ?_, ?_, ?_⟩
      · simp only [hm.connections]
      · simp only [hm.queues]
      · simp only [hm.metrics, hrest.length_eq]

lemma Matches.broadcast (hs : h.Sound) (hown : h.Unshared) (payload : Bytes) :
    (h.broadcast payload).Matches (h'.broadcast payload) := by
  obtain ⟨hregistry, hconnections, hqueues, hmetrics⟩ :=
    broadcast_of_perm hm.registry.symm hs hown payload
  rw [← hm.eq] at hregistry hconnections hqueues hmetrics
  exact ⟨hregistry.symm, hconnections.symm, hqueues.symm, hmetrics.symm⟩

/-- **A command cannot tell** in which order the registry is. -/
theorem Matches.apply {owner : Nat → Nat} (ho : h.Owned owner) (command : Command) :
    (h.apply command).Matches (h'.apply command) := by
  cases command with
  | register r => exact hm.register r
  | unregister id => exact hm.unregister ho.sound id
  | broadcast payload => exact hm.broadcast ho.sound ho.unshared payload
  | count ticket => exact hm

end Matches

/-! ## Two commands about different connections -/

section Exchange

/-- Changes of a list at two positions can be exchanged. -/
lemma modify_modify_comm {α : Type} (l : List α) {i j : Nat} {f g : α → α}
    (hcomm : i = j → ∀ a, f (g a) = g (f a)) :
    (l.modify i f).modify j g = (l.modify j g).modify i f := by
  refine List.ext_getElem? fun k => ?_
  simp only [List.getElem?_modify]
  cases l[k]? with
  | none => rfl
  | some a =>
      by_cases hi : i = k <;> by_cases hj : j = k
      · simp [hi, hj, hcomm (hi.trans hj.symm)]
      all_goals simp [hi, hj]

variable {h : Hub}

lemma isRegistered_unregister {x y : Nat} (hne : y ≠ x) :
    (h.unregister x).isRegistered y = h.isRegistered y := by
  rw [isRegistered_eq, isRegistered_eq, entryAt?_unregister, if_neg hne]

lemma unregister_unregister_comm {x y : Nat} (hne : x ≠ y) :
    (h.unregister x).unregister y = (h.unregister y).unregister x := by
  have hx : (h.unregister y).entryAt? x = h.entryAt? x := by
    rw [entryAt?_unregister, if_neg hne]
  have hy : (h.unregister x).entryAt? y = h.entryAt? y := by
    rw [entryAt?_unregister, if_neg hne.symm]
  cases hex : h.entryAt? x with
  | none => rw [unregister_eq_of_none hex, unregister_eq_of_none (hx.trans hex)]
  | some r =>
      cases hey : h.entryAt? y with
      | none => rw [unregister_eq_of_none hey, unregister_eq_of_none (hy.trans hey)]
      | some r' =>
          rw [unregister_eq_of_entry (hx.trans hex), unregister_eq_of_entry (hy.trans hey),
            unregister_eq_of_entry hex, unregister_eq_of_entry hey]
          simp only [List.filter_filter, Bool.and_comm, modify_modify_comm _ fun _ _ => rfl]

/-- A registration of one connection and the removal of another. -/
lemma register_unregister_comm (hs : h.Sound) {r : Registration} {c : Connection}
    (hc : h.connections[r.connection]? = some c) {x : Nat} (hne : c.id ≠ x) :
    (h.register r).unregister x = (h.unregister x).register r := by
  have hentry : (h.register r).entryAt? x = h.entryAt? x := by
    rw [entryAt?_register hc, if_neg fun hand => hne hand.2.symm]
  cases he : h.entryAt? x with
  | none => rw [unregister_eq_of_none (hentry.trans he), unregister_eq_of_none he]
  | some r' =>
      -- whoever leaves is another connection
      have hkey : r.connection ≠ r'.connection := by
        intro heq
        have hnamed := hs.named _ (mem_of_entryAt? he)
        simp only [← heq, idAt, hc, Option.map_some, Option.some.injEq] at hnamed
        exact hne hnamed
      have hc' : (h.unregister x).connections[r.connection]? = some c := by
        rw [unregister_eq_of_entry he, List.getElem?_modify_ne _ _ hkey.symm, hc]
      have hsame := isRegistered_unregister (h := h) hne
      cases htaken : h.isRegistered c.id with
      | true =>
          rw [unregister_eq_of_entry (hentry.trans he), register_of_taken hc htaken,
            register_of_taken hc' (hsame.trans htaken), unregister_eq_of_entry he]
          simp only [onQueue, modify_modify_comm _ fun _ _ => rfl]
      | false =>
          rw [unregister_eq_of_entry (hentry.trans he), register_eq_of_free hc htaken,
            register_eq_of_free hc' (hsame.trans htaken), unregister_eq_of_entry he]
          have hstays : [(c.id, r)].filter (fun e => e.1 != x) = [(c.id, r)] := by simp [hne]
          simp only [List.filter_append, hstays, List.length_append, List.length_singleton,
            modify_modify_comm _ fun heq => absurd heq hkey]

/-- The registrations of two connections. -/
lemma matches_register_register {r r' : Registration} {c c' : Connection}
    (hc : h.connections[r.connection]? = some c) (hc' : h.connections[r'.connection]? = some c')
    (hne : c.id ≠ c'.id) :
    ((h.register r).register r').Matches ((h.register r').register r) := by
  have hkey : r.connection ≠ r'.connection := by
    intro heq
    rw [heq, hc'] at hc
    exact hne (congrArg Connection.id (Option.some.inj hc)).symm
  have hafter : (h.register r).connections[r'.connection]? = some c' := by
    rw [connections_register, if_neg fun hand => hkey hand.1, hc']
  have hafter' : (h.register r').connections[r.connection]? = some c := by
    rw [connections_register, if_neg fun hand => hkey hand.1.symm, hc]
  have hsame : (h.register r).isRegistered c'.id = h.isRegistered c'.id := by
    rw [isRegistered_eq, isRegistered_eq, entryAt?_register hc, if_neg fun hand => hne hand.2.symm]
  have hsame' : (h.register r').isRegistered c.id = h.isRegistered c.id := by
    rw [isRegistered_eq, isRegistered_eq, entryAt?_register hc', if_neg fun hand => hne hand.2]
  cases htaken : h.isRegistered c.id with
  | true =>
      rw [register_of_taken hafter' (hsame'.trans htaken)]
      cases htaken' : h.isRegistered c'.id with
      | true =>
          rw [register_of_taken hafter (hsame.trans htaken'), register_of_taken hc htaken,
            register_of_taken hc' htaken']
          exact ⟨.refl _, rfl, modify_modify_comm _ fun _ _ => rfl, rfl⟩
      | false =>
          rw [register_eq_of_free hafter (hsame.trans htaken'), register_of_taken hc htaken,
            register_eq_of_free hc' htaken']
          exact .refl _
  | false =>
      rw [register_eq_of_free hafter' (hsame'.trans htaken)]
      cases htaken' : h.isRegistered c'.id with
      | true =>
          rw [register_of_taken hafter (hsame.trans htaken'), register_eq_of_free hc htaken,
            register_of_taken hc' htaken']
          exact .refl _
      | false =>
          rw [register_eq_of_free hafter (hsame.trans htaken'), register_eq_of_free hc htaken,
            register_eq_of_free hc' htaken']
          refine ⟨?_, modify_modify_comm _ fun heq => absurd heq hkey, rfl, ?_⟩
          · have hswap : [(c.id, r), (c'.id, r')].Perm [(c'.id, r'), (c.id, r)] := .swap _ _ _
            simp only [List.append_assoc]
            exact hswap.append_left _
          · simp only [List.length_append, List.length_singleton]

end Exchange

/-- A command that is about nobody does nothing. -/
lemma apply_of_concerns_nobody {h : Hub} {command : Command}
    (hnobody : ∀ id, command.concerns h.idAt id = false) : h.apply command = h := by
  cases command with
  | register r =>
      refine register_of_none ?_
      cases hc : h.connections[r.connection]? with
      | none => rfl
      | some c => simpa [Command.concerns, idAt, hc] using hnobody c.id
  | unregister x => simpa [Command.concerns] using hnobody x
  | broadcast payload => simpa [Command.concerns] using hnobody 0
  | count ticket => rfl

/-- **Commands about different connections can be exchanged.** -/
theorem apply_apply_of_apart {h : Hub} (hs : h.Sound) {c d : Command}
    (hapart : Command.Apart h.idAt c d) :
    ((h.apply c).apply d).Matches ((h.apply d).apply c) := by
  -- a command that is about nobody does nothing, before or after the other
  have hnobody : ∀ {c d : Command}, (∀ id, c.concerns h.idAt id = false) →
      (h.apply c).apply d = (h.apply d).apply c := by
    intro c d hc
    rw [apply_of_concerns_nobody hc, apply_of_concerns_nobody (h := h.apply d)]
    rwa [idAt_apply]
  by_cases hc : ∀ id, c.concerns h.idAt id = false
  · rw [hnobody hc]
    exact .refl _
  by_cases hd : ∀ id, d.concerns h.idAt id = false
  · rw [hnobody hd]
    exact .refl _
  obtain ⟨x, hx⟩ : ∃ id, c.concerns h.idAt id = true := by simpa using hc
  obtain ⟨y, hy⟩ : ∃ id, d.concerns h.idAt id = true := by simpa using hd
  have hseat : ∀ {r : Registration} {id : Nat}, (h.idAt r.connection == some id) = true →
      ∃ c, h.connections[r.connection]? = some c ∧ c.id = id := fun heq =>
    Option.map_eq_some_iff.1 (beq_iff_eq.1 heq)
  cases c with
  | broadcast payload =>
      rw [hapart y rfl] at hy
      exact Bool.noConfusion hy
  | count ticket => exact Bool.noConfusion hx
  | register r =>
      obtain ⟨c, hconn, rfl⟩ := hseat hx
      cases d with
      | broadcast payload => exact Bool.noConfusion (hapart _ hx)
      | count ticket => exact Bool.noConfusion hy
      | register r' =>
          obtain ⟨c', hconn', rfl⟩ := hseat hy
          refine matches_register_register hconn hconn' fun heq => ?_
          rw [hapart _ (heq ▸ hx)] at hy
          exact Bool.noConfusion hy
      | unregister z =>
          rw [apply, apply, apply, apply, register_unregister_comm hs hconn]
          · exact .refl _
          · rintro rfl
            simpa [Command.concerns] using hapart _ hx
  | unregister z =>
      cases d with
      | broadcast payload => exact Bool.noConfusion (hapart _ hx)
      | count ticket => exact Bool.noConfusion hy
      | register r =>
          obtain ⟨c, hconn, rfl⟩ := hseat hy
          rw [apply, apply, apply, apply, register_unregister_comm hs hconn]
          · exact .refl _
          · rintro rfl
            rw [hapart _ (by simp [Command.concerns])] at hy
            exact Bool.noConfusion hy
      | unregister z' =>
          rw [apply, apply, apply, apply, unregister_unregister_comm]
          · exact .refl _
          · rintro rfl
            simpa [Command.concerns] using hapart z (by simp [Command.concerns])

/-! ## Lists of commands -/

/-- Two lists have the same commands about everyone, in the same order. -/
def SameForAll (ids : Nat → Option Nat) (xs ys : List Command) : Prop :=
  ∀ id, xs.filter (Command.concerns ids id) = ys.filter (Command.concerns ids id)

section Lists

variable {owner : Nat → Nat} {h h' : Hub} {ids : Nat → Option Nat} {c : Command}
  {xs ys : List Command}

/-- The first command of a list stands in the other list behind commands about other connections. -/
lemma SameForAll.exists_front (hsame : SameForAll ids (c :: xs) ys) {x : Nat}
    (hx : c.concerns ids x = true) :
    ∃ front rest, ys = front ++ c :: rest ∧ (∀ d ∈ front, Command.Apart ids d c)
      ∧ SameForAll ids xs (front ++ rest) := by
  have hmem : c ∈ ys := by
    have hfilter : c ∈ ys.filter (Command.concerns ids x) := by
      rw [← hsame x, List.filter_cons_of_pos hx]
      exact List.mem_cons_self
    exact (List.mem_filter.1 hfilter).1
  obtain ⟨front, rest, rfl, hfirst⟩ := List.eq_append_cons_of_mem hmem
  -- nobody whom the command is about is meant by a command before it
  have hnil : ∀ id, c.concerns ids id = true → front.filter (Command.concerns ids id) = [] := by
    intro id hid
    have heq := hsame id
    rw [List.filter_cons_of_pos hid, List.filter_append, List.filter_cons_of_pos hid] at heq
    cases hfront : front.filter (Command.concerns ids id) with
    | nil => rfl
    | cons d ds =>
        rw [hfront, List.cons_append, List.cons.injEq] at heq
        have hd : d ∈ front.filter (Command.concerns ids id) := hfront ▸ List.mem_cons_self
        exact absurd (heq.1 ▸ (List.mem_filter.1 hd).1) hfirst
  refine ⟨front, rest, rfl, ?_, ?_⟩
  · intro d hd id hdid
    by_contra hcid
    have hin : d ∈ front.filter (Command.concerns ids id) := List.mem_filter.2 ⟨hd, hdid⟩
    rw [hnil id (by simpa using hcid)] at hin
    exact List.not_mem_nil hin
  · intro id
    have heq := hsame id
    rw [List.filter_append, List.filter_cons, List.filter_cons] at heq
    rw [List.filter_append]
    split_ifs at heq with hid
    · rw [hnil id hid, List.nil_append, List.cons.injEq] at heq
      rw [hnil id hid, List.nil_append, heq.2]
    · exact heq

/-- A list of commands cannot tell in which order the registry is. -/
lemma Matches.obey (hm : h.Matches h') (ho : h.Owned owner)
    (hbrings : ∀ d ∈ xs, d.BringsOwn h.idAt owner) : (h.obey xs).Matches (h'.obey xs) := by
  induction xs generalizing h h' with
  | nil => exact hm
  | cons d rest ih =>
      have hrest : ∀ e ∈ rest, e.BringsOwn (h.apply d).idAt owner := by
        rw [idAt_apply]
        exact fun e he => hbrings e (List.mem_cons_of_mem _ he)
      exact ih (hm.apply ho d) (ho.apply (hbrings d List.mem_cons_self)) hrest

/-- A command can be brought to the front of commands about other connections. -/
lemma matches_obey_front (ho : h.Owned owner) {front rest : List Command}
    (hapart : ∀ d ∈ front, Command.Apart h.idAt d c)
    (hbrings : ∀ d ∈ front ++ c :: rest, d.BringsOwn h.idAt owner) :
    (h.obey (front ++ c :: rest)).Matches (h.obey (c :: (front ++ rest))) := by
  induction front generalizing h with
  | nil => exact .refl _
  | cons d front ih =>
      have hd : d.BringsOwn h.idAt owner := hbrings d (by simp)
      have hc : c.BringsOwn (h.apply d).idAt owner := by
        rw [idAt_apply]
        exact hbrings c (by simp)
      have hmove := ih (ho.apply hd)
        (by rw [idAt_apply]; exact fun e he => hapart e (List.mem_cons_of_mem _ he))
        (by rw [idAt_apply]; exact fun e he => hbrings e (List.mem_cons_of_mem _ he))
      have hswap := apply_apply_of_apart ho.sound (hapart d List.mem_cons_self)
      refine hmove.trans (hswap.obey ((ho.apply hd).apply hc) ?_)
      rw [idAt_apply, idAt_apply]
      have hsub := (List.sublist_cons_self c rest).append_left front
      exact fun e he => hbrings e (List.mem_cons_of_mem d (hsub.subset he))

/-- Commands that are about nobody do nothing. -/
lemma obey_of_concern_nobody (hnobody : ∀ d ∈ xs, ∀ id, d.concerns h.idAt id = false) :
    h.obey xs = h := by
  induction xs with
  | nil => rfl
  | cons d rest ih =>
      rw [obey_cons, apply_of_concerns_nobody (hnobody d List.mem_cons_self)]
      exact ih fun e he => hnobody e (List.mem_cons_of_mem _ he)

/-- **Lists with the same commands about everyone lead to the same state.** -/
theorem matches_obey (ho : h.Owned owner) (hsame : SameForAll h.idAt xs ys)
    (hxs : ∀ d ∈ xs, d.BringsOwn h.idAt owner) (hys : ∀ d ∈ ys, d.BringsOwn h.idAt owner) :
    (h.obey xs).Matches (h.obey ys) := by
  induction xs generalizing h ys with
  | nil =>
      have hnobody : ∀ d ∈ ys, ∀ id, d.concerns h.idAt id = false := by
        intro d hd id
        have hnil := List.filter_eq_nil_iff.1 (hsame id).symm d hd
        simpa using hnil
      rw [obey_of_concern_nobody hnobody]
      exact .refl _
  | cons c xs ih =>
      have hrest : ∀ d ∈ xs, d.BringsOwn h.idAt owner := fun d hd =>
        hxs d (List.mem_cons_of_mem _ hd)
      by_cases hnobody : ∀ id, c.concerns h.idAt id = false
      · rw [obey_cons, apply_of_concerns_nobody hnobody]
        refine ih ho (fun id => ?_) hrest hys
        rw [← hsame id, List.filter_cons_of_neg (by simp [hnobody id])]
      · obtain ⟨x, hx⟩ : ∃ id, c.concerns h.idAt id = true := by simpa using hnobody
        obtain ⟨front, rest, rfl, hapart, hsame'⟩ := hsame.exists_front hx
        have hsub := (List.sublist_cons_self c rest).append_left front
        have hmoved := ih (ho.apply (hxs c List.mem_cons_self)) (by rwa [idAt_apply])
          (by rwa [idAt_apply]) (by rw [idAt_apply]; exact fun e he => hys e (hsub.subset he))
        exact hmoved.trans (matches_obey_front ho hapart hys).symm

/-- Who brings a queue of its own in one list does so in the other. -/
lemma SameForAll.bringsOwn (hsame : SameForAll ids xs ys)
    (hxs : ∀ d ∈ xs, d.BringsOwn ids owner) : ∀ d ∈ ys, d.BringsOwn ids owner := by
  intro d hd
  cases d with
  | register r =>
      intro id hid
      have hmem : Command.register r ∈ ys.filter (Command.concerns ids id) :=
        List.mem_filter.2 ⟨hd, by simp [Command.concerns, hid]⟩
      rw [← hsame id] at hmem
      exact hxs _ (List.mem_filter.1 hmem).1 id hid
  | _ => exact trivial

/-- As long as nobody registers under a number that is free, removals of it do nothing. -/
lemma obey_filter_unregister {id : Nat} (hfree : h.isRegistered id = false)
    (hquiet : ∀ r, .register r ∈ xs → h.idAt r.connection ≠ some id) :
    h.obey (xs.filter fun d => d ≠ .unregister id) = h.obey xs := by
  induction xs generalizing h with
  | nil => rfl
  | cons d rest ih =>
      have hentry : h.entryAt? id = none := by simpa [isRegistered_eq] using hfree
      have hrest : ∀ r, .register r ∈ rest → h.idAt r.connection ≠ some id := fun r hr =>
        hquiet r (List.mem_cons_of_mem _ hr)
      by_cases hd : d = .unregister id
      · subst hd
        rw [List.filter_cons_of_neg (by simp), ih hfree hrest, obey_cons, apply,
          unregister_eq_of_none hentry]
      · rw [List.filter_cons_of_pos (by simpa using hd), obey_cons, obey_cons]
        refine ih ?_ (by rwa [idAt_apply])
        rw [isRegistered_eq, Option.isSome_eq_false_iff, Option.isNone_iff_eq_none]
        by_contra hsome
        obtain ⟨r, hr⟩ := Option.ne_none_iff_exists'.1 hsome
        have hentered : (h.step (.command d)).entryAt? id = some r := hr
        rcases entryAt?_of_entryAt?_step hentered with hold | ⟨heq, hid⟩
        · rw [hentry] at hold
          cases hold
        · cases heq
          exact hquiet r List.mem_cons_self hid

/-- Nobody is registered under a number after its removal, by a command or by a broadcast. -/
lemma isRegistered_of_removal (h : Hub) (id : Nat) :
    (h.unregister id).isRegistered id = false
      ∧ ∀ payload, id ∈ (h.fanOut payload).numbers →
        (h.broadcast payload).isRegistered id = false := by
  constructor
  · rw [isRegistered_eq, entryAt?_unregister, if_pos rfl]
    rfl
  · intro payload hrefused
    rw [isRegistered_eq, entryAt?_broadcast, if_pos hrefused]
    rfl

end Lists

/-- **Commands about different connections commute.**  Two lists of commands that have the same
broadcasts in the same order and, for every connection, the same registrations and removals in the
same order and between the same broadcasts lead from any hub to the same state: the same registry as
a map, the same queues, connections and metrics.  Queues belong to connections, as `owner` says.

And while nobody is registered under a number, as after its removal by a command or by a broadcast
that finds its queue closed or full, and nobody registers under it, removals of that number may be
added or left out anywhere. -/
theorem matches_obey_of_reordered {h : Hub} (hs : h.Sound) {owner : Nat → Nat}
    (howner : ∀ e ∈ h.registry, owner e.2.queue = e.1) {xs : List Command}
    (hbrings : ∀ r, .register r ∈ xs → ∀ id, h.idAt r.connection = some id → owner r.queue = id) :
    (∀ ys : List Command,
      (∀ id, ys.filter (Command.concerns h.idAt id) = xs.filter (Command.concerns h.idAt id)) →
        (h.obey ys).Matches (h.obey xs))
      ∧ (∀ (before between after between' : List Command) (id : Nat),
        xs = before ++ between ++ after →
        (h.obey before).isRegistered id = false →
        (∀ r, .register r ∈ between → h.idAt r.connection ≠ some id) →
        (between'.filter fun d => d ≠ .unregister id)
          = (between.filter fun d => d ≠ .unregister id) →
        h.obey (before ++ between' ++ after) = h.obey xs)
      ∧ ∀ (before : List Command) (id : Nat),
        (h.obey (before ++ [.unregister id])).isRegistered id = false
          ∧ ∀ payload, id ∈ ((h.obey before).fanOut payload).numbers →
            (h.obey (before ++ [.broadcast payload])).isRegistered id = false := by
  refine ⟨?_, ?_, fun before id => ?_⟩
  · intro ys hsame
    have ho : h.Owned owner := ⟨hs, howner⟩
    have hxs : ∀ d ∈ xs, d.BringsOwn h.idAt owner := by
      intro d hd
      cases d with
      | register r => exact hbrings r hd
      | _ => exact trivial
    have hsame' : SameForAll h.idAt xs ys := fun id => (hsame id).symm
    exact (matches_obey ho hsame' hxs (hsame'.bringsOwn hxs)).symm
  · rintro before between after between' id rfl hfree hquiet hadded
    have hquiet' : ∀ r, .register r ∈ between' → h.idAt r.connection ≠ some id := by
      intro r hr
      refine hquiet r ?_
      have hmem : Command.register r ∈ between'.filter fun d => d ≠ .unregister id :=
        List.mem_filter.2 ⟨hr, by simp⟩
      rw [hadded] at hmem
      exact (List.mem_filter.1 hmem).1
    rw [← idAt_obey h before] at hquiet hquiet'
    simp only [obey_append]
    rw [← obey_filter_unregister hfree hquiet, ← obey_filter_unregister hfree hquiet', hadded]
  · simp only [obey_append]
    exact isRegistered_of_removal (h.obey before) id

/-- Two clients that are about to connect.  The first has three queues, the second has one. -/
def rivals : Hub where
  connections := [{ id := 1 }, { id := 2 }]
  queues := [{ capacity := 1 }, { capacity := 2 }, { capacity := 1 }, { capacity := 1 }]

/-- The race for the first entry leaves its mark on nothing but the order of the registry, although
the first client registers twice and the last broadcast evicts it; and after that eviction nobody
can tell how often the first client is removed before it comes back. -/
theorem matches_obey_of_rivals :
    let race := [Command.register ⟨0, 0⟩, .register ⟨1, 1⟩, .register ⟨0, 2⟩, .broadcast [7]]
    let other := [Command.register ⟨1, 1⟩, .count 0, .register ⟨0, 0⟩, .register ⟨0, 2⟩,
      .broadcast [7]]
    let late := [Command.broadcast [8], .unregister 2]
    (rivals.obey race).registry ≠ (rivals.obey other).registry
      ∧ (rivals.obey race).isRegistered 1 = true
      ∧ (rivals.obey (race ++ late)).isRegistered 1 = false
      ∧ (rivals.obey (other ++ late ++ [.register ⟨0, 3⟩])).Matches
          (rivals.obey (race ++ late ++ [.register ⟨0, 3⟩]))
      ∧ rivals.obey (race ++ [.broadcast [8]] ++ [.unregister 1, .unregister 2, .unregister 1]
          ++ [.register ⟨0, 3⟩])
        = rivals.obey (race ++ late ++ [.register ⟨0, 3⟩]) := by
  intro race other late
  have hs : rivals.Sound := sound_of_registry_eq_nil rfl
  have hbrings : ∀ r, .register r ∈ race ++ late ++ [.register ⟨0, 3⟩] → ∀ id,
      rivals.idAt r.connection = some id → (fun key => if key = 1 then 2 else 1) r.queue = id := by
    intro r hr id hid
    simp only [race, late, List.cons_append, List.nil_append, List.mem_cons,
      Command.register.injEq, reduceCtorEq, List.not_mem_nil, or_false, false_or] at hr
    rcases hr with rfl | rfl | rfl | rfl <;> cases hid <;> rfl
  obtain ⟨hmatches, hequal, -⟩ := @matches_obey_of_reordered rivals hs
    (fun key => if key = 1 then 2 else 1) (by simp [rivals]) _ hbrings
  refine ⟨by decide, by decide, by decide, hmatches _ fun id => ?_, ?_⟩
  · have hfirst : rivals.idAt 0 = some 1 := rfl
    have hsecond : rivals.idAt 1 = some 2 := rfl
    by_cases hone : 1 = id
    · simp [race, other, late, Command.concerns, hfirst, hsecond, ← hone]
    · by_cases htwo : 2 = id
      · simp [race, other, late, Command.concerns, hfirst, hsecond, ← htwo]
      · simp [race, other, late, Command.concerns, hfirst, hsecond, hone, htwo]
  · exact hequal (race ++ [.broadcast [8]]) [.unregister 2] [.register ⟨0, 3⟩]
      [.unregister 1, .unregister 2, .unregister 1] 1 rfl (by decide) (by simp) (by decide)

end Hub

end MarketGate
