import MarketGate.Proofs.Hub.Delivery
import MarketGate.Proofs.System.Census
import MarketGate.Proofs.System.Lifecycle

/-!
# The end of a hub

A hub ends when nobody is left who could send it anything, but what was sent before that still
counts: it works through its mailbox first, and only then lets everyone go.  While it does so the
world does not stand still, as whoever holds a connection or the receiver of a queue may go on using
it, and so there are two kinds of turns (`System.Turn`): a step of the gateway, and something that
happens to a connection or to a queue outside of it.

* `Hub.Flushed` says what letting everyone go does to a hub, and what it leaves as it was.
* `System.Unreached` says that nobody is left.
* **`Unreached.turn_cases`**: then the hub is the only part of the gateway that does anything to its
  connections and queues.
* **`winds_up`**: the hub can end, and however it comes to its end, it has served its mailbox first.
-/

namespace MarketGate

namespace Hub

/-! ## Letting everyone go -/

/-- Everyone is let go of: connections that were registered drain, and queues lose their senders and
nothing else.  Whoever had no entry notices nothing, and of the metrics only the gauge is set. -/
structure Flushed (h h' : Hub) : Prop where
  registry : h'.registry = []
  connections : ∀ key, h'.connections[key]? = (h.connections[key]?).map fun c =>
    if (∃ e ∈ h.registry, e.2.connection = key) ∧ c.phase = .registered then
      { c with phase := .draining }
    else c
  queues : ∀ key, h'.queues[key]? = (h.queues[key]?).map fun q =>
    if ∃ e ∈ h.registry, e.2.queue = key then { q with hasSender := false } else q
  metrics : h'.metrics = { h.metrics with activeConnections := 0 }

theorem flushed_stop (h : Hub) : h.Flushed h.stop where
  registry := rfl
  connections key := by
    rw [connections_stop]
    split_ifs with hseated
    · simp only [hseated, true_and]
      rfl
    · simp [hseated]
  queues key := by
    rw [queues_stop]
    split_ifs
    · rfl
    · exact Option.map_id'.symm
  metrics := metrics_stop h

/-! ## What happens outside -/

/-- Whether an event is none of the hub's own.  Connections come into being connecting. -/
def Event.isOutside : Event → Bool
  | .enroll connection _ => connection.phase = .connecting
  | .command _ | .stop => false
  | _ => true

/-- The commands in a history, in their order. -/
def commands (events : List Event) : List Command :=
  events.filterMap fun
    | .command c => some c
    | _ => none

section Outside

variable {h : Hub} {event : Event}

lemma registry_step_of_isOutside (hout : event.isOutside = true) :
    (h.step event).registry = h.registry ∧ (h.step event).metrics = h.metrics := by
  cases event with
  | command c | stop => exact Bool.noConfusion hout
  | _ => exact ⟨rfl, rfl⟩

/-- What happens outside takes messages out of a queue at its front, and adds none. -/
lemma pending_step_of_isOutside (hout : event.isOutside = true) {key : Nat} {q : Queue}
    (hq : h.queues[key]? = some q) :
    ∃ q', (h.step event).queues[key]? = some q'
      ∧ q.pending = (h.polledAt key event).toList ++ q'.pending := by
  cases event with
  | command c | stop => exact Bool.noConfusion hout
  | enroll connection capacity =>
      obtain ⟨hlt, -⟩ := List.getElem?_eq_some_iff.1 hq
      exact ⟨q, by rw [step, List.getElem?_append_left hlt, hq], rfl⟩
  | poll k =>
      by_cases hk : k = key
      · subst hk
        refine ⟨q.poll.2, by simp [step, onQueue, hq], ?_⟩
        simpa [polledAt, hq] using q.pending_poll
      · exact ⟨q, by simp [step, onQueue, hk, hq], by simp [polledAt, hk]⟩
  | dropReceiver k =>
      by_cases hk : k = key
      · exact ⟨q.dropReceiver, by simp [step, onQueue, hk, hq], rfl⟩
      · exact ⟨q, by simp [step, onQueue, hk, hq], rfl⟩
  | _ => exact ⟨q, hq, rfl⟩

variable {events : List Event} (hout : ∀ e ∈ events, e.isOutside = true)

include hout

lemma registry_run_of_isOutside :
    (h.run events).registry = h.registry ∧ (h.run events).metrics = h.metrics := by
  induction events generalizing h with
  | nil => exact ⟨rfl, rfl⟩
  | cons event events ih =>
      obtain ⟨hregistry, hmetrics⟩ :=
        registry_step_of_isOutside (h := h) (hout event List.mem_cons_self)
      obtain ⟨hregistry', hmetrics'⟩ :=
        ih (h := h.step event) fun e he => hout e (List.mem_cons_of_mem _ he)
      exact ⟨hregistry'.trans hregistry, hmetrics'.trans hmetrics⟩

/-- **Nothing gets lost outside**: what was pending is taken out in its order or still pending. -/
lemma pending_run_of_isOutside {key : Nat} {q : Queue} (hq : h.queues[key]? = some q) :
    ∃ q', (h.run events).queues[key]? = some q'
      ∧ q.pending = polled key events h ++ q'.pending := by
  induction events generalizing h q with
  | nil => exact ⟨q, hq, rfl⟩
  | cons event events ih =>
      obtain ⟨q₁, hq₁, hfirst⟩ := pending_step_of_isOutside (hout event List.mem_cons_self) hq
      obtain ⟨q₂, hq₂, hrest⟩ := ih (fun e he => hout e (List.mem_cons_of_mem _ he)) hq₁
      exact ⟨q₂, hq₂, by rw [hfirst, hrest, polled, List.append_assoc]⟩

end Outside

/-- **What is pending can be read**: a receiver that looks `n` times gets the first `n` of it. -/
lemma polled_replicate {h : Hub} {key : Nat} {q : Queue} (hq : h.queues[key]? = some q)
    (hreceiver : q.hasReceiver = true) (n : Nat) :
    polled key (List.replicate n (.poll key)) h = q.pending.take n := by
  induction n generalizing h q with
  | zero => rfl
  | succ n ih =>
      have hq' : (h.step (.poll key)).queues[key]? = some q.poll.2 := by simp [step, onQueue, hq]
      obtain ⟨taken, htaken⟩ := q.exists_taken_poll
      have hlater := ih hq' (by rw [htaken]; exact hreceiver)
      have hnow : h.polledAt key (.poll key) = q.poll.1 := by simp [polledAt, hq]
      rw [List.replicate_succ, polled, hlater, hnow]
      cases htake : q.take? with
      | none =>
          have hpoll : q.poll = (none, q) := by simp [Queue.poll, htake]
          simp [hpoll, Queue.take?_eq_none_iff.1 htake]
      | some taken =>
          obtain ⟨message, rest⟩ := taken
          have hpoll : q.poll = (some message, rest) := by simp [Queue.poll, htake, hreceiver]
          simp [hpoll, Queue.pending_of_take? htake]

/-- Where the registry is empty nobody is registered. -/
lemma Entries.phase_ne {h : Hub} {gone : List (Nat × Registration)} (he : h.Entries gone)
    (hnil : h.registry = []) : ∀ c ∈ h.connections, c.phase ≠ .registered := by
  intro c hc hregistered
  obtain ⟨key, hkey⟩ := List.getElem?_of_mem hc
  obtain ⟨e, hmem, -⟩ := he.seated key c hkey hregistered
  rw [hnil] at hmem
  exact List.not_mem_nil hmem

end Hub

/-- A writer that was never started, or is gone, makes no move. -/
lemma Writer.step?_eq_none_of_over {pingPeriod writeWait now : Nat} {move : Move} {v : Scene}
    (hover : v.writer.stage = .idle ∨ v.writer.stage = .done) :
    step? pingPeriod writeWait now move v = none := by
  obtain ⟨⟨stage, handed⟩, queue, connection⟩ := v
  change stage = .idle ∨ stage = .done at hover
  rcases hover with rfl | rfl <;> cases move <;> rfl

namespace System

/-! ## Nobody is left -/

/-- Nobody is left who could send the hub anything: the tasks of all clients are over, there is no
bridge, and nobody outside holds on to the hub. -/
structure Unreached (s : System) : Prop where
  attached : s.attached = false
  bridge : s.bridge.stage = .absent
  pumps : ∀ pump ∈ s.pumps, pump.stage = .returned
    ∧ (pump.reader.stage = .idle ∨ pump.reader.isDone = true)
    ∧ (pump.writer.stage = .idle ∨ pump.writer.stage = .done)

/-- A step of the gateway, or something that happens to a connection or a queue outside of it. -/
inductive Turn where
  | task (action : Action)
  | outside (event : Hub.Event)

/-- The state after a turn, if it is possible. -/
def turn? (turn : Turn) (s : System) : Option System :=
  match turn with
  | .task action => s.step? action
  | .outside event => if event.isOutside then some (s.onHub (Hub.step event)) else none

/-- The state after a list of turns, if all of them are possible one after the other. -/
def turns? : List Turn → System → Option System
  | [], s => some s
  | turn :: rest, s => (s.turn? turn).bind (turns? rest)

/-- What happens to the hub in a turn. -/
def hubEvent? (turn : Turn) (s : System) : Option Hub.Event :=
  match turn with
  | .task .serve => s.mailbox.head?.map .command
  | .task .stopHub => some .stop
  | .task _ => none
  | .outside event => some event

/-- What happens to the hub in the course of a list of turns. -/
def history : List Turn → System → List Hub.Event
  | [], _ => []
  | turn :: rest, s => (s.hubEvent? turn).toList ++ ((s.turn? turn).map (history rest)).getD []

section Unreached

variable {s s' : System} {turn : Turn}

/-- The turns that are left, by what happens to the hub. -/
inductive Remains (s : System) : Option Hub.Event → System → Prop
  /-- Something that the hub has nothing to do with. -/
  | quiet {s' : System} (hhub : s'.hub = s.hub) (hloop : s'.loop = s.loop)
      (hmailbox : s'.mailbox = s.mailbox) : Remains s none s'
  | outside {event : Hub.Event} (hout : event.isOutside = true) :
      Remains s (some event) (s.onHub (Hub.step event))
  | serve {s' : System} {command : Command} (hrun : s.loop = .running)
      (hmailbox : s.mailbox = command :: s'.mailbox) (hhub : s'.hub = s.hub.apply command)
      (hloop : s'.loop = .running) : Remains s (some (.command command)) s'
  | stop {s' : System} (hrun : s.loop = .running) (hmailbox : s.mailbox = [])
      (hhub : s'.hub = s.hub.stop) (hloop : s'.loop = .stopped) (hmailbox' : s'.mailbox = []) :
      Remains s (some .stop) s'

/-- The tasks of a client that are over do not go on. -/
lemma Unreached.step?_pump_eq_none (hu : s.Unreached) (p : Nat) :
    s.enter? p = none ∧ s.leave? p = none ∧ (∀ move, s.read? p move = none)
      ∧ ∀ move, s.write? p move = none := by
  cases hp : s.pumps[p]? with
  | none => simp [enter?, leave?, read?, write?, hp]
  | some pump =>
      obtain ⟨hstage, hreader, hwriter⟩ := hu.pumps pump (List.mem_of_getElem? hp)
      refine ⟨?_, ?_, fun move => ?_, fun move => ?_⟩
      · cases hc : s.hub.connections[pump.connection]? <;> simp [enter?, hp, hc, hstage]
      · simp [leave?, hp, hstage]
      · cases hc : s.hub.connections[pump.connection]? with
        | none => simp [read?, hp, hc]
        | some conn =>
            rcases hreader with hidle | hdone
            · simp [read?, hp, hc, hidle]
            · obtain ⟨reason, hdone⟩ := Reader.stage_of_isDone hdone
              simp [read?, hp, hc, hdone]
      · cases hc : s.hub.connections[pump.connection]? with
        | none => simp [write?, hp, hc]
        | some conn =>
            cases hq : s.hub.queues[pump.queue]? with
            | none => simp [write?, hp, hc, hq]
            | some queue =>
                have hnone : Writer.step? s.settings.pingPeriod s.settings.writeWait s.now move
                    ⟨pump.writer, queue, conn⟩ = none := Writer.step?_eq_none_of_over hwriter
                simp [write?, hp, hc, hq, hnone]

/-- **Only the hub is left**: no other task does anything to connections, queues or the mailbox, and
nobody comes back. -/
theorem Unreached.turn_cases (hu : s.Unreached) (hturn : s.turn? turn = some s')
    (hkept : turn ≠ .task .loseHub) : s'.Unreached ∧ s.Remains (s.hubEvent? turn) s' := by
  have same {u : System} (hattached : u.attached = false) (hbridge : u.bridge.stage = .absent)
      (hpumps : u.pumps = s.pumps) : u.Unreached := ⟨hattached, hbridge, hpumps ▸ hu.pumps⟩
  cases turn with
  | outside event =>
      simp only [turn?] at hturn
      split_ifs at hturn with hout
      cases hturn
      exact ⟨same hu.attached hu.bridge rfl, .outside hout⟩
  | task action =>
      cases action with
      | serve =>
          simp only [turn?, step?, serve?] at hturn
          split at hturn
          · next command rest hrun hmailbox =>
              cases hturn
              have hevent : s.hubEvent? (.task .serve) = some (.command command) := by
                simp [hubEvent?, hmailbox]
              rw [hevent]
              exact ⟨same hu.attached hu.bridge rfl, .serve hrun hmailbox rfl hrun⟩
          · cases hturn
      | stopHub =>
          simp only [turn?, step?, stopHub?] at hturn
          split_ifs at hturn with hcond
          cases hturn
          exact ⟨same hu.attached hu.bridge rfl, .stop hcond.1 hcond.2.1 rfl rfl hcond.2.1⟩
      | loseHub => exact absurd rfl hkept
      | enter p | leave p =>
          simp only [turn?, step?, hu.step?_pump_eq_none p] at hturn
          cases hturn
      | read p move | write p move =>
          simp only [turn?, step?, hu.step?_pump_eq_none p] at hturn
          cases hturn
      | connect peer | request command | newBridge =>
          simp only [turn?, step?, hu.attached] at hturn
          cases hturn
      | pollOnce | runBridge =>
          simp only [turn?, step?, startBridge?, hu.bridge] at hturn
          cases hturn
      | bridge =>
          simp only [turn?, step?, bridgeStep?, hu.bridge] at hturn
          cases hturn
      | detach =>
          cases hturn
          exact ⟨same rfl rfl rfl, .quiet rfl rfl rfl⟩
      | _ =>
          cases hturn
          exact ⟨same hu.attached hu.bridge rfl, .quiet rfl rfl rfl⟩

end Unreached

section WindsUp

variable {s t : System} {turns : List Turn}

/-- A list of turns that makes one, and then the rest. -/
lemma turns?_cons {turn : Turn} (h : turns? (turn :: turns) s = some t) :
    ∃ s', s.turn? turn = some s' ∧ turns? turns s' = some t
      ∧ history (turn :: turns) s = (s.hubEvent? turn).toList ++ history turns s' := by
  obtain ⟨s', hturn, hrest⟩ := Option.bind_eq_some_iff.1 h
  exact ⟨s', hturn, hrest, by rw [history, hturn]; rfl⟩

/-- Where the end of the hub stands, when this happened to it since nobody is left. -/
inductive Stands (s t : System) (events : List Hub.Event) : Prop
  /-- It is working through the mailbox. -/
  | serving (hloop : t.loop = .running) (hunreached : t.Unreached) (hstop : .stop ∉ events)
      (hmailbox : Hub.commands events ++ t.mailbox = s.mailbox)
  /-- It has let everyone go. -/
  | ended (hloop : t.loop = .stopped) (hmailbox : t.mailbox = [])
      {during after : List Hub.Event} (hevents : events = during ++ .stop :: after)
      (hstop : .stop ∉ during) (hserved : Hub.commands during = s.mailbox)
      (hout : ∀ event ∈ after, event.isOutside = true)

/-- After the end of the hub there is nothing but what happens outside. -/
lemma Unreached.run_stopped (hu : s.Unreached) (hkept : .task .loseHub ∉ turns)
    (hrun : turns? turns s = some t) (hloop : s.loop = .stopped) :
    t.loop = .stopped ∧ t.mailbox = s.mailbox ∧ t.hub = s.hub.run (history turns s)
      ∧ ∀ event ∈ history turns s, event.isOutside = true := by
  induction turns generalizing s with
  | nil =>
      obtain rfl := Option.some.inj hrun
      exact ⟨hloop, rfl, rfl, by simp [history]⟩
  | cons turn turns ih =>
      obtain ⟨s', hturn, hrest, hhistory⟩ := turns?_cons hrun
      rw [List.mem_cons, not_or] at hkept
      obtain ⟨hu', hremains⟩ := hu.turn_cases hturn (Ne.symm hkept.1)
      rw [hhistory]
      generalize s.hubEvent? turn = event at hremains ⊢
      cases hremains with
      | quiet hhub hloop' hmailbox =>
          rw [← hhub, ← hmailbox]
          exact ih hu' hkept.2 hrest (hloop'.trans hloop)
      | outside hout =>
          obtain ⟨hloop', hmailbox, hhub, houts⟩ := ih hu' hkept.2 hrest hloop
          refine ⟨hloop', hmailbox, hhub, ?_⟩
          intro event hevent
          rcases List.mem_append.1 hevent with hfirst | hlater
          · obtain rfl := List.mem_singleton.1 hfirst
            exact hout
          · exact houts event hlater
      | serve hrunning | stop hrunning =>
          rw [hloop] at hrunning
          exact HubLoop.noConfusion hrunning

/-- What happens to the hub while it is working through the mailbox comes before the rest. -/
lemma Stands.cons {s' : System} {event : Hub.Event} {events : List Hub.Event}
    (hstands : s'.Stands t events) (hne : event ≠ .stop)
    (hmailbox : s.mailbox = Hub.commands [event] ++ s'.mailbox) : s.Stands t (event :: events) := by
  have hcommands : ∀ later, Hub.commands (event :: later)
      = Hub.commands [event] ++ Hub.commands later := fun later =>
    List.filterMap_append (l := [event])
  cases hstands with
  | serving hloop hunreached hstop hserved =>
      refine .serving hloop hunreached (by simp [hne.symm, hstop]) ?_
      rw [hcommands, List.append_assoc, hserved, hmailbox]
  | @ended hloop hempty during after hevents hstop hserved hout =>
      have hevents' : event :: events = (event :: during) ++ .stop :: after := by
        rw [hevents]
        rfl
      refine .ended hloop hempty hevents' (by simp [hne.symm, hstop]) ?_ hout
      rw [hcommands, hserved, hmailbox]

/-- **The mailbox comes first**: the hub is working through it, or has done so before its end. -/
theorem Unreached.stands (hu : s.Unreached) (hkept : .task .loseHub ∉ turns)
    (hrun : turns? turns s = some t) (hloop : s.loop = .running) :
    t.hub = s.hub.run (history turns s) ∧ s.Stands t (history turns s) := by
  induction turns generalizing s with
  | nil =>
      obtain rfl := Option.some.inj hrun
      exact ⟨rfl, .serving hloop hu (by simp [history]) rfl⟩
  | cons turn turns ih =>
      obtain ⟨s', hturn, hrest, hhistory⟩ := turns?_cons hrun
      rw [List.mem_cons, not_or] at hkept
      obtain ⟨hu', hremains⟩ := hu.turn_cases hturn (Ne.symm hkept.1)
      rw [hhistory]
      generalize s.hubEvent? turn = event at hremains ⊢
      cases hremains with
      | quiet hhub hloop' hmailbox =>
          obtain ⟨hafter, hstands⟩ := ih hu' hkept.2 hrest (hloop'.trans hloop)
          rw [hhub] at hafter
          refine ⟨hafter, ?_⟩
          cases hstands with
          | serving hloop hunreached hstop hserved =>
              exact .serving hloop hunreached hstop (hserved.trans hmailbox)
          | ended hloop hempty hevents hstop hserved hout =>
              exact .ended hloop hempty hevents hstop (hserved.trans hmailbox) hout
      | @outside event hout =>
          obtain ⟨hafter, hstands⟩ := ih hu' hkept.2 hrest hloop
          refine ⟨hafter, hstands.cons ?_ ?_⟩
          · rintro rfl
            exact Bool.noConfusion hout
          · cases event with
            | command c => exact Bool.noConfusion hout
            | _ => rfl
      | serve hrunning hmailbox hhub hloop' =>
          obtain ⟨hafter, hstands⟩ := ih hu' hkept.2 hrest hloop'
          rw [hhub] at hafter
          exact ⟨hafter, hstands.cons Hub.Event.noConfusion hmailbox⟩
      | stop hrunning hmailbox hhub hloop' hmailbox' =>
          obtain ⟨hstopped, hempty, hafter, hout⟩ := hu'.run_stopped hkept.2 hrest hloop'
          rw [hhub] at hafter
          have hfirst : ∀ events : List Hub.Event, .stop :: events = [] ++ .stop :: events :=
            fun _ => rfl
          exact ⟨hafter, .ended hstopped (hempty.trans hmailbox') (hfirst _) List.not_mem_nil
            hmailbox.symm hout⟩

/-- The hub can always go on: it serves what waits, and ends when nothing does. -/
lemma Unreached.exists_next (hu : s.Unreached) (hloop : s.loop = .running) :
    ∃ u, s.step? (if s.mailbox = [] then .stopHub else .serve) = some u := by
  cases hmailbox : s.mailbox with
  | nil =>
      have hpumps : s.pumps.all (fun p => !p.holdsHub) = true := by
        rw [List.all_eq_true]
        intro pump hpump
        simp [Pump.holdsHub, (hu.pumps pump hpump).1]
      rw [if_pos rfl]
      simp [step?, stopHub?, hloop, hmailbox, hu.attached, hpumps]
  | cons command rest =>
      obtain ⟨u, hserve, -⟩ := serve?_eq hloop hmailbox
      exact ⟨u, hserve⟩

/-- The hub can come to its end without anybody's help. -/
lemma Unreached.exists_end (hu : s.Unreached) (hloop : s.loop = .running) :
    ∃ t, turns? (List.replicate s.mailbox.length (.task .serve) ++ [.task .stopHub]) s = some t
      ∧ t.loop = .stopped := by
  generalize hlength : s.mailbox.length = n
  induction n generalizing s with
  | zero =>
      rw [List.length_eq_zero_iff] at hlength
      obtain ⟨u, hstop⟩ := hu.exists_next hloop
      rw [if_pos hlength] at hstop
      refine ⟨u, by simp [turns?, turn?, hstop], ?_⟩
      simp only [step?, stopHub?] at hstop
      split_ifs at hstop
      cases hstop
      rfl
  | succ n ih =>
      obtain ⟨command, rest, hmailbox⟩ := List.exists_cons_of_length_eq_add_one hlength
      obtain ⟨u, hserve, -, hrest, -⟩ := serve?_eq hloop hmailbox
      have hturn : s.turn? (.task .serve) = some u := hserve
      obtain ⟨hu', hremains⟩ := hu.turn_cases hturn (by simp)
      have hrunning : u.loop = .running := by
        rw [hubEvent?, hmailbox] at hremains
        cases hremains with
        | outside hout => exact Bool.noConfusion hout
        | serve hrun hmailbox hhub hloop => exact hloop
      obtain ⟨t, hrun, hstopped⟩ := ih hu' hrunning (by simpa [hrest, hmailbox] using hlength)
      exact ⟨t, by simpa [List.replicate_succ, turns?, turn?, step?, hserve] using hrun, hstopped⟩

/-- Connections come into being connecting. -/
lemma phase_of_mem_history (hrun : turns? turns s = some t) {c : Connection} {n : Nat}
    (hmem : .enroll c n ∈ history turns s) : c.phase = .connecting := by
  induction turns generalizing s with
  | nil => exact absurd hmem (by simp [history])
  | cons turn turns ih =>
      obtain ⟨s', hturn, hrest, hhistory⟩ := turns?_cons hrun
      rw [hhistory, List.mem_append, Option.mem_toList] at hmem
      rcases hmem with hnow | hlater
      · cases turn with
        | outside event =>
            obtain rfl := Option.mem_some.1 hnow
            simp only [turn?] at hturn
            split_ifs at hturn with hout
            exact of_decide_eq_true hout
        | task action =>
            cases action with
            | serve =>
                obtain ⟨command, -, heq⟩ := Option.map_eq_some_iff.1 (Option.mem_def.1 hnow)
                cases heq
            | _ => cases hnow
      · exact ih hrest hlater

end WindsUp

/-- **The end of a hub.**  From the moment on when nobody is left who could send it anything, the
hub can come to its end by itself.  Whatever else happens meanwhile, it serves what is in its
mailbox, in its order, and nothing else, and it can always go on.  When it has ended, all of the
mailbox has been served before; then everyone who is registered is let go of, nobody's connection is
registered any more, and what was pending in a queue is read from it, or still there, from then
on. -/
theorem winds_up {s : System} {events : List Hub.Event} (hhub : s.hub = Hub.run events {})
    (hnew : ∀ c n, .enroll c n ∈ events → c.phase = .connecting) (hloop : s.loop = .running)
    (hunreached : s.Unreached) :
    (∃ t, turns? (List.replicate s.mailbox.length (.task .serve) ++ [.task .stopHub]) s = some t
        ∧ t.loop = .stopped)
      ∧ ∀ (turns : List Turn) (t : System), .task .loseHub ∉ turns → turns? turns s = some t →
        t.hub = s.hub.run (history turns s)
        ∧ if t.loop = .running then
            .stop ∉ history turns s
              ∧ Hub.commands (history turns s) ++ t.mailbox = s.mailbox
              ∧ ∃ u, t.step? (if t.mailbox = [] then .stopHub else .serve) = some u
          else ∃ during after,
            history turns s = during ++ .stop :: after
              ∧ .stop ∉ during
              ∧ Hub.commands during = s.mailbox
              ∧ (∀ event ∈ after, event.isOutside = true)
              ∧ t.mailbox = []
              ∧ (s.hub.run during).Flushed (s.hub.run during).stop
              ∧ (∀ c ∈ (s.hub.run during).stop.connections, c.phase ≠ .registered)
              ∧ (∀ key q, (s.hub.run during).queues[key]? = some q →
                (q.hasReceiver = true → ∀ n,
                  Hub.polled key (List.replicate n (.poll key)) (s.hub.run during).stop
                    = q.pending.take n)
                ∧ ∃ q', t.hub.queues[key]? = some q'
                  ∧ q.pending = Hub.polled key after (s.hub.run during).stop ++ q'.pending)
              ∧ t.hub.registry = []
              ∧ t.hub.metrics = (s.hub.run during).stop.metrics
              ∧ ∀ c ∈ t.hub.connections, c.phase ≠ .registered := by
  refine ⟨hunreached.exists_end hloop, ?_⟩
  intro turns t hkept hrun
  obtain ⟨hafter, hstands⟩ := hunreached.stands hkept hrun hloop
  refine ⟨hafter, ?_⟩
  cases hstands with
  | serving hrunning hunreached' hstop hserved =>
      rw [if_pos hrunning]
      exact ⟨hstop, hserved, hunreached'.exists_next hrunning⟩
  | @ended hstopped hempty during after hevents hstop hserved hout =>
      rw [if_neg (by simp [hstopped])]
      -- nobody is registered where there are no entries, now and later
      have hnobody : ∀ later, (∀ c n, .enroll c n ∈ later → c.phase = .connecting) →
          (s.hub.run later).registry = [] → ∀ c ∈ (s.hub.run later).connections,
            c.phase ≠ .registered := by
        intro later hconnecting
        rw [hhub, ← Hub.run_append]
        have hall : ∀ c n, .enroll c n ∈ events ++ later → c.phase = .connecting := fun c n hmem =>
          (List.mem_append.1 hmem).elim (hnew c n) (hconnecting c n)
        exact (Hub.ledger_nil.run hall).toEntries.phase_ne
      have hhistory : ∀ c n, .enroll c n ∈ history turns s → c.phase = .connecting := fun _ _ =>
        phase_of_mem_history hrun
      have hend : s.hub.run (during ++ [.stop]) = (s.hub.run during).stop := by
        rw [Hub.run_append]
        rfl
      have htail : t.hub = (s.hub.run during).stop.run after := by
        rw [hafter, hevents, Hub.run_append]
        rfl
      obtain ⟨hregistry, hmetrics⟩ := Hub.registry_run_of_isOutside (h := (s.hub.run during).stop)
        hout
      rw [← htail] at hregistry hmetrics
      have hflushed := Hub.flushed_stop (s.hub.run during)
      refine ⟨during, after, hevents, hstop, hserved, hout, hempty, hflushed, ?_, ?_, hregistry,
        hmetrics, ?_⟩
      · rw [← hend]
        refine hnobody _ (fun c n hmem => hhistory c n ?_) (by rw [hend]; rfl)
        rw [hevents]
        simp only [List.mem_append, List.mem_singleton, reduceCtorEq, or_false] at hmem
        exact List.mem_append_left _ hmem
      · intro key q hq
        have hstop := hflushed.queues key
        rw [hq, Option.map_some] at hstop
        obtain ⟨q', hq', hpending⟩ := Hub.pending_run_of_isOutside hout hstop
        rw [← htail] at hq'
        constructor
        · intro hreceiver n
          rw [Hub.polled_replicate hstop (by split_ifs <;> exact hreceiver)]
          split_ifs <;> rfl
        · refine ⟨q', hq', ?_⟩
          rw [← hpending]
          split_ifs <;> rfl
      · rw [hafter] at hregistry ⊢
        exact hnobody _ hhistory hregistry

/-- What has happened to a hub with three connections, two of which are registered.  The queue of
the second one is full. -/
def rushHour : List Hub.Event :=
  [.enroll { id := 1 } 2, .enroll { id := 2 } 1, .enroll { id := 3 } 1,
    .command (.register ⟨0, 0⟩), .command (.register ⟨1, 1⟩), .command (.broadcast [7])]

/-- Everyone lets go of that hub, and it has not come to the last registration yet, nor to a message
that the second connection has no room for. -/
def backlog (settings : Settings) : System where
  settings := settings
  hub := Hub.run rushHour {}
  mailbox := [.register ⟨2, 2⟩, .broadcast [8], .unregister 9, .count 0]
  attached := false

/-- The third connection begins to close while the hub works through its mailbox, and its last
message is read when the hub is gone: it goes on closing, and the others drain. -/
theorem winds_up_of_backlog :
    let s := backlog
      { route := .relay, queueCapacity := 2, writeWait := 1, pongWait := 3, pingPeriod := 2,
        pollBatch := 1, idleBackoff := { nanos := 0 } }
    let turns := [Turn.task .serve, .outside (.beginClosing 2), .task .serve, .outside (.poll 0),
      .task .serve, .task .serve, .task .stopHub, .outside (.poll 2)]
    ∃ t during after, turns? turns s = some t
      ∧ history turns s = during ++ .stop :: after
      ∧ Hub.commands during = s.mailbox
      ∧ t.hub.registry = []
      ∧ t.hub.connections.map (fun c => c.phase) = [.draining, .draining, .closing]
      ∧ t.hub.queues.map (fun q => (q.pending, q.hasSender)) = [([[8]], false), ([[7]], false),
          ([], false)]
      ∧ t.hub.metrics.activeConnections = 0
      ∧ t.hub.metrics.registrations = 3
      ∧ t.hub.metrics.backpressureDisconnects = 1 := by
  intro s turns
  have hnew : ∀ c n, .enroll c n ∈ rushHour → c.phase = .connecting := by
    intro c n hmem
    simp only [rushHour, List.mem_cons, Hub.Event.enroll.injEq, reduceCtorEq, List.not_mem_nil,
      or_false] at hmem
    rcases hmem with ⟨rfl, -⟩ | ⟨rfl, -⟩ | ⟨rfl, -⟩ <;> rfl
  have hunreached : s.Unreached := ⟨rfl, rfl, by simp [s, backlog]⟩
  obtain ⟨-, hends⟩ := winds_up rfl hnew rfl hunreached
  obtain ⟨t, hrun, hloop, hphases, hqueues, hmetrics⟩ : ∃ t, turns? turns s = some t
      ∧ t.loop = .stopped
      ∧ t.hub.connections.map (fun c => c.phase) = [.draining, .draining, .closing]
      ∧ t.hub.queues.map (fun q => (q.pending, q.hasSender)) = [([[8]], false), ([[7]], false),
          ([], false)]
      ∧ t.hub.metrics.activeConnections = 0 ∧ t.hub.metrics.registrations = 3
      ∧ t.hub.metrics.backpressureDisconnects = 1 :=
    ⟨_, rfl, rfl, by decide, by decide, by decide⟩
  obtain ⟨-, hend⟩ := hends turns t (by simp [turns]) hrun
  rw [if_neg (by simp [hloop])] at hend
  obtain ⟨during, after, hhistory, -, hserved, -, -, -, -, -, hregistry, -⟩ := hend
  exact ⟨t, during, after, hrun, hhistory, hserved, hregistry, hphases, hqueues, hmetrics⟩

end System

end MarketGate
