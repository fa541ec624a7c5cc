import MarketGate.Proofs.System.OrderPath

/-!
# The path of a message from client to client

Where clients talk to each other, a reader sends each binary message on to the hub, and waits while
there is no room in the mailbox.  The hub serves what was sent in the order in which it was sent, no
matter whom it has to drop meanwhile, and gives it to every client that is registered, the sender
included.

* `System.relayed` are the messages of clients in a list of requests.
* **`System.Readers.relays`**: what the readers send on are the messages that they deal with.
* **`System.Wired.serve_broadcast`**: a registered client with room gets a message and stays.
* **`relayed_of_messages`**: what the hub broadcasts in a run, and who gets it.
-/

namespace MarketGate

namespace System

/-- The messages of clients in a list of requests. -/
def relayed (requests : List (Sender × Command)) : List Bytes :=
  requests.filterMap fun
    | (.reader _, .broadcast payload) => some payload
    | _ => none

lemma relayed_append (first second : List (Sender × Command)) :
    relayed (first ++ second) = relayed first ++ relayed second := List.filterMap_append

/-- Nobody but a reader relays. -/
lemma relayed_of_other {who : Sender} (hother : ∀ p, who ≠ .reader p) (sent : List Command) :
    relayed (sent.map fun c => (who, c)) = [] := by
  rw [relayed, List.filterMap_map, List.filterMap_eq_nil_iff]
  intro c _
  cases who with
  | reader p => exact absurd rfl (hother p)
  | bridge | other => rfl

section Step

variable {s s' : System} {action : Action} {p : Nat}

/-- Where clients talk to each other, what is at hand is about to be sent on. -/
lemma Readers.not_publishing (h : s.Readers) (hroute : s.settings.route = .relay) {pump : Pump}
    (hpump : s.pumps[p]? = some pump) (data : Bytes) (deadline : Nat) :
    pump.reader.stage ≠ .publishing data deadline := by
  intro hstage
  have hgoes := (h pump (List.mem_of_getElem? hpump)).goesBy
  rw [hstage, hroute] at hgoes
  cases hgoes

/-- There nothing is accepted or counted as an order. -/
lemma Readers.keepsBooks (h : s.Readers) (hroute : s.settings.route = .relay)
    (hstep : s.step? action = some s') : s.KeepsBooks action s' := by
  refine keepsBooks_step? ?_ hstep
  rintro p move rfl
  obtain ⟨pump, hpump, hreads⟩ := reads_of_read? hstep
  cases hreads with
  | relay | relayRefused => exact ⟨rfl, rfl, rfl, rfl⟩
  | publish number hstage => exact absurd hstage (h.not_publishing hroute hpump _ _)
  | turn hidle hbefore hafter hgoes hpumps hsides => exact hsides.toKeepsOrders

/-- **With a running hub, what the readers send on are the messages that they deal with.** -/
theorem Readers.relays (h : s.Readers) (hroute : s.settings.route = .relay)
    (hloop : s.loop = .running) (hstep : s.step? action = some s') :
    relayed ((s'.mailbox.drop s.mailbox.length).map fun c => (action.sender, c))
      = (s.handledAt action).toList.map Handling.message := by
  cases hx : s.handledAt action with
  | none =>
      by_cases hread : ∃ p move, action = .read p move
      · obtain ⟨p, move, rfl⟩ := hread
        rcases (of_handledAt_eq_none hx hstep).2 with hsame | ⟨id, hmailbox⟩
        · rw [hsame, List.drop_length]
          rfl
        · rw [hmailbox, List.drop_left]
          rfl
      · have hother : ∀ p, action.sender ≠ .reader p := by
          intro p hsender
          cases action with
          | read k move => exact hread ⟨k, move, rfl⟩
          | _ => cases hsender
        exact relayed_of_other hother _
  | some x =>
      obtain ⟨rfl, -, pump, deadline, hpump, hcases⟩ := handling_cases hx hstep
      rcases hcases with ⟨-, -, rfl⟩ | ⟨-, hgone, -⟩ | ⟨hstage, -⟩
      · have hmailbox : (s.mailbox ++ [Command.broadcast x.message]).drop s.mailbox.length
            = [.broadcast x.message] := List.drop_left
        exact congrArg (fun sent => relayed (sent.map fun c => (Sender.reader x.client, c)))
          hmailbox
      · exact absurd hloop hgone
      · exact absurd hstage (h.not_publishing hroute hpump _ _)

/-- A reader with a message at hand sends it on when there is room in the mailbox. -/
lemma Wired.step?_relaying (hw : s.Wired) (hloop : s.loop = .running) {pump : Pump}
    (hpump : s.pumps[p]? = some pump) {data : Bytes} {deadline : Nat}
    (hstage : pump.reader.stage = .relaying data deadline)
    (hroom : s.mailbox.length < mailboxCapacity) :
    s.step? (.read p .proceed)
      = some (({ s with mailbox := s.mailbox ++ [.broadcast data] } : System).setReader p
        (.waiting deadline)) := by
  obtain ⟨v, hview, rfl⟩ := hw.exists_view hpump
  obtain ⟨-, hconnection, -, hc, -⟩ := hw.parts hview
  simp [step?, read?, hpump, hconnection, hc, hstage, send?, hloop, hroom]

/-- **When the hub serves a broadcast, a registered client with room gets the message and stays
registered.** -/
theorem Wired.serve_broadcast (hw : s.Wired) (hloop : s.loop = .running) {payload : Bytes}
    {rest : List Command} (hmailbox : s.mailbox = .broadcast payload :: rest) {v : View}
    (hview : s.view? p = some v) (hregistered : v.seat.registered = true)
    (hreceiver : v.seat.queue.hasReceiver = true)
    (hroom : v.seat.queue.size < v.seat.queue.capacity) :
    ∃ s' v', s.step? .serve = some s' ∧ s'.view? p = some v' ∧ v'.seat.registered = true
      ∧ v'.seat.queue = { v.seat.queue with log := v.seat.queue.log ++ [payload] } := by
  have hserves : (s.step? .serve).isSome = true := by
    simp [step?, serve?, hloop, hmailbox]
  obtain ⟨s', hstep⟩ := Option.isSome_iff_exists.1 hserves
  have horderly : Action.serve.isOrderly = true := rfl
  have hcourse := hw.course horderly hstep
  have hlabel : s.servedAt .serve = some (.broadcast payload) := by
    simp [servedAt, hmailbox]
  rw [hlabel] at hcourse
  obtain ⟨v', hview', hviewstep⟩ := hw.step_view hcourse hview
  have haccepts : v.seat.queue.refuses = false := by
    simp [Queue.refuses, hreceiver, hroom]
  have hseat : v.seat.apply p (.broadcast payload)
      = { v.seat with queue := { v.seat.queue with log := v.seat.queue.log ++ [payload] } } := by
    simp [Seat.apply, Seat.receive, haccepts, hregistered]
  cases hviewstep with
  | serve =>
      refine ⟨s', _, hstep, hview', ?_⟩
      rw [hseat]
      exact ⟨hregistered, rfl⟩

end Step

section Run

variable {settings : Settings} {actions : List Action} {t : System}

/-- In the course of a run the readers send on what they deal with. -/
lemma relayed_requests (hroute : settings.route = .relay)
    (hrun : run? actions (start settings) = some t) (hloop : t.loop = .running) :
    relayed (requests actions (start settings))
      = (handled actions (start settings)).map Handling.message := by
  refine run_readers (P := fun past u => u.loop = .running →
    relayed (requests past (start settings))
      = (handled past (start settings)).map Handling.message) rfl (fun _ => rfl) ?_ hrun hloop
  intro past action u u' hpast hreaders hsame ih hstep hloop'
  have hloop : u.loop = .running := running_step? hstep hloop'
  rw [requests] at ih ⊢
  rw [trace_concat hpast hstep, handled_concat hpast hstep, relayed_append, List.map_append,
    ih hloop, hreaders.relays (hsame ▸ hroute) hloop hstep]

/-- In the course of a run nothing is accepted or counted as an order. -/
lemma keepsBooks_run (hroute : settings.route = .relay)
    (hrun : run? actions (start settings) = some t) :
    drained actions (start settings) ++ t.forwarder.publication.accepted = []
      ∧ t.hub.metrics.malformed = 0 ∧ t.hub.metrics.outcomes = {} := by
  refine run_readers (P := fun past u =>
    drained past (start settings) ++ u.forwarder.publication.accepted = []
      ∧ u.hub.metrics.malformed = 0 ∧ u.hub.metrics.outcomes = {}) rfl ⟨rfl, rfl, rfl⟩ ?_ hrun
  rintro past action u u' hpast hreaders hsame ⟨haccepted, hmalformed, houtcomes⟩ hstep
  have hkeeps := hreaders.keepsBooks (hsame ▸ hroute) hstep
  refine ⟨?_, hkeeps.malformed.trans hmalformed, hkeeps.outcomes.trans houtcomes⟩
  rw [drained, trace_concat hpast hstep, List.append_assoc, hkeeps.accepted]
  exact haccepted

/-- **The path of a message from client to client.**  Take any run of a gateway whose clients talk
to each other and whose hub is there in the end, in which only pumps register.  Its readers deal
with the binary messages of each client in their order, one at a time.  What was sent to the hub is
what it has served, in the same order, and what waits in its mailbox; and the messages of clients in
it are put together from one list for each client, in its order: the messages that its reader has
dealt with.  A client that is registered has got in its queue all that the hub has broadcast since
it served the registration, in that order, and its writer hands that over; when a broadcast is
served, a registered client with room gets it and stays registered.  A reader with a message at hand
sends it as soon as there is room.  And no order is published, and nothing is counted as one. -/
theorem relayed_of_messages (settings : Settings) (actions : List Action) (t : System)
    (hroute : settings.route = .relay) (horderly : ∀ action ∈ actions, action.isOrderly = true)
    (hrun : run? actions (start settings) = some t) (hloop : t.loop = .running) :
    let s := start settings
    let commands := served actions s
    (∀ p, messagesOf p actions
        = (handledOf p actions s).map Handling.message ++ (t.inHand? p).toList)
      ∧ (∃ log waiting, requests actions s = log ++ waiting
        ∧ log.map Prod.snd = commands ∧ waiting.map Prod.snd = t.mailbox
        ∧ Interleaves (fun p => (handledOf p actions s).map Handling.message)
          (relayed log ++ relayed waiting))
      ∧ (∀ (p : Nat) (pump : Pump), t.pumps[p]? = some pump →
        let entered := Command.register ⟨pump.connection, pump.queue⟩
        let earlier := (Command.payloads (commands.takeWhile (· ≠ entered))).length
        ∃ c q, t.hub.connections[pump.connection]? = some c
          ∧ t.hub.queues[pump.queue]? = some q
          ∧ (t.hub.isRegistered c.id = true → entered ∈ commands
            ∧ q.log = (Command.payloads commands).drop earlier
            ∧ (pump.writer.stage.isOver = false →
              pump.writer.binaries ++ pump.writer.stage.inHand ++ q.pending = q.log)
            ∧ ∀ payload rest, t.mailbox = .broadcast payload :: rest →
              q.hasReceiver = true → q.size < q.capacity →
              ∃ t', t.step? .serve = some t' ∧ t'.hub.isRegistered c.id = true
                ∧ t'.hub.queues[pump.queue]? = some { q with log := q.log ++ [payload] })
          ∧ ∀ data deadline, pump.reader.stage = .relaying data deadline →
            t.mailbox.length < mailboxCapacity →
            t.step? (.read p .proceed)
              = some (({ t with mailbox := t.mailbox ++ [.broadcast data] } : System).setReader p
                (.waiting deadline)))
      ∧ drained actions s ++ t.forwarder.publication.accepted = []
      ∧ t.hub.metrics.malformed = 0 ∧ t.hub.metrics.outcomes = {} := by
  intro s commands
  have hw : t.Wired := (wired_start settings).run horderly hrun
  refine ⟨messagesOf_eq rfl hrun, ?_, ?_, keepsBooks_run hroute hrun⟩
  · have hsent : commands ++ t.mailbox = (requests actions s).map Prod.snd :=
      (wired_start settings).served_append_mailbox horderly hrun hloop
    obtain ⟨log, waiting, hrequests, hlog, hwaiting⟩ := List.map_eq_append_iff.1 hsent.symm
    refine ⟨log, waiting, hrequests, hlog, hwaiting, ?_⟩
    rw [← relayed_append, ← hrequests, relayed_requests hroute hrun hloop]
    have hmerged := interleaves_filterMap (handled actions s) Handling.client
      fun x => some x.message
    simp only [List.filterMap_eq_map'] at hmerged
    exact hmerged
  · intro p pump hpump
    obtain ⟨v, hview, rfl⟩ := hw.exists_view hpump
    obtain ⟨-, hconnection, hqueue, hc, hq, hcid, hregistered, -⟩ := hw.parts hview
    have hsent : v.Sent p commands := sent_of_run settings horderly hrun hview
    rw [hconnection, hqueue]
    intro entered earlier
    refine ⟨_, _, hc, hq, ?_, ?_⟩
    · rw [hcid, ← hregistered]
      intro hin
      have hentered := hsent.entered hin
      refine ⟨hentered, ?_, ?_, ?_⟩
      · rw [hsent.current hin, Command.payloads_since hentered rfl]
      · intro hgoes
        have hheld : v.pump.writer.binaries ++ v.pump.writer.stage.inHand
            = v.seat.queue.received := hsent.faithful.held hgoes
        rw [hheld, Queue.received_append_pending]
      · intro payload rest hmailbox hreceiver hroom
        obtain ⟨t', v', hstep, hview', hstays, hgets⟩ :=
          hw.serve_broadcast hloop hmailbox hview hin hreceiver hroom
        have hserve : Action.serve.isOrderly = true := rfl
        have hcourse := hw.course hserve hstep
        obtain ⟨-, -, -, -, hq', -, hregistered', -⟩ := (hw.of_course hcourse).parts hview'
        refine ⟨t', hstep, hregistered' ▸ hstays, ?_⟩
        rw [hq', hgets]
    · intro data deadline hstage hroom
      exact hw.step?_relaying hloop hpump hstage hroom

/-- Two clients send a message each, an empty one and one that looks like an order.  The second
client is dropped when the hub serves its own message, because nobody has taken the first one from
its queue; the first client has got both. -/
theorem relayed_of_evicted_sender :
    let settings : Settings :=
      { route := .relay, queueCapacity := 1, writeWait := 10, pongWait := 60, pingPeriod := 50,
        pollBatch := 2, idleBackoff := { nanos := 1 } }
    let actions : List Action :=
      [.connect none, .connect none, .enter 0, .enter 1, .serve, .serve, .read 0 .proceed,
        .read 1 .proceed, .read 0 (.receive (.binary [])), .read 1 (.receive (.binary [79, 0])),
        .read 0 .proceed, .read 1 .proceed, .serve, .write 0 .proceed, .write 0 .proceed,
        .write 0 .dequeue, .serve]
    let s := start settings
    ∃ t q, run? actions s = some t ∧ t.hub.isRegistered 2 = false
      ∧ t.hub.queues[0]? = some q ∧ q.log = [[], [79, 0]]
      ∧ (handledOf 1 actions s).map Handling.message = [[79, 0]]
      ∧ relayed (requests actions s) = [[], [79, 0]] ∧ t.hub.metrics.malformed = 0 := by
  intro settings actions s
  have hrun : (run? actions s).any (fun t => t.loop = .running ∧ t.hub.isRegistered 1 = true
      ∧ t.hub.isRegistered 2 = false ∧ (t.hub.connections[0]?).map Connection.id = some 1
      ∧ (t.pumps[0]?).map (fun pump => (pump.connection, pump.queue)) = some (0, 0)
      ∧ t.inHand? 1 = none) = true := by
    decide +kernel
  rw [Option.any_eq_true] at hrun
  obtain ⟨t, hrun, hfacts⟩ := hrun
  obtain ⟨hloop, hfirst, hsecond, hid, hplace, hnone⟩ := of_decide_eq_true hfacts
  obtain ⟨hmessages, -, hclients, -, hmalformed, -⟩ :=
    relayed_of_messages settings actions t rfl (by decide) hrun hloop
  obtain ⟨pump, hpump, hplaces⟩ := Option.map_eq_some_iff.1 hplace
  obtain ⟨hconnection, hqueue⟩ := Prod.mk.inj hplaces
  obtain ⟨c, q, hc, hq, hin, -⟩ := hclients 0 pump hpump
  rw [hconnection] at hc
  rw [hqueue] at hq
  rw [hc, Option.map_some, Option.some.injEq] at hid
  obtain ⟨-, hlog, -⟩ := hin (hid ▸ hfirst)
  rw [hconnection, hqueue] at hlog
  have hhandled := hmessages 1
  rw [hnone, Option.toList_none, List.append_nil] at hhandled
  exact ⟨t, q, hrun, hsecond, hq, hlog.trans (by decide +kernel), hhandled.symm.trans rfl,
    by decide +kernel, hmalformed⟩

end Run

end System

end MarketGate
