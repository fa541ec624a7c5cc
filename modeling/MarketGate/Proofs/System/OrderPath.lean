import MarketGate.Proofs.System.Messages

/-!
# The path of an order

Where clients send orders, a reader that has taken a binary message decodes it.  What is no order is
counted and dropped; an order is offered to the publication as it came, behind a header, and the
outcome is counted.  Either way the reader goes on with its client, and nothing about the connection
has changed.

* `Publication.accepted` are the buffers that a publication has accepted and still shows, and
  `System.drained` those that were taken away from it.
* `Handling.buffer?` is the buffer that becomes of a message, if one does.
* `System.KeepsBooks` says that a step accepts and counts nothing.
* `System.Booked`: what was accepted and counted is what the handled messages say.
  **`System.Booked.step`**: the steps of a gateway keep it.
* **`accepted_of_messages`**: what is accepted and counted in a run, and that readers go on.
-/

namespace MarketGate

namespace Publication

/-- The buffers that a publication has accepted and still shows. -/
def accepted : Publication → List Bytes
  | memory p => p.published
  | socket p => p.queue.log

/-- An offer is accepted or changes nothing. -/
lemma accepted_offer (p : Publication) (buffer : Bytes) :
    (p.offer buffer).2.accepted = p.accepted ++ if p.accepts then [buffer] else [] := by
  cases p with
  | memory p =>
      simp only [offer, MemoryPublication.offer, accepts, accepted]
      by_cases hconnected : p.connected = true <;> by_cases hfull : p.backPressured = true <;>
        simp [hconnected, hfull]
  | socket p =>
      simp only [offer, SocketPublication.offer, accepts, accepted]
      unfold Queue.offer
      by_cases hreceiver : p.queue.hasReceiver = true
      · by_cases hroom : p.queue.size < p.queue.capacity
        · simp [hreceiver, hroom, Nat.not_le.2 hroom]
        · simp [hreceiver, hroom, Nat.not_lt.1 hroom]
      · simp [hreceiver]

end Publication

/-- Rehearsed answers come before any offer. -/
lemma Forwarder.accepted_offer (f : Forwarder) (buffer : Bytes) :
    (f.offer buffer).2.publication.accepted
      = f.publication.accepted ++ if f.isOpen then [buffer] else [] := by
  unfold offer isOpen
  cases f.rehearsed with
  | nil => exact f.publication.accepted_offer buffer
  | cons code rest => exact (List.append_nil _).symm

/-- The record of an order fits a fragment. -/
lemma Fragment.frame_of_decode {data : Bytes} {order : Order} (h : Order.decode data = .ok order) :
    ∃ buffer, frame data = .ok buffer := by
  have hlength : data.length = Order.recordLength := by
    by_contra hne
    simp [Order.decode, hne] at h
  exact ⟨_, frame_eq_ok_iff.2 ⟨by rw [hlength]; decide, rfl⟩⟩

namespace Handling

/-- Whether the message is no order. -/
def isMalformed (x : Handling) : Bool :=
  match Order.decode x.message with
  | .ok _ => false
  | .error _ => true

/-- The buffer that is accepted for the message: it is the fragment of an order that was offered
while the publication accepted. -/
def buffer? (x : Handling) : Option Bytes :=
  match Order.decode x.message, Fragment.frame x.message with
  | .ok _, .ok buffer => if x.accepting then some buffer else none
  | _, _ => none

end Handling

namespace System

/-- The buffers that are taken away from the publication at an action. -/
def drainedAt (action : Action) (s : System) : List Bytes :=
  match action, s.forwarder.publication with
  | .drain, .memory p => p.published
  | _, _ => []

/-- The buffers that are taken away from the publication in the course of a run. -/
def drained : List Action → System → List Bytes := trace fun action s _ => s.drainedAt action

/-- A step accepts and counts nothing. -/
structure KeepsBooks (action : Action) (s s' : System) : Prop where
  accepted : s.drainedAt action ++ s'.forwarder.publication.accepted
    = s.forwarder.publication.accepted
  outcomes : s'.hub.metrics.outcomes = s.hub.metrics.outcomes
  malformed : s'.hub.metrics.malformed = s.hub.metrics.malformed

section Step

variable {s s' : System} {action : Action}

lemma KeepsOrders.keepsBooks (h : s.KeepsOrders s') (hdrain : action ≠ .drain) :
    s.KeepsBooks action s' where
  accepted := by
    have hnone : s.drainedAt action = [] := by
      unfold drainedAt
      split
      · exact absurd rfl hdrain
      · rfl
    rw [hnone, h.forwarder, List.nil_append]
  outcomes := h.outcomes
  malformed := h.malformed

/-- Only readers make the publication accept something. -/
lemma keepsBooks_step? (hread : ∀ p move, action = .read p move → s.KeepsOrders s')
    (hstep : s.step? action = some s') : s.KeepsBooks action s' := by
  cases horders : action.touchesOrders with
  | false => exact (keepsOrders_step? horders hstep).keepsBooks (by rintro rfl; cases horders)
  | true =>
      cases action with
      | read p move => exact (hread p move rfl).keepsBooks nofun
      | setConnected value | setBackPressured value =>
          cases hstep
          refine ⟨?_, rfl, rfl⟩
          simp only [onMemory, drainedAt]
          cases s.forwarder.publication <;> rfl
      | drain =>
          cases hstep
          refine ⟨?_, rfl, rfl⟩
          simp only [onMemory, drainedAt]
          cases s.forwarder.publication with
          | memory p => exact List.append_nil _
          | socket p => rfl
      | _ => exact Bool.noConfusion horders

/-- A message that is dealt with as an order is counted as malformed, or the outcome of its offer is
counted and its buffer accepted if the publication accepts. -/
lemma books_publishOrder (number : Nat) {x : Handling} (hx : x.accepting = s.forwarder.isOpen) :
    (s.publishOrder number x.message).forwarder.publication.accepted
        = s.forwarder.publication.accepted ++ x.buffer?.toList
      ∧ (s.publishOrder number x.message).hub.metrics.malformed
        = s.hub.metrics.malformed + x.isMalformed.toNat
      ∧ (s.publishOrder number x.message).hub.metrics.outcomes.total
        = s.hub.metrics.outcomes.total + (!x.isMalformed).toNat := by
  unfold publishOrder Handling.buffer? Handling.isMalformed
  cases hdecode : Order.decode x.message with
  | error e => exact ⟨(List.append_nil _).symm, rfl, rfl⟩
  | ok order =>
      obtain ⟨buffer, hframe⟩ := Fragment.frame_of_decode hdecode
      simp only [forward, hframe]
      refine ⟨?_, rfl, OutcomeCounts.total_increment _ _⟩
      rw [hx]
      refine (s.forwarder.accepted_offer buffer).trans ?_
      cases s.forwarder.isOpen <;> rfl

/-- Where clients send orders, what is at hand is about to be published. -/
lemma Readers.not_relaying (h : s.Readers) (hroute : s.settings.route = .orderEntry) {p : Nat}
    {pump : Pump} (hpump : s.pumps[p]? = some pump) (data : Bytes) (deadline : Nat) :
    pump.reader.stage ≠ .relaying data deadline := by
  intro hstage
  have hgoes := (h pump (List.mem_of_getElem? hpump)).goesBy
  rw [hstage, hroute] at hgoes
  cases hgoes

/-- Where clients send orders, a message is dealt with as an order. -/
lemma Readers.publishes (h : s.Readers) (hroute : s.settings.route = .orderEntry) {x : Handling}
    (hx : s.handledAt action = some x) (hstep : s.step? action = some s') :
    action = .read x.client .proceed ∧ x.accepting = s.forwarder.isOpen
      ∧ ∃ number deadline,
        s' = (s.publishOrder number x.message).setReader x.client (.waiting deadline) := by
  obtain ⟨haction, haccepting, pump, deadline, hpump, hcases⟩ := handling_cases hx hstep
  refine ⟨haction, haccepting, ?_⟩
  rcases hcases with ⟨hstage, -⟩ | ⟨hstage, -⟩ | ⟨-, number, hs'⟩
  · exact absurd hstage (h.not_relaying hroute hpump _ _)
  · exact absurd hstage (h.not_relaying hroute hpump _ _)
  · exact ⟨number, deadline, hs'⟩

end Step

/-- What was accepted and counted is what the messages say that were dealt with: besides what there
was to begin with. -/
structure Booked (first drained : List Bytes) (handled : List Handling) (s : System) : Prop where
  accepted : drained ++ s.forwarder.publication.accepted
    = first ++ handled.filterMap Handling.buffer?
  malformed : s.hub.metrics.malformed = handled.countP Handling.isMalformed
  total : s.hub.metrics.malformed + s.hub.metrics.outcomes.total = handled.length

section Booked

variable {s s' : System} {action : Action} {first drained : List Bytes} {handled : List Handling}

/-- **No step accepts or counts anything but what the message says that is dealt with in it.** -/
theorem Booked.step (h : s.Booked first drained handled) (hreaders : s.Readers)
    (hroute : s.settings.route = .orderEntry) (hstep : s.step? action = some s') :
    s'.Booked first (drained ++ s.drainedAt action)
      (handled ++ (s.handledAt action).toList) := by
  cases hx : s.handledAt action with
  | none =>
      have hkeeps : s.KeepsBooks action s' := by
        refine keepsBooks_step? ?_ hstep
        rintro p move rfl
        exact (of_handledAt_eq_none hx hstep).1.toKeepsOrders
      rw [Option.toList_none, List.append_nil]
      refine ⟨?_, hkeeps.malformed.trans h.malformed, ?_⟩
      · rw [List.append_assoc, hkeeps.accepted]
        exact h.accepted
      · rw [hkeeps.malformed, hkeeps.outcomes]
        exact h.total
  | some x =>
      obtain ⟨rfl, haccepting, number, deadline, rfl⟩ := hreaders.publishes hroute hx hstep
      obtain ⟨haccepted, hmalformed, htotal⟩ := books_publishOrder number haccepting
      have hnone : s.drainedAt (.read x.client .proceed) = [] := rfl
      rw [hnone, List.append_nil, Option.toList_some]
      refine ⟨?_, hmalformed.trans ?_, ?_⟩
      · rw [List.filterMap_append, ← List.append_assoc, ← h.accepted, List.append_assoc]
        refine congrArg _ (haccepted.trans (congrArg _ ?_))
        cases hbuffer : x.buffer? <;> simp [hbuffer]
      · rw [h.malformed, List.countP_append]
        cases hrejected : x.isMalformed <;> simp [hrejected]
      · have hbefore := h.total
        rw [List.length_append, List.length_singleton, ← hbefore]
        refine (congrArg₂ (fun m n => m + n) hmalformed htotal).trans ?_
        cases x.isMalformed <;> simp <;> omega

/-- Where clients send orders, a reader asks the hub for a removal at most. -/
lemma Readers.silent (h : s.Readers) (hroute : s.settings.route = .orderEntry) {p : Nat}
    {move : Reader.Move} (hstep : s.step? (.read p move) = some s') :
    Command.payloads (s'.mailbox.drop s.mailbox.length) = [] := by
  cases hx : s.handledAt (.read p move) with
  | none =>
      rcases (of_handledAt_eq_none hx hstep).2 with hsame | ⟨id, hmailbox⟩
      · rw [hsame, List.drop_length]
        rfl
      · rw [hmailbox, List.drop_left]
        rfl
  | some x =>
      obtain ⟨-, -, number, deadline, rfl⟩ := h.publishes hroute hx hstep
      obtain ⟨outcomes, malformed, forwarder, notices, heq⟩ := publishOrder_eq number x.message s
      rw [heq]
      exact congrArg Command.payloads (List.drop_length)

end Booked

section Run

variable {settings : Settings} {kind : Subscription.Kind} {forwarder : Forwarder}
  {actions : List Action} {t : System}

/-- What is accepted and counted in the course of a run. -/
lemma booked_of_run (hroute : settings.route = .orderEntry)
    (hrun : run? actions (startOn settings kind forwarder) = some t) :
    t.Booked forwarder.publication.accepted (drained actions (startOn settings kind forwarder))
      (handled actions (startOn settings kind forwarder)) := by
  refine run_readers (P := fun past u => u.Booked forwarder.publication.accepted
    (drained past (startOn settings kind forwarder))
    (handled past (startOn settings kind forwarder))) rfl ?_ ?_ hrun
  · exact ⟨(List.append_nil _).symm, rfl, rfl⟩
  · intro past action u u' hpast hreaders hsame hu hstep
    rw [handled_concat hpast hstep, drained, trace_concat hpast hstep]
    exact hu.step hreaders (hsame ▸ hroute) hstep

/-- No reader sends a broadcast. -/
lemma silent_of_run (hroute : settings.route = .orderEntry)
    (hrun : run? actions (startOn settings kind forwarder) = some t) (p : Nat) :
    Command.payloads (sentBy (.reader p) actions (startOn settings kind forwarder)) = [] := by
  refine run_readers (P := fun past _ =>
    Command.payloads (sentBy (.reader p) past (startOn settings kind forwarder)) = []) rfl rfl ?_
    hrun
  intro past action u u' hpast hreaders hsame hsilent hstep
  rw [sentBy_concat _ hpast hstep, Command.payloads_append, hsilent, List.nil_append]
  split_ifs with hsender
  · cases action with
    | read k move => exact hreaders.silent (hsame ▸ hroute) hstep
    | _ => cases hsender
  · rfl

/-- Whatever binary message a waiting reader is sent, it takes it up as an order. -/
lemma Wired.step?_binary (hw : t.Wired) (hroute : t.settings.route = .orderEntry) {p : Nat}
    {pump : Pump} (hpump : t.pumps[p]? = some pump) {deadline : Nat}
    (hstage : pump.reader.stage = .waiting deadline) (data : Bytes) :
    t.step? (.read p (.receive (.binary data)))
      = some (t.setReader p (.publishing data deadline)) := by
  obtain ⟨v, hview, rfl⟩ := hw.exists_view hpump
  obtain ⟨-, hconnection, -, hc, -⟩ := hw.parts hview
  simp [step?, read?, hpump, hconnection, hc, hstage, Reader.Stage.afterReceiving, hroute]

/-- Whatever becomes of an order, the reader goes on to wait, and nothing changes for the clients
and the hub. -/
lemma Wired.step?_publishing (hw : t.Wired) {p : Nat} {pump : Pump}
    (hpump : t.pumps[p]? = some pump) {data : Bytes} {deadline : Nat}
    (hstage : pump.reader.stage = .publishing data deadline) :
    ∃ t', t.step? (.read p .proceed) = some t' ∧ (t.setReader p (.waiting deadline)).Still t'
      ∧ t'.mailbox = t.mailbox := by
  obtain ⟨v, hview, rfl⟩ := hw.exists_view hpump
  obtain ⟨-, hconnection, -, hc, -⟩ := hw.parts hview
  have hstep : t.step? (.read p .proceed)
      = some ((t.publishOrder v.seat.connection.id data).setReader p (.waiting deadline)) := by
    simp [step?, read?, hpump, hconnection, hc, hstage]
  obtain ⟨outcomes, malformed, forwarder, notices, heq⟩ :=
    publishOrder_eq v.seat.connection.id data t
  rw [heq] at hstep
  exact ⟨_, hstep, by constructor <;> rfl, rfl⟩

/-- **The path of an order from the clients to the feed.**  Take any run of a gateway whose clients
send orders, with any publication.  Its readers deal with the binary messages of each client in
their order, one at a time.  The buffers that the publication accepts in the run are put together
from one list for each client, in its order: the fragments of those of its messages that are orders
and were offered while the publication accepted, and such a message always has a fragment.  What is
no order is counted as malformed, and for every other message the outcome of its offer is counted.
No reader sends a broadcast.  And no message and no outcome is the end of a reader: in every state
that is reached, a waiting reader takes any binary message, and one with a message at hand deals
with it and goes back to waiting, while nothing changes for connections, queues and hub. -/
theorem accepted_of_messages (settings : Settings) (kind : Subscription.Kind)
    (forwarder : Forwarder) (actions : List Action) (t : System)
    (hroute : settings.route = .orderEntry)
    (horderly : ∀ action ∈ actions, action.isOrderly = true)
    (hrun : run? actions (startOn settings kind forwarder) = some t) :
    let s := startOn settings kind forwarder
    (∀ p, messagesOf p actions
        = (handledOf p actions s).map Handling.message ++ (t.inHand? p).toList)
      ∧ (∃ merged, drained actions s ++ t.forwarder.publication.accepted
          = forwarder.publication.accepted ++ merged
        ∧ Interleaves (fun p => (handledOf p actions s).filterMap Handling.buffer?) merged)
      ∧ (∀ data order, Order.decode data = .ok order → ∃ buffer, Fragment.frame data = .ok buffer)
      ∧ t.hub.metrics.malformed = (handled actions s).countP Handling.isMalformed
      ∧ t.hub.metrics.malformed + t.hub.metrics.outcomes.total = (handled actions s).length
      ∧ (∀ p, Command.payloads (sentBy (.reader p) actions s) = [])
      ∧ ∀ (p : Nat) (pump : Pump), t.pumps[p]? = some pump →
        (∀ deadline, pump.reader.stage = .waiting deadline → ∀ data,
          t.step? (.read p (.receive (.binary data)))
            = some (t.setReader p (.publishing data deadline)))
        ∧ ∀ data deadline, pump.reader.stage = .publishing data deadline →
          ∃ t', t.step? (.read p .proceed) = some t'
            ∧ (t.setReader p (.waiting deadline)).Still t' ∧ t'.mailbox = t.mailbox := by
  intro s
  have hw : t.Wired := (wired_startOn settings kind forwarder).run horderly hrun
  have hroute' : t.settings.route = .orderEntry := settings_run hrun ▸ hroute
  have hbooked := booked_of_run hroute hrun
  refine ⟨messagesOf_eq rfl hrun, ⟨_, hbooked.accepted, ?_⟩, ?_, hbooked.malformed, hbooked.total,
    silent_of_run hroute hrun, ?_⟩
  · exact interleaves_filterMap (handled actions s) Handling.client Handling.buffer?
  · intro data order hdecode
    exact Fragment.frame_of_decode hdecode
  · intro p pump hpump
    refine ⟨fun deadline hstage => hw.step?_binary hroute' hpump hstage, ?_⟩
    intro data deadline hstage
    exact hw.step?_publishing hpump hstage

/-- Two clients send an order each while the publication accepts; one of them also sends something
else, and an order for which there is no room. -/
theorem accepted_of_two_clients :
    let settings : Settings :=
      { route := .orderEntry, queueCapacity := 4, writeWait := 10, pongWait := 60, pingPeriod := 50,
        pollBatch := 2, idleBackoff := { nanos := 1 } }
    let bid := (Order.limit 1 .zilDai 2 .buy 3 4).encode
    let ask := (Order.market 5 .ethDai 6 .sell 7).encode
    let actions : List Action :=
      [.connect none, .connect none, .enter 0, .enter 1, .read 0 .proceed, .read 1 .proceed,
        .read 0 (.receive (.binary bid)), .read 1 (.receive (.binary [79])), .read 1 .proceed,
        .read 1 (.receive (.binary ask)), .read 1 .proceed, .setBackPressured true,
        .read 1 (.receive (.binary bid)), .read 1 .proceed, .setBackPressured false,
        .read 0 .proceed]
    let s := startOn settings .direct {}
    ∃ t merged, run? actions s = some t ∧ t.forwarder.publication.accepted = merged
      ∧ merged = [[0, 43] ++ ask, [0, 43] ++ bid]
      ∧ Interleaves (fun p => (handledOf p actions s).filterMap Handling.buffer?) merged
      ∧ t.hub.metrics.malformed = 1
      ∧ t.hub.metrics.malformed + t.hub.metrics.outcomes.total = 4 := by
  intro settings bid ask actions s
  obtain ⟨-, ⟨merged, haccepted, hmerged⟩, -, hmalformed, htotal, -⟩ :=
    accepted_of_messages settings .direct {} actions _ rfl (by decide) rfl
  refine ⟨_, merged, rfl, haccepted, haccepted.symm.trans ?_, hmerged, hmalformed.trans ?_,
    htotal.trans ?_⟩
  · decide
  · decide
  · rfl

end Run

end System

end MarketGate
