import MarketGate.Proofs.System.OrderPath

/-!
# Calls of the forwarder

Whoever has the forwarder can have an order published: the reader of a client, and anyone outside.
A call puts the order into a fragment, offers it to the publication, and counts the outcome.  The
two kinds of publication have little in common, but to an offer both do the same.

* `Publication.Offers` is what becomes of an offer.  **`Publication.offers_offer`**: either kind of
  publication does that.
* `System.Answers` is what becomes of a call.  **`System.answers_forward`**: nothing else does.
* `System.orderAt` is the order that a reader sends to the feed in a step of a gateway.
  **`System.forward_of_orderAt`**: the step is a call of the forwarder then.
  **`System.offersNothing_of_orderAt`**: any other step offers nothing.
-/

namespace MarketGate

/-! ## Counters by outcome -/

namespace OutcomeCounts

/-- The count under the name of an outcome. -/
def get (counts : OutcomeCounts) : PublishOutcome → Nat
  | .accepted _ => counts.accepted
  | .notConnected => counts.notConnected
  | .backPressured => counts.backPressured
  | .unrecognized _ => counts.unrecognized

lemma get_increment (counts : OutcomeCounts) (outcome other : PublishOutcome) :
    (counts.increment outcome).get other
      = counts.get other + if outcome.name = other.name then 1 else 0 := by
  cases outcome <;> cases other <;> rfl

end OutcomeCounts

/-! ## One offer -/

lemma Queue.offer_cases (q : Queue) (message : Bytes) :
    q.hasReceiver = false ∧ q.offer message = .error .closed
      ∨ q.hasReceiver = true ∧ q.capacity ≤ q.size ∧ q.offer message = .error .full
      ∨ q.hasReceiver = true ∧ q.size < q.capacity
        ∧ q.offer message = .ok { q with log := q.log ++ [message] } := by
  unfold offer
  cases hreceiver : q.hasReceiver with
  | false => exact Or.inl ⟨rfl, rfl⟩
  | true =>
      by_cases hroom : q.size < q.capacity
      · exact Or.inr (Or.inr ⟨rfl, hroom, by simp [Nat.not_le.2 hroom]⟩)
      · exact Or.inr (Or.inl ⟨rfl, Nat.not_lt.1 hroom, by simp [Nat.not_lt.1 hroom]⟩)

namespace Publication

/-- How many bytes a publication says that it has accepted. -/
def position : Publication → Nat
  | memory p => p.position
  | socket p => p.position

/-- What becomes of an offer. -/
inductive Offers (p : Publication) (buffer : Bytes) : Int × Publication → Prop
  | notConnected (hconnected : p.isConnected = false) (haccepts : p.accepts = false) :
      Offers p buffer (notConnectedCode, p)
  | backPressured (hconnected : p.isConnected = true) (haccepts : p.accepts = false) :
      Offers p buffer (backPressuredCode, p)
  | accepted {p' : Publication} (hconnected : p.isConnected = true) (haccepts : p.accepts = true)
      (haccepted : p'.accepted = p.accepted ++ [buffer])
      (hposition : p'.position = p.position + buffer.length) :
      Offers p buffer ((p.position + buffer.length : Nat), p')

/-- **Either kind of publication takes a buffer to the end of its stream, and its position with it,
or is left as it was.** -/
theorem offers_offer (p : Publication) (buffer : Bytes) : p.Offers buffer (p.offer buffer) := by
  cases p with
  | memory p =>
      obtain ⟨published, position, connected, backPressured⟩ := p
      cases connected with
      | false => exact .notConnected rfl rfl
      | true =>
          cases backPressured with
          | false => exact .accepted rfl rfl rfl rfl
          | true => exact .backPressured rfl rfl
  | socket p =>
      rcases p.queue.offer_cases buffer with ⟨hreceiver, hoffer⟩ | ⟨hreceiver, hroom, hoffer⟩
        | ⟨hreceiver, hroom, hoffer⟩
      all_goals simp only [offer, SocketPublication.offer, hoffer]
      · exact .notConnected hreceiver (by simp [accepts, hreceiver])
      · exact .backPressured hreceiver (by simp [accepts, hroom])
      · exact .accepted hreceiver (by simp [accepts, hreceiver, hroom]) rfl rfl

end Publication

lemma PublishOutcome.ofCode_natCast (n : Nat) : ofCode n = accepted n := by
  unfold ofCode notConnectedCode backPressuredCode
  rw [if_neg (by omega), if_neg (by omega), if_neg (by omega)]

/-- Without rehearsed answers it is the publication that answers. -/
lemma Forwarder.offer_of_unrehearsed {f : Forwarder} (h : f.rehearsed = []) (buffer : Bytes) :
    f.offer buffer
      = ((f.publication.offer buffer).1,
        { f with publication := (f.publication.offer buffer).2 }) := by
  unfold offer
  split
  · next heq => rw [h] at heq; cases heq
  · rfl

namespace System

/-! ## One call -/

/-- What a call of the forwarder can do. -/
inductive Answers (s : System) (payload : Bytes) : Except Fault PublishOutcome × System → Prop
  /-- The payload does not fit, and nothing happens. -/
  | tooLong (hlength : Fragment.longestRecord < payload.length) :
      Answers s payload (.error (Fragment.tooLong payload.length), s)
  /-- The order is at the end of the stream now. -/
  | accepted {s' : System} {outcome : PublishOutcome} {buffer : Bytes}
      (hlength : payload.length ≤ Fragment.longestRecord)
      (hbuffer : buffer = Bytes.ofNat Fragment.headerLength payload.length ++ payload)
      (haccepts : s.forwarder.publication.accepts = true)
      (houtcome : outcome
        = .accepted (s.forwarder.publication.position + buffer.length : Nat))
      (hstream : s'.forwarder.publication.accepted
        = s.forwarder.publication.accepted ++ [buffer])
      (hposition : s'.forwarder.publication.position
        = s.forwarder.publication.position + buffer.length)
      (hrehearsed : s'.forwarder.rehearsed = s.forwarder.rehearsed)
      (hcounted : ∀ other, s'.hub.metrics.outcomes.get other = s.hub.metrics.outcomes.get other
        + if outcome.name = other.name then 1 else 0) :
      Answers s payload (.ok outcome, s')
  /-- The order is lost, and the publication is as it was. -/
  | refused {s' : System} {outcome : PublishOutcome}
      (hlength : payload.length ≤ Fragment.longestRecord)
      (haccepts : s.forwarder.publication.accepts = false)
      (houtcome : outcome
        = if s.forwarder.publication.isConnected then .backPressured else .notConnected)
      (hforwarder : s'.forwarder = s.forwarder)
      (hcounted : ∀ other, s'.hub.metrics.outcomes.get other = s.hub.metrics.outcomes.get other
        + if outcome.name = other.name then 1 else 0) :
      Answers s payload (.ok outcome, s')

/-- **A call appends the order to the stream and says where it ends, or it refuses.** -/
theorem answers_forward {s : System} (hrehearsed : s.forwarder.rehearsed = []) (payload : Bytes) :
    s.Answers payload (s.forward payload) := by
  by_cases hlength : payload.length ≤ Fragment.longestRecord
  · have hoffers := s.forwarder.publication.offers_offer
      (Bytes.ofNat Fragment.headerLength payload.length ++ payload)
    simp only [forward, Fragment.frame_eq_ok_iff.2 ⟨hlength, rfl⟩,
      Forwarder.offer_of_unrehearsed hrehearsed]
    generalize s.forwarder.publication.offer _ = answer at hoffers ⊢
    cases hoffers with
    | notConnected hconnected haccepts =>
        exact .refused hlength haccepts (by rw [hconnected]; rfl) rfl
          (OutcomeCounts.get_increment _ _)
    | backPressured hconnected haccepts =>
        exact .refused hlength haccepts (by rw [hconnected]; rfl) rfl
          (OutcomeCounts.get_increment _ _)
    | accepted hconnected haccepts haccepted hposition =>
        exact .accepted hlength rfl haccepts (PublishOutcome.ofCode_natCast _) haccepted hposition
          rfl (OutcomeCounts.get_increment _ _)
  · simp only [forward, show Fragment.frame payload = .error (Fragment.tooLong payload.length)
      from if_neg hlength]
    exact .tooLong (Nat.not_le.1 hlength)

end System

/-! ## What else happens to a publication -/

namespace Publication

/-- Nothing is offered to a publication, but some buffers may be taken away from it. -/
inductive Rests : List Bytes → Publication → Publication → Prop
  | same (p : Publication) : Rests [] p p
  | memory {drained : List Bytes} {p p' : MemoryPublication} (hposition : p'.position = p.position)
      (hpublished : drained ++ p'.published = p.published) : Rests drained (memory p) (memory p')

/-- A publication over a socket was one before, and at most has more buffers in its queue. -/
def Extends (p p' : Publication) : Prop :=
  ∀ q', p' = socket q' → ∃ q more, p = socket q
    ∧ q'.queue = { q.queue with log := q.queue.log ++ more }

variable {p p' : Publication} {drained : List Bytes}

lemma Extends.refl (p : Publication) : p.Extends p := by
  rintro q rfl
  exact ⟨q, [], rfl, by rw [List.append_nil]⟩

lemma Rests.extends (h : Rests drained p p') : p.Extends p' := by
  cases h with
  | same => exact Extends.refl p
  | memory => exact fun q' hq' => nomatch hq'

lemma Rests.position (h : Rests drained p p') : p'.position = p.position := by
  cases h with
  | same => rfl
  | memory hposition => exact hposition

lemma Rests.drained_eq_nil {q : SocketPublication} (h : Rests drained p p') (hp' : p' = socket q) :
    drained = [] := by
  cases h with
  | same => rfl
  | memory => cases hp'

lemma Rests.accepted (h : Rests drained p p') : drained ++ p'.accepted = p.accepted := by
  cases h with
  | same => rfl
  | memory hposition hpublished => exact hpublished

lemma extends_offer (p : Publication) (buffer : Bytes) : p.Extends (p.offer buffer).2 := by
  cases p with
  | memory p => exact fun q' hq' => nomatch hq'
  | socket p =>
      rintro q' hq'
      cases hq'
      refine ⟨p, ?_⟩
      rcases p.queue.offer_cases buffer with ⟨-, hoffer⟩ | ⟨-, -, hoffer⟩ | ⟨-, -, hoffer⟩
      · exact ⟨[], rfl, by simp only [SocketPublication.offer, hoffer, List.append_nil]⟩
      · exact ⟨[], rfl, by simp only [SocketPublication.offer, hoffer, List.append_nil]⟩
      · exact ⟨[buffer], rfl, by simp only [SocketPublication.offer, hoffer]⟩

end Publication

/-- The order that a reader is about to send to the feed. -/
def Reader.Stage.order? : Reader.Stage → Option Bytes
  | publishing data _ =>
    match Order.decode data with
    | .ok _ => some data
    | .error _ => none
  | _ => none

lemma Reader.Stage.of_order? {stage : Reader.Stage} {data : Bytes}
    (h : stage.order? = some data) :
    (∃ deadline, stage = .publishing data deadline) ∧ ∃ order, Order.decode data = .ok order := by
  unfold order? at h
  split at h
  · next message deadline =>
      split at h
      · next order hdecode =>
          cases h
          exact ⟨⟨deadline, rfl⟩, order, hdecode⟩
      · cases h
  · cases h

namespace System

/-- The order that a reader sends to the feed at an action. -/
def orderAt (action : Action) (s : System) : Option Bytes :=
  match action with
  | .read p .proceed => (s.pumps[p]?).bind fun pump => pump.reader.stage.order?
  | _ => none

section Task

variable {s s' : System} {action : Action}

lemma extends_forward (hrehearsed : s.forwarder.rehearsed = []) (payload : Bytes) :
    s.forwarder.publication.Extends (s.forward payload).2.forwarder.publication := by
  unfold forward
  cases Fragment.frame payload with
  | error fault => exact Publication.Extends.refl _
  | ok buffer =>
      simp only [Forwarder.offer_of_unrehearsed hrehearsed]
      exact s.forwarder.publication.extends_offer buffer

/-- An order that a reader deals with is a call of the forwarder. -/
lemma publishOrder_of_decode {data : Bytes} {order : Order} (h : Order.decode data = .ok order)
    (id : Nat) :
    (s.publishOrder id data).forwarder = (s.forward data).2.forwarder
      ∧ (s.publishOrder id data).hub.metrics.outcomes
        = (s.forward data).2.hub.metrics.outcomes := by
  simp only [publishOrder, h, forward]
  cases Fragment.frame data with
  | error fault => exact ⟨rfl, rfl⟩
  | ok buffer => exact ⟨rfl, rfl⟩

/-- A step offers nothing to the publication, and counts no outcome. -/
structure OffersNothing (action : Action) (s s' : System) : Prop where
  rehearsed : s'.forwarder.rehearsed = s.forwarder.rehearsed
  outcomes : s'.hub.metrics.outcomes = s.hub.metrics.outcomes
  rests : Publication.Rests (s.drainedAt action) s.forwarder.publication
    s'.forwarder.publication

lemma OffersNothing.of_same (hdrained : s.drainedAt action = [])
    (hforwarder : s'.forwarder = s.forwarder)
    (houtcomes : s'.hub.metrics.outcomes = s.hub.metrics.outcomes) :
    s.OffersNothing action s' where
  rehearsed := by rw [hforwarder]
  outcomes := houtcomes
  rests := by
    rw [hdrained, hforwarder]
    exact .same _

/-- **A step in which no reader sends an order offers nothing.** -/
theorem offersNothing_of_orderAt (hnone : s.orderAt action = none)
    (hstep : s.step? action = some s') : s.OffersNothing action s' := by
  cases horders : action.touchesOrders with
  | false =>
      have hkeeps := keepsOrders_step? horders hstep
      refine .of_same ?_ hkeeps.forwarder hkeeps.outcomes
      cases action with
      | drain => exact Bool.noConfusion horders
      | _ => rfl
  | true =>
      cases action with
      | read p move =>
          obtain ⟨pump, hpump, hreads⟩ := reads_of_read? hstep
          cases hreads with
          | relay | relayRefused => exact .of_same rfl rfl rfl
          | @publish data deadline number hstage =>
              rw [orderAt, hpump, Option.bind_some, hstage, Reader.Stage.order?] at hnone
              cases hdecode : Order.decode data with
              | ok order =>
                  rw [hdecode] at hnone
                  cases hnone
              | error e =>
                  have hdropped : (s.publishOrder number data).forwarder = s.forwarder
                      ∧ (s.publishOrder number data).hub.metrics.outcomes
                        = s.hub.metrics.outcomes := by
                    simp only [publishOrder, hdecode]
                    exact ⟨rfl, rfl⟩
                  exact .of_same rfl hdropped.1 hdropped.2
          | turn hidle hbefore hafter hroute hpumps hsides =>
              exact .of_same rfl hsides.forwarder hsides.outcomes
      | setConnected value | setBackPressured value =>
          cases hstep
          refine ⟨rfl, rfl, ?_⟩
          simp only [onMemory, drainedAt]
          cases s.forwarder.publication with
          | memory p => exact .memory rfl rfl
          | socket p => exact .same _
      | drain =>
          cases hstep
          refine ⟨rfl, rfl, ?_⟩
          simp only [onMemory, drainedAt]
          cases s.forwarder.publication with
          | memory p => exact .memory rfl (List.append_nil _)
          | socket p => exact .same _
      | _ => exact Bool.noConfusion horders

/-- **A step in which a reader sends an order is a call of the forwarder.** -/
theorem forward_of_orderAt {payload : Bytes} (hsome : s.orderAt action = some payload)
    (hstep : s.step? action = some s') :
    s.drainedAt action = [] ∧ s'.forwarder = (s.forward payload).2.forwarder
      ∧ s'.hub.metrics.outcomes = (s.forward payload).2.hub.metrics.outcomes := by
  unfold orderAt at hsome
  split at hsome
  · next p =>
      obtain ⟨pump, hpump, hreads⟩ := reads_of_read? hstep
      rw [hpump, Option.bind_some] at hsome
      obtain ⟨⟨deadline, hpublishing⟩, order, hdecode⟩ := Reader.Stage.of_order? hsome
      cases hreads with
      | relay hstage | relayRefused hstage =>
          rw [hpublishing] at hstage
          cases hstage
      | publish number hstage =>
          rw [hpublishing] at hstage
          cases hstage
          exact ⟨rfl, publishOrder_of_decode hdecode number⟩
      | turn hidle hbefore =>
          rw [hpublishing] at hbefore
          cases hbefore
  · cases hsome

end Task

end System

end MarketGate
