import MarketGate.Proofs.System.Sends
import MarketGate.Proofs.System.Sides
import MarketGate.Proofs.System.Trace

/-!
# The messages of clients

A reader takes one message after another from its client.  It has a message at hand until it has
dealt with it, and takes no other meanwhile.  So the messages of a client are those that its reader
has dealt with, in their order, followed by the one that it has at hand.

* `System.messagesOf` are the messages of a client, and `System.handled` those that the readers of
  all clients have dealt with, each with what the publication said at that moment.
* `System.Readers`: a reader that was not started has no message, and a message is at hand for what
  the route says.  **`System.Readers.step`**: the steps of a gateway keep it.
* **`System.Readers.balance`**: no step loses a message or makes one up.
* `System.run_readers` is induction over a run with its readers in sight.
  **`System.messagesOf_eq`**: where the messages of a client are.
-/

namespace MarketGate

/-- Whether a publication would accept a buffer. -/
def Publication.accepts : Publication → Bool
  | memory p => p.connected && !p.backPressured
  | socket p => p.queue.hasReceiver && decide (p.queue.size < p.queue.capacity)

/-- Whether an offer gets to the publication, and would be accepted there. -/
def Forwarder.isOpen (f : Forwarder) : Bool := f.rehearsed.isEmpty && f.publication.accepts

/-- A message that a reader has dealt with. -/
structure Handling where
  /-- The position of its client. -/
  client : Nat
  message : Bytes
  /-- Whether an offer would have been accepted at that moment. -/
  accepting : Bool
  deriving DecidableEq, Repr

/-- The message that the client at a position sends at an action. -/
def Action.message? (p : Nat) : Action → Option Bytes
  | .read k move => if k = p then move.message? else none
  | _ => none

/-- A reader that was not started is idle, and a message is at hand for what the route says. -/
structure Pump.Reads (route : Route) (pump : Pump) : Prop where
  idle : pump.stage = .registering → pump.reader.stage = .idle
  goesBy : pump.reader.stage.goesBy route = true

namespace System

/-- The message that the reader of the client at a position has at hand. -/
def inHand? (p : Nat) (s : System) : Option Bytes :=
  (s.pumps[p]?).bind fun pump => pump.reader.stage.message?

/-- The message that is dealt with at an action. -/
def handledAt (action : Action) (s : System) : Option Handling :=
  match action with
  | .read p .proceed => (s.inHand? p).map fun message => ⟨p, message, s.forwarder.isOpen⟩
  | _ => none

/-- The messages that are dealt with in the course of a run. -/
def handled : List Action → System → List Handling :=
  trace fun action s _ => (s.handledAt action).toList

/-- The messages of the client at a position that are dealt with in the course of a run. -/
def handledOf (p : Nat) (actions : List Action) (s : System) : List Handling :=
  (handled actions s).filter fun x => x.client = p

/-- The messages that the client at a position sends in the course of a run. -/
def messagesOf (p : Nat) (actions : List Action) : List Bytes :=
  actions.filterMap (Action.message? p)

/-- What holds of the readers of all clients. -/
def Readers (s : System) : Prop := ∀ pump ∈ s.pumps, pump.Reads s.settings.route

section Step

variable {s s' : System} {p : Nat}

lemma inHand?_of_pump {pump : Pump} (hpump : s.pumps[p]? = some pump) :
    s.inHand? p = pump.reader.stage.message? := by
  rw [inHand?, hpump, Option.bind_some]

/-- What leaves the pumps alone leaves their messages alone. -/
lemma Readers.of_pumps (h : s.Readers) (hsettings : s'.settings = s.settings)
    (hpumps : s'.pumps = s.pumps) : s'.Readers ∧ ∀ p, s'.inHand? p = s.inHand? p := by
  unfold Readers inHand?
  rw [hsettings, hpumps]
  exact ⟨h, fun _ => rfl⟩

/-- One more pump whose reader was not started has no message. -/
lemma Readers.of_append (h : s.Readers) (hsettings : s'.settings = s.settings) {fresh : Pump}
    (hpumps : s'.pumps = s.pumps ++ [fresh]) (hidle : fresh.reader.stage = .idle) :
    s'.Readers ∧ ∀ p, s'.inHand? p = s.inHand? p := by
  constructor
  · intro pump hmem
    rw [hsettings]
    rw [hpumps] at hmem
    rcases List.mem_append.1 hmem with hold | hnew
    · exact h pump hold
    · rw [List.mem_singleton.1 hnew]
      exact ⟨fun _ => hidle, by rw [hidle]; rfl⟩
  · intro p
    unfold inHand?
    rw [hpumps, List.getElem?_append]
    split_ifs with hp
    · rfl
    · rw [List.getElem?_eq_none (Nat.le_of_not_lt hp)]
      cases p - s.pumps.length with
      | zero => exact congrArg Reader.Stage.message? hidle
      | succ n => rfl

/-- One pump goes on. -/
lemma Readers.of_modify (h : s.Readers) (hsettings : s'.settings = s.settings) {k : Nat}
    {f : Pump → Pump} (hpumps : s'.pumps = s.pumps.modify k f) {pump : Pump}
    (hpump : s.pumps[k]? = some pump) (hf : (f pump).Reads s.settings.route) : s'.Readers := by
  intro pump' hmem
  rw [hsettings]
  rw [hpumps, modify_eq_set f hpump] at hmem
  rcases List.mem_or_eq_of_mem_set hmem with hold | rfl
  · exact h pump' hold
  · exact hf

lemma inHand?_of_modify {k : Nat} {f : Pump → Pump} (hpumps : s'.pumps = s.pumps.modify k f)
    {pump : Pump} (hpump : s.pumps[k]? = some pump) (p : Nat) :
    s'.inHand? p = if k = p then (f pump).reader.stage.message? else s.inHand? p := by
  unfold inHand?
  rw [hpumps, List.getElem?_modify]
  split_ifs with hk
  · rw [← hk, hpump]
    rfl
  · simp

/-- A pump whose reader has the same message as before goes on. -/
lemma Readers.of_same (h : s.Readers) (hsettings : s'.settings = s.settings) {k : Nat}
    {f : Pump → Pump} (hpumps : s'.pumps = s.pumps.modify k f) {pump : Pump}
    (hpump : s.pumps[k]? = some pump) (hf : (f pump).Reads s.settings.route)
    (hmessage : (f pump).reader.stage.message? = pump.reader.stage.message?) :
    s'.Readers ∧ ∀ p, s'.inHand? p = s.inHand? p := by
  refine ⟨h.of_modify hsettings hpumps hpump hf, fun p => ?_⟩
  rw [inHand?_of_modify hpumps hpump, hmessage]
  split_ifs with hk
  · rw [← hk, inHand?_of_pump hpump]
  · rfl

/-- Whatever is no move of a reader leaves the messages alone. -/
lemma Readers.of_other (h : s.Readers) {action : Action} (hother : ∀ p move, action ≠ .read p move)
    (hstep : s.step? action = some s') : s'.Readers ∧ ∀ p, s'.inHand? p = s.inHand? p := by
  cases action with
  | advance nanos | detach | inject fragment | loseFeed | setConnected value
  | setBackPressured value | drain =>
      cases hstep
      exact h.of_pumps rfl rfl
  | connect peer =>
      simp only [step?] at hstep
      split_ifs at hstep
      cases hstep
      exact h.of_append rfl rfl rfl
  | request command =>
      simp only [step?] at hstep
      split_ifs at hstep
      obtain ⟨⟨taken, s₁⟩, hsend, rfl⟩ := Option.map_eq_some_iff.1 hstep
      obtain ⟨-, hsettings, hpumps⟩ := aside_send? hsend
      exact h.of_pumps hsettings hpumps
  | loseHub =>
      cases hstep
      refine h.of_pumps ?_ ?_ <;> (unfold loseHub; split <;> rfl)
  | serve =>
      simp only [step?, serve?] at hstep
      split at hstep
      · cases hstep
        exact h.of_pumps rfl rfl
      · cases hstep
  | stopHub =>
      simp only [step?, stopHub?] at hstep
      split_ifs at hstep
      cases hstep
      exact h.of_pumps rfl rfl
  | enter k =>
      simp only [step?, enter?, Option.bind_eq_bind, Option.bind_eq_some_iff] at hstep
      obtain ⟨pump, hpump, conn, -, hstep⟩ := hstep
      split_ifs at hstep with hstage
      have hidle := (h pump (List.mem_of_getElem? hpump)).idle (by simpa using hstage)
      obtain ⟨⟨taken, s₁⟩, hsend, hstep⟩ := Option.bind_eq_some_iff.1 hstep
      obtain ⟨-, hsettings, hpumps⟩ := aside_send? hsend
      cases taken with
      | true =>
          cases hstep
          exact h.of_same hsettings (congrArg _ hpumps) hpump ⟨Pump.Stage.noConfusion, rfl⟩
            (by rw [hidle]; rfl)
      | false =>
          cases hstep
          exact h.of_same hsettings (congrArg _ hpumps) hpump
            ⟨Pump.Stage.noConfusion, by rw [hidle]; rfl⟩ rfl
  | leave k =>
      simp only [step?, leave?, Option.bind_eq_bind, Option.bind_eq_some_iff] at hstep
      obtain ⟨pump, hpump, hstep⟩ := hstep
      split_ifs at hstep
      cases hstep
      have hgoes := (h pump (List.mem_of_getElem? hpump)).goesBy
      exact h.of_same rfl rfl hpump ⟨Pump.Stage.noConfusion, hgoes⟩ rfl
  | write k move =>
      simp only [step?, write?, Option.bind_eq_bind, Option.bind_eq_some_iff] at hstep
      obtain ⟨pump, hpump, conn, -, queue, -, after, -, hstep⟩ := hstep
      cases hstep
      obtain ⟨hidle, hgoes⟩ := h pump (List.mem_of_getElem? hpump)
      exact h.of_same rfl rfl hpump ⟨hidle, hgoes⟩ rfl
  | newBridge =>
      simp only [step?] at hstep
      split_ifs at hstep
      cases hstep
      exact h.of_pumps rfl rfl
  | pollOnce | runBridge =>
      simp only [step?, startBridge?] at hstep
      split at hstep
      · cases hstep
        exact h.of_pumps rfl rfl
      · cases hstep
  | bridge =>
      obtain ⟨counted, sent, hbridged⟩ := of_bridgeStep? hstep
      exact h.of_pumps hbridged.settings hbridged.pumps
  | read p move => exact absurd rfl (hother p move)

/-- A move of a reader: the message is dealt with if there is one, and there is one afterwards if
the move brings it. -/
lemma Reads.of_pump {stage : Reader.Stage} {move : Reader.Move} (h : s.Reads p stage move s') :
    ∃ stage', s'.pumps = s.pumps.modify p (fun pump => { pump with reader := ⟨stage'⟩ })
      ∧ s'.settings = s.settings ∧ stage ≠ .idle ∧ stage'.goesBy s.settings.route = true
      ∧ stage.message?.toList ++ move.message?.toList
        = (if move = .proceed then stage.message?.toList else []) ++ stage'.message?.toList := by
  cases h with
  | relay hstage | relayRefused hstage =>
      subst hstage
      exact ⟨_, rfl, rfl, nofun, rfl, rfl⟩
  | @publish data deadline number hstage =>
      subst hstage
      obtain ⟨outcomes, malformed, forwarder, notices, heq⟩ := publishOrder_eq number data s
      rw [heq]
      exact ⟨_, rfl, rfl, nofun, rfl, rfl⟩
  | turn hidle hbefore hafter hroute hpumps hsides =>
      refine ⟨_, hpumps, hsides.settings, hidle, hroute, ?_⟩
      rw [hbefore, hafter]
      simp

/-- **The steps of a gateway keep what holds of its readers.** -/
theorem Readers.step (h : s.Readers) {action : Action} (hstep : s.step? action = some s') :
    s'.Readers := by
  by_cases hread : ∃ p move, action = .read p move
  · obtain ⟨p, move, rfl⟩ := hread
    obtain ⟨pump, hpump, hreads⟩ := reads_of_read? hstep
    obtain ⟨stage', hpumps, hsettings, hidle, hroute, -⟩ := hreads.of_pump
    have hstarted : pump.stage ≠ .registering := fun hstage =>
      hidle ((h pump (List.mem_of_getElem? hpump)).idle hstage)
    exact h.of_modify hsettings hpumps hpump ⟨fun hstage => absurd hstage hstarted, hroute⟩
  · exact (h.of_other (fun p move heq => hread ⟨p, move, heq⟩) hstep).1

/-- What is no move of the reader of a client is nothing that its messages have to do with. -/
lemma messages_of_other {action : Action} (hother : ∀ move, action ≠ .read p move) :
    action.message? p = none ∧ (s.handledAt action).toList.filter (fun x => x.client = p) = [] := by
  cases action with
  | read k move =>
      have hne : k ≠ p := fun heq => hother move (by rw [heq])
      refine ⟨by rw [Action.message?, if_neg hne], ?_⟩
      cases move with
      | proceed => cases hhand : s.inHand? k <;> simp [handledAt, hhand, hne]
      | _ => rfl
  | _ => exact ⟨rfl, rfl⟩

/-- **No step loses a message or makes one up**: what was at hand and what comes is dealt with or at
hand. -/
theorem Readers.balance (h : s.Readers) {action : Action} (hstep : s.step? action = some s')
    (p : Nat) :
    (s.inHand? p).toList ++ (action.message? p).toList
      = ((s.handledAt action).toList.filter fun x => x.client = p).map Handling.message
        ++ (s'.inHand? p).toList := by
  by_cases hread : ∃ move, action = .read p move
  · obtain ⟨move, rfl⟩ := hread
    obtain ⟨pump, hpump, hreads⟩ := reads_of_read? hstep
    obtain ⟨stage', hpumps, -, -, -, hbalance⟩ := hreads.of_pump
    have hhandled : ((s.handledAt (.read p move)).toList.filter fun x => x.client = p).map
        Handling.message = if move = .proceed then (s.inHand? p).toList else [] := by
      cases move with
      | proceed => cases hhand : s.inHand? p <;> simp [handledAt, hhand]
      | _ => rfl
    rw [hhandled, inHand?_of_modify hpumps hpump, if_pos rfl, inHand?_of_pump hpump,
      Action.message?, if_pos rfl]
    exact hbalance
  · have hother : ∀ move, action ≠ .read p move := fun move heq => hread ⟨move, heq⟩
    obtain ⟨hnothing, hnone⟩ := messages_of_other (s := s) hother
    have hsame : s'.inHand? p = s.inHand? p := by
      by_cases hread : ∃ k move, action = .read k move
      · obtain ⟨k, move, rfl⟩ := hread
        obtain ⟨pump, hpump, hreads⟩ := reads_of_read? hstep
        obtain ⟨stage', hpumps, -⟩ := hreads.of_pump
        rw [inHand?_of_modify hpumps hpump, if_neg fun heq => hother move (by rw [heq])]
      · exact (h.of_other (fun k move heq => hread ⟨k, move, heq⟩) hstep).2 p
    rw [hnothing, hnone, hsame]
    simp

/-- A move of a reader that deals with no message touches neither side, and asks the hub for a
removal at most. -/
lemma of_handledAt_eq_none {move : Reader.Move} (hnone : s.handledAt (.read p move) = none)
    (hstep : s.step? (.read p move) = some s') :
    s.KeepsSides s'
      ∧ (s'.mailbox = s.mailbox ∨ ∃ id, s'.mailbox = s.mailbox ++ [.unregister id]) := by
  obtain ⟨pump, hpump, hreads⟩ := reads_of_read? hstep
  have hnothing (hmove : move = .proceed) : pump.reader.stage.message? = none := by
    rw [hmove, handledAt, inHand?_of_pump hpump] at hnone
    exact Option.map_eq_none_iff.1 hnone
  cases hreads with
  | relay hstage | relayRefused hstage | publish number hstage =>
      rw [hstage] at hnothing
      cases hnothing rfl
  | turn hidle hbefore hafter hroute hpumps hsides hmailbox => exact ⟨hsides, hmailbox⟩

/-- A message is dealt with by being sent on to the hub, by being refused there, or as an order. -/
theorem handling_cases {action : Action} {x : Handling} (hx : s.handledAt action = some x)
    (hstep : s.step? action = some s') :
    action = .read x.client .proceed ∧ x.accepting = s.forwarder.isOpen
      ∧ ∃ pump deadline, s.pumps[x.client]? = some pump
        ∧ (pump.reader.stage = .relaying x.message deadline ∧ s.loop = .running
            ∧ s' = ({ s with mailbox := s.mailbox ++ [.broadcast x.message] } : System).setReader
              x.client (.waiting deadline)
          ∨ pump.reader.stage = .relaying x.message deadline ∧ s.loop ≠ .running
            ∧ s' = s.setReader x.client (.claiming .hubUnavailable)
          ∨ pump.reader.stage = .publishing x.message deadline
            ∧ ∃ number, s' = (s.publishOrder number x.message).setReader x.client
              (.waiting deadline)) := by
  unfold handledAt at hx
  split at hx
  · next p =>
      obtain ⟨message, hmessage, rfl⟩ := Option.map_eq_some_iff.1 hx
      refine ⟨rfl, rfl, ?_⟩
      obtain ⟨pump, hpump, hreads⟩ := reads_of_read? hstep
      rw [inHand?_of_pump hpump] at hmessage
      cases hreads with
      | relay hstage hloop =>
          rw [hstage] at hmessage
          cases hmessage
          exact ⟨pump, _, hpump, Or.inl ⟨hstage, hloop, rfl⟩⟩
      | relayRefused hstage hloop =>
          rw [hstage] at hmessage
          cases hmessage
          exact ⟨pump, _, hpump, Or.inr (Or.inl ⟨hstage, hloop, rfl⟩)⟩
      | publish number hstage =>
          rw [hstage] at hmessage
          cases hmessage
          exact ⟨pump, _, hpump, Or.inr (Or.inr ⟨hstage, number, rfl⟩)⟩
      | turn hidle hbefore =>
          rw [hbefore] at hmessage
          cases hmessage
  · cases hx

end Step

section Run

variable {s t t' : System} {actions : List Action} {action : Action} {p : Nat}

lemma handled_concat (hrun : run? actions s = some t) (hstep : t.step? action = some t') :
    handled (actions ++ [action]) s = handled actions s ++ (t.handledAt action).toList :=
  trace_concat hrun hstep

lemma handledOf_concat (hrun : run? actions s = some t) (hstep : t.step? action = some t') :
    handledOf p (actions ++ [action]) s
      = handledOf p actions s ++ (t.handledAt action).toList.filter fun x => x.client = p := by
  rw [handledOf, handled_concat hrun hstep, List.filter_append, handledOf]

lemma messagesOf_concat :
    messagesOf p (actions ++ [action]) = messagesOf p actions ++ (action.message? p).toList := by
  cases hmessage : action.message? p <;> simp [messagesOf, hmessage]

/-- Runs leave the settings alone. -/
lemma settings_run (hrun : run? actions s = some t) : t.settings = s.settings :=
  run_induction (P := fun _ u => u.settings = s.settings) rfl
    (fun _ _ _ _ _ hsame hstep => (passes_step? hstep 0).settings.trans hsame) hrun

/-- Runs keep what holds of readers. -/
lemma Readers.run (h : s.Readers) (hrun : run? actions s = some t) : t.Readers :=
  run_induction (P := fun _ u => u.Readers) h
    (fun _ _ _ _ _ hreaders hstep => hreaders.step hstep) hrun

/-- Where nobody is connected there are no readers. -/
lemma readers_of_nobody (hnobody : s.pumps = []) : s.Readers := by
  intro pump hmem
  rw [hnobody] at hmem
  cases hmem

/-- **Induction over a run with its readers in sight**, if nobody was connected to begin with. -/
theorem run_readers {P : List Action → System → Prop} (hnobody : s.pumps = []) (hstart : P [] s)
    (hkeep : ∀ past action u u', run? past s = some u → u.Readers → u.settings = s.settings →
      P past u → u.step? action = some u' → P (past ++ [action]) u')
    (hrun : run? actions s = some t) : P actions t :=
  run_induction hstart (fun past action u u' hpast hP hstep =>
    hkeep past action u u' hpast ((readers_of_nobody hnobody).run hpast) (settings_run hpast) hP
      hstep) hrun

/-- **The messages of a client are those that its reader has dealt with, in their order, and the one
that it has at hand**, if nobody was connected to begin with. -/
theorem messagesOf_eq (hnobody : s.pumps = []) (hrun : run? actions s = some t) (p : Nat) :
    messagesOf p actions
      = (handledOf p actions s).map Handling.message ++ (t.inHand? p).toList := by
  refine run_readers (P := fun past u => messagesOf p past
    = (handledOf p past s).map Handling.message ++ (u.inHand? p).toList) hnobody ?_ ?_ hrun
  · simp [messagesOf, handledOf, handled, trace, inHand?, hnobody]
  · intro past action u u' hpast hreaders _ hmessages hstep
    rw [messagesOf_concat, hmessages, handledOf_concat hpast hstep, List.append_assoc,
      hreaders.balance hstep, List.map_append, List.append_assoc]

end Run

end System

end MarketGate
