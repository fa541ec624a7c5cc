import MarketGate.Proofs.System.Sends
import MarketGate.Proofs.System.Trace

/-!
# Readers and the clock

The steps of a gateway once more, for what each action does to the clock, to the reader of a client
and to the count of full queues.  A reader waits until a deadline, which it takes along while it
deals with a message; `Reader.Goes` lists its moves, and of these only the first one and a pong set
a deadline.

* `System.Elapses` says what a step does.  **`System.elapses_step?`**: the clock moves on by what
  the action says, the reader of a client goes on by the move that the action makes, and only a
  broadcast finds queues full.
* `Reader.Goes.deadline_cases` and `Reader.Goes.reason_cases`: where the deadline of a reader comes
  from, and why it leaves.
* **`System.run_clients`** is induction over a run with its actions, its clock and what a client
  sees in sight; `Wired.run_clients` is induction over the rest of a run.
* `System.heardOf`, `System.pongsOf`, `System.pingsOf` and `System.handingsOf` record when the
  reader of a client started or read a pong, and when its writer handed over a ping, or which frame.
-/

namespace MarketGate

/-- How far an action moves the clock. -/
def Action.elapsed : Action → Nat
  | .advance nanos => nanos
  | _ => 0

/-- The move that an action makes for the reader of the client at a position. -/
def Action.readerMove? (p : Nat) : Action → Option Reader.Move
  | .read k move => if k = p then some move else none
  | _ => none

/-- Whether a stream ends with what the socket gives. -/
def Incoming.ends : Incoming → Bool
  | .close _ | .failed _ | .finished => true
  | _ => false

namespace Fault

/-- No code that a client closes with means that something took too long. -/
lemma ofCloseCode_ne_timeout (code : Option Nat) (awaited : String) :
    ofCloseCode code ≠ .timeout awaited := by
  cases code with
  | none => exact Fault.noConfusion
  | some code =>
      simp only [ofCloseCode]
      split_ifs <;> exact Fault.noConfusion

/-- Neither does a failure of the stream. -/
lemma ofWebSocket_ne_timeout (failure : WebSocket.Failure) (awaited : String) :
    ofWebSocket failure ≠ .timeout awaited := by
  unfold ofWebSocket
  split <;> exact Fault.noConfusion

end Fault

/-- The frame that a writer is about to hand over. -/
def Writer.Stage.atHand? : Writer.Stage → Option Outgoing
  | .handing frame _ => some frame
  | _ => none

namespace Reader

/-- Until when a reader waits that has not begun to leave. -/
def Stage.deadline? : Stage → Option Nat
  | .waiting deadline | .relaying _ deadline | .publishing _ deadline => some deadline
  | _ => none

/-- The reason that a reader leaves for. -/
def Stage.reason? : Stage → Option Fault
  | .claiming reason | .claimingEarly reason | .waking reason | .reporting reason
  | .leaving reason | .done reason => some reason
  | _ => none

/-- How the reader of a pump goes on at a time, without a move or by one. -/
inductive Goes (settings : Settings) (now : Nat) (loop : HubLoop) (c : Connection) (pump : Pump) :
    Option Move → Stage → Prop
  | stays : Goes settings now loop c pump none pump.reader.stage
  | start (hstage : pump.stage = .registering) : Goes settings now loop c pump none .starting
  | begin (hstage : pump.reader.stage = .starting) :
      Goes settings now loop c pump (some .proceed) (.waiting (now + settings.pongWait))
  | receive {deadline : Nat} (incoming : Incoming)
      (hstage : pump.reader.stage = .waiting deadline) :
      Goes settings now loop c pump (some (.receive incoming))
        (.afterReceiving settings.route settings.pongWait now deadline incoming)
  | expire {deadline : Nat} (hstage : pump.reader.stage = .waiting deadline)
      (hdue : deadline ≤ now) :
      Goes settings now loop c pump (some .expire) (.claiming (.timeout "pong"))
  | hearStopped {deadline : Nat} (hstage : pump.reader.stage = .waiting deadline)
      (hpermit : c.stoppedPermit = true) :
      Goes settings now loop c pump (some .hearStopped) (.claiming .connectionClosed)
  | relay {data : Bytes} {deadline : Nat} (hstage : pump.reader.stage = .relaying data deadline) :
      Goes settings now loop c pump (some .proceed) (.waiting deadline)
  | relayRefused {data : Bytes} {deadline : Nat}
      (hstage : pump.reader.stage = .relaying data deadline) (hloop : loop ≠ .running) :
      Goes settings now loop c pump (some .proceed) (.claiming .hubUnavailable)
  | publish {data : Bytes} {deadline : Nat}
      (hstage : pump.reader.stage = .publishing data deadline) :
      Goes settings now loop c pump (some .proceed) (.waiting deadline)
  | leave {stage : Stage} {reason : Fault} (hbefore : pump.reader.stage.reason? = some reason)
      (hafter : stage.reason? = some reason) : Goes settings now loop c pump (some .proceed) stage

/-- A reader that leaves has no deadline. -/
lemma Stage.deadline?_of_reason? {stage : Stage} {reason : Fault}
    (h : stage.reason? = some reason) : stage.deadline? = none := by
  cases stage with
  | waiting | relaying | publishing => cases h
  | _ => rfl

section Goes

variable {settings : Settings} {now : Nat} {loop : HubLoop} {c : Connection} {pump : Pump}
  {move? : Option Move} {stage : Stage} (h : Goes settings now loop c pump move? stage)

include h

/-- A deadline is set by the first move and by a pong, and is kept by everything else. -/
lemma Goes.deadline_cases {deadline : Nat} (hafter : stage.deadline? = some deadline) :
    (move? = some .proceed ∧ pump.reader.stage = .starting ∨ move? = some (.receive .pong))
        ∧ deadline = now + settings.pongWait
      ∨ move? ≠ some (.receive .pong) ∧ pump.reader.stage.deadline? = some deadline := by
  cases h with
  | stays => exact Or.inr ⟨by simp, hafter⟩
  | start | expire | hearStopped | relayRefused => cases hafter
  | begin hstage => exact Or.inl ⟨Or.inl ⟨rfl, hstage⟩, (Option.some.inj hafter).symm⟩
  | receive incoming hstage =>
      rw [hstage]
      cases incoming with
      | binary data =>
          refine Or.inr ⟨by simp, ?_⟩
          simp only [Stage.afterReceiving] at hafter
          split at hafter <;> exact hafter
      | pong => exact Or.inl ⟨Or.inr rfl, (Option.some.inj hafter).symm⟩
      | other => exact Or.inr ⟨by simp, hafter⟩
      | close | failed | finished => cases hafter
  | relay hstage | publish hstage => exact Or.inr ⟨by simp, by rw [hstage]; exact hafter⟩
  | leave hbefore hreason =>
      rw [Stage.deadline?_of_reason? hreason] at hafter
      cases hafter

/-- Why a reader leaves: it did so before, or it waited too long, or it heard that its writer has
stopped, or the client ended the stream, or the hub is gone. -/
lemma Goes.reason_cases {reason : Fault} (hafter : stage.reason? = some reason) :
    pump.reader.stage.reason? = some reason
      ∨ (∃ deadline, pump.reader.stage = .waiting deadline ∧ deadline ≤ now)
        ∧ reason = .timeout "pong"
      ∨ c.stoppedPermit = true ∧ reason = .connectionClosed
      ∨ (∃ incoming, move? = some (.receive incoming) ∧ incoming.ends = true)
        ∧ reason ≠ .timeout "pong"
      ∨ loop ≠ .running ∧ reason = .hubUnavailable := by
  cases h with
  | stays => exact Or.inl hafter
  | start | begin | relay | publish => cases hafter
  | receive incoming hstage =>
      cases incoming with
      | binary data =>
          simp only [Stage.afterReceiving] at hafter
          split at hafter <;> cases hafter
      | pong | other => cases hafter
      | close code =>
          obtain rfl := Option.some.inj hafter
          exact Or.inr (Or.inr (Or.inr (Or.inl ⟨⟨_, rfl, rfl⟩, Fault.ofCloseCode_ne_timeout _ _⟩)))
      | failed failure =>
          obtain rfl := Option.some.inj hafter
          exact Or.inr (Or.inr (Or.inr (Or.inl ⟨⟨_, rfl, rfl⟩, Fault.ofWebSocket_ne_timeout _ _⟩)))
      | finished =>
          obtain rfl := Option.some.inj hafter
          exact Or.inr (Or.inr (Or.inr (Or.inl ⟨⟨_, rfl, rfl⟩, Fault.noConfusion⟩)))
  | expire hstage hdue =>
      exact Or.inr (Or.inl ⟨⟨_, hstage, hdue⟩, (Option.some.inj hafter).symm⟩)
  | hearStopped hstage hpermit =>
      exact Or.inr (Or.inr (Or.inl ⟨hpermit, (Option.some.inj hafter).symm⟩))
  | relayRefused hstage hloop =>
      exact Or.inr (Or.inr (Or.inr (Or.inr ⟨hloop, (Option.some.inj hafter).symm⟩)))
  | leave hbefore hreason => exact Or.inl (hbefore.trans (hreason.symm.trans hafter))

end Goes

end Reader

namespace System

/-- What a step does to the clock, to the count of full queues and to the reader of a client. -/
structure Elapses (action : Action) (p : Nat) (s s' : System) : Prop where
  now : s'.now = s.now + action.elapsed
  full : (∀ payload, s.servedAt action ≠ some (.broadcast payload)) →
    s'.hub.metrics.backpressureDisconnects = s.hub.metrics.backpressureDisconnects
  reader : ∀ pump pump' c, s.pumps[p]? = some pump → s'.pumps[p]? = some pump' →
    s.hub.connections[pump.connection]? = some c →
    Reader.Goes s.settings s.now s.loop c pump (action.readerMove? p) pump'.reader.stage

section Step

variable {s s' : System}

/-- A step that leaves all readers alone. -/
lemma Elapses.of_readers {action : Action} {p : Nat} (hnow : s'.now = s.now + action.elapsed)
    (hfull : s'.hub.metrics.backpressureDisconnects = s.hub.metrics.backpressureDisconnects)
    (hpumps : ∀ pump pump', s.pumps[p]? = some pump → s'.pumps[p]? = some pump' →
      pump'.reader = pump.reader)
    (hnone : action.readerMove? p = none) : s.Elapses action p s' where
  now := hnow
  full _ := hfull
  reader pump pump' c hpump hpump' _ := by
    rw [hnone, hpumps pump pump' hpump hpump']
    exact .stays

/-- A step that leaves all pumps alone. -/
lemma Elapses.of_pumps {action : Action} {p : Nat} (hnow : s'.now = s.now + action.elapsed)
    (hfull : s'.hub.metrics.backpressureDisconnects = s.hub.metrics.backpressureDisconnects)
    (hpumps : s'.pumps = s.pumps) (hnone : action.readerMove? p = none) :
    s.Elapses action p s' := by
  refine .of_readers hnow hfull (fun pump pump' hpump hpump' => ?_) hnone
  rw [hpumps, hpump] at hpump'
  obtain rfl := Option.some.inj hpump'
  rfl

/-- A request to the hub takes no time, and finds no queue full. -/
lemma spares_send? {command : Command} {taken : Bool} (h : s.send? command = some (taken, s')) :
    s'.now = s.now ∧ s'.pumps = s.pumps ∧ s'.hub.connections = s.hub.connections
      ∧ s'.hub.metrics.backpressureDisconnects = s.hub.metrics.backpressureDisconnects := by
  rcases send?_eq_some h with ⟨-, -, -, rfl⟩ | ⟨-, -, rfl⟩
  · exact ⟨rfl, rfl, rfl, rfl⟩
  · refine ⟨rfl, rfl, ?_, congrArg Metrics.backpressureDisconnects (Hub.metrics_discard _ _)⟩
    cases command <;> rfl

/-- **The moves of a reader**, with what each of them needs. -/
lemma goes_of_read? {k : Nat} {move : Reader.Move} (h : s.read? k move = some s') :
    ∃ pump c stage, s.pumps[k]? = some pump ∧ s.hub.connections[pump.connection]? = some c
      ∧ Reader.Goes s.settings s.now s.loop c pump (some move) stage
      ∧ s'.pumps = s.pumps.modify k (fun pump => { pump with reader := ⟨stage⟩ })
      ∧ s'.now = s.now
      ∧ s'.hub.metrics.backpressureDisconnects = s.hub.metrics.backpressureDisconnects := by
  simp only [read?, Option.bind_eq_bind, Option.bind_eq_some_iff] at h
  obtain ⟨pump, hpump, c, hc, h⟩ := h
  refine ⟨pump, c, ?_⟩
  split at h
  · next hstage =>
      cases h
      exact ⟨_, hpump, hc, .begin hstage, rfl, rfl, rfl⟩
  · next deadline incoming hstage =>
      split_ifs at h
      · cases h
        exact ⟨_, hpump, hc, .receive incoming hstage, rfl, rfl, rfl⟩
      · cases h
        exact ⟨_, hpump, hc, .receive incoming hstage, rfl, rfl, rfl⟩
  · next deadline hstage =>
      split_ifs at h with hdue
      cases h
      exact ⟨_, hpump, hc, .expire hstage hdue, rfl, rfl, rfl⟩
  · next deadline hstage =>
      split_ifs at h with hpermit
      cases h
      exact ⟨_, hpump, hc, .hearStopped hstage hpermit, rfl, rfl, rfl⟩
  · next data deadline hstage =>
      obtain ⟨⟨taken, s₁⟩, hsend, h⟩ := Option.bind_eq_some_iff.1 h
      obtain ⟨hnow, hpumps, -, hfull⟩ := spares_send? hsend
      cases h
      rcases send?_eq_some hsend with ⟨-, -, rfl, -⟩ | ⟨hgone, rfl, -⟩
      · exact ⟨_, hpump, hc, .relay hstage, congrArg _ hpumps, hnow, hfull⟩
      · exact ⟨_, hpump, hc, .relayRefused hstage hgone, congrArg _ hpumps, hnow, hfull⟩
  · next data deadline hstage =>
      cases h
      obtain ⟨outcomes, malformed, forwarder, notices, heq⟩ := publishOrder_eq c.id data s
      rw [heq]
      exact ⟨_, hpump, hc, .publish hstage, rfl, rfl, rfl⟩
  · next reason hstage =>
      cases h
      refine ⟨_, hpump, hc, .leave (by rw [hstage]; rfl) ?_, rfl, rfl, rfl⟩
      split_ifs <;> rfl
  · next reason hstage =>
      cases h
      refine ⟨_, hpump, hc, .leave (by rw [hstage]; rfl) ?_, rfl, rfl, rfl⟩
      split_ifs <;> rfl
  · next reason hstage =>
      cases h
      exact ⟨_, hpump, hc, .leave (by rw [hstage]; rfl) rfl, rfl, rfl, rfl⟩
  · next reason hstage =>
      cases h
      exact ⟨_, hpump, hc, .leave (by rw [hstage]; rfl) rfl, rfl, rfl, rfl⟩
  · next reason hstage =>
      obtain ⟨⟨taken, s₁⟩, hsend, h⟩ := Option.bind_eq_some_iff.1 h
      obtain ⟨hnow, hpumps, -, hfull⟩ := spares_send? hsend
      cases h
      refine ⟨.done reason, hpump, hc, .leave (by rw [hstage]; rfl) rfl, ?_⟩
      cases taken
      · exact ⟨congrArg _ hpumps, hnow, hfull⟩
      · exact ⟨congrArg _ hpumps, hnow, hfull⟩
  · cases h

/-- **What a step does to the clock, to readers and to the count of full queues.** -/
theorem elapses_step? {action : Action} (h : s.step? action = some s') (p : Nat) :
    s.Elapses action p s' := by
  cases action with
  | advance nanos =>
      cases h
      exact .of_pumps rfl rfl rfl rfl
  | connect peer =>
      simp only [step?] at h
      split_ifs at h
      cases h
      refine .of_readers rfl rfl (fun pump pump' hpump hpump' => ?_) rfl
      obtain ⟨hlt, -⟩ := List.getElem?_eq_some_iff.1 hpump
      have hold : (s.connect peer).pumps[p]? = s.pumps[p]? := List.getElem?_append_left hlt
      obtain rfl := Option.some.inj (hpump.symm.trans (hold.symm.trans hpump'))
      rfl
  | request command =>
      simp only [step?] at h
      split_ifs at h
      obtain ⟨⟨taken, s₁⟩, hsend, rfl⟩ := Option.map_eq_some_iff.1 h
      obtain ⟨hnow, hpumps, -, hfull⟩ := spares_send? hsend
      exact .of_pumps hnow hfull hpumps rfl
  | detach | inject fragment | loseFeed | setConnected value | setBackPressured value | drain =>
      cases h
      exact .of_pumps rfl rfl rfl rfl
  | loseHub =>
      cases h
      refine .of_pumps ?_ ?_ ?_ rfl
      · unfold loseHub
        split <;> rfl
      · unfold loseHub
        split
        · exact congrArg Metrics.backpressureDisconnects (Hub.metrics_lose s.hub s.mailbox)
        · rfl
        · rfl
      · unfold loseHub
        split <;> rfl
  | serve =>
      simp only [step?, serve?] at h
      split at h
      · next command rest hloop hmailbox =>
          cases h
          refine ⟨rfl, fun hquiet => ?_, ?_⟩
          · refine Hub.backpressureDisconnects_apply s.hub fun payload heq => hquiet payload ?_
            rw [servedAt, hmailbox, heq]
            rfl
          · intro pump pump' c hpump hpump' _
            obtain rfl := Option.some.inj (hpump.symm.trans hpump')
            exact .stays
      · cases h
  | stopHub =>
      simp only [step?, stopHub?] at h
      split_ifs at h
      cases h
      exact .of_pumps rfl (congrArg Metrics.backpressureDisconnects (Hub.metrics_stop s.hub) :) rfl
        rfl
  | enter k =>
      simp only [step?, enter?, Option.bind_eq_bind, Option.bind_eq_some_iff] at h
      obtain ⟨pump₁, hpump₁, conn, hconn, h⟩ := h
      split_ifs at h with hstage
      obtain ⟨⟨taken, s₁⟩, hsend, h⟩ := Option.bind_eq_some_iff.1 h
      obtain ⟨hnow, hpumps, -, hfull⟩ := spares_send? hsend
      cases taken with
      | false =>
          cases h
          refine .of_readers hnow hfull (fun pump pump' hpump hpump' => ?_) rfl
          rcases modify_cases (hpumps ▸ hpump) hpump' with ⟨-, rfl⟩ | ⟨-, rfl⟩ <;> rfl
      | true =>
          cases h
          refine ⟨hnow, fun _ => hfull, ?_⟩
          intro pump pump' c hpump hpump' _
          rcases modify_cases (hpumps ▸ hpump) hpump' with ⟨rfl, rfl⟩ | ⟨-, rfl⟩
          · obtain rfl := Option.some.inj (hpump₁.symm.trans hpump)
            exact .start (by simpa using hstage)
          · exact .stays
  | leave k =>
      simp only [step?, leave?, Option.bind_eq_bind, Option.bind_eq_some_iff] at h
      obtain ⟨pump₁, -, h⟩ := h
      split_ifs at h
      cases h
      refine .of_readers rfl rfl (fun pump pump' hpump hpump' => ?_) rfl
      rcases modify_cases hpump hpump' with ⟨-, rfl⟩ | ⟨-, rfl⟩ <;> rfl
  | read k move =>
      obtain ⟨pump₁, c₁, stage, hpump₁, hc₁, hgoes, hpumps, hnow, hfull⟩ := goes_of_read? h
      refine ⟨hnow, fun _ => hfull, ?_⟩
      intro pump pump' c hpump hpump' hc
      rw [hpumps] at hpump'
      simp only [Action.readerMove?]
      rcases modify_cases hpump hpump' with ⟨rfl, rfl⟩ | ⟨hne, rfl⟩
      · obtain rfl := Option.some.inj (hpump₁.symm.trans hpump)
        obtain rfl := Option.some.inj (hc₁.symm.trans hc)
        rw [if_pos rfl]
        exact hgoes
      · rw [if_neg hne]
        exact .stays
  | write k move =>
      simp only [step?, write?, Option.bind_eq_bind, Option.bind_eq_some_iff] at h
      obtain ⟨pump₁, -, conn, -, queue, -, after, -, h⟩ := h
      cases h
      refine .of_readers rfl rfl (fun pump pump' hpump hpump' => ?_) rfl
      rcases modify_cases hpump hpump' with ⟨-, rfl⟩ | ⟨-, rfl⟩ <;> rfl
  | newBridge =>
      simp only [step?] at h
      split_ifs at h
      cases h
      exact .of_pumps rfl rfl rfl rfl
  | pollOnce | runBridge =>
      simp only [step?, startBridge?] at h
      split at h
      · cases h
        exact .of_pumps rfl rfl rfl rfl
      · cases h
  | bridge =>
      obtain ⟨bridge, subscription, fragments, feedConnected, mailbox, notices, rfl, -⟩ :=
        bridgeStep?_eq h
      exact .of_pumps rfl rfl rfl rfl

end Step

/-! ## Runs with their actions in sight -/

section Run

variable {s t : System} {actions : List Action} {p : Nat} {v w : View}

/-- The reader of a client goes on by the move that the action makes. -/
lemma Wired.reader_goes (hw : s.Wired) {s' : System} {action : Action} {v' : View}
    (hstep : s.step? action = some s') (hview : s.view? p = some v)
    (hview' : s'.view? p = some v') :
    Reader.Goes s.settings s.now s.loop v.seat.connection v.pump (action.readerMove? p)
      v'.pump.reader.stage := by
  obtain ⟨hpump, hconnection, -, hc, -⟩ := hw.parts hview
  exact (elapses_step? hstep p).reader _ _ _ hpump (view?_eq_some_iff.1 hview').1
    (hconnection.symm ▸ hc)

/-- **Induction over the rest of a run**, with its steps and what a client sees in sight. -/
theorem Wired.run_clients (P : System → View → Prop) (hw : s.Wired)
    (horderly : ∀ action ∈ actions, action.isOrderly = true) (hrun : run? actions s = some t)
    (hview : s.view? p = some v) (hv : v.Sound p) (hstart : P s v)
    (hkeep : ∀ action ∈ actions, ∀ u u' x x', u.step? action = some u' → u.Wired →
      u.view? p = some x → u'.view? p = some x' → x.Sound p →
      View.Step u.settings u.now p (u.servedAt action) x x' → P u x → P u' x')
    (hview' : t.view? p = some w) : P t w := by
  induction actions generalizing s v with
  | nil =>
      obtain rfl := Option.some.inj hrun
      obtain rfl := Option.some.inj (hview.symm.trans hview')
      exact hstart
  | cons action actions ih =>
      obtain ⟨s', hstep, hrest⟩ := run?_cons hrun
      have hcourse := hw.course (horderly action List.mem_cons_self) hstep
      obtain ⟨v', hnext, hviewstep⟩ := hw.step_view hcourse hview
      exact ih (hw.of_course hcourse) (fun a ha => horderly a (List.mem_cons_of_mem _ ha)) hrest
        hnext (hv.step hviewstep)
        (hkeep action List.mem_cons_self s s' v v' hstep hw hview hnext hv hviewstep hstart)
        fun a ha => hkeep a (List.mem_cons_of_mem _ ha)

/-- **Induction over a run from its start**, with what was done so far and what a client sees in
sight. -/
theorem run_clients {settings : Settings} {kind : Subscription.Kind} {forwarder : Forwarder}
    {P : List Action → System → View → Prop} (hfresh : ∀ past u v, v.Fresh p → P past u v)
    (hkeep : ∀ past action later u u' x x', actions = past ++ action :: later →
      run? past (startOn settings kind forwarder) = some u → u.step? action = some u' →
      u.Wired → u.view? p = some x → u'.view? p = some x' → x.Sound p →
      View.Step u.settings u.now p (u.servedAt action) x x' → P past u x →
      P (past ++ [action]) u' x')
    (horderly : ∀ action ∈ actions, action.isOrderly = true)
    (hrun : run? actions (startOn settings kind forwarder) = some t)
    (hview : t.view? p = some v) : v.Sound p ∧ P actions t v := by
  refine run_induction (P := fun past u => past <+: actions → ∀ x, u.view? p = some x →
    x.Sound p ∧ P past u x) ?_ ?_ hrun (List.prefix_refl _) v hview
  · intro _ x hx
    simp [view?, startOn, start] at hx
  · intro past action u u' hpast ih hstep hprefix x' hx'
    obtain ⟨later, hsplit⟩ := hprefix
    rw [List.append_assoc, List.singleton_append] at hsplit
    subst hsplit
    have hw : u.Wired := (wired_startOn settings kind forwarder).run
      (fun a ha => horderly a (List.mem_append_left _ ha)) hpast
    have hact : action.isOrderly = true := horderly action (by simp)
    rcases hw.view_cases hact hstep hx' with ⟨x, hx, hviewstep⟩ | ⟨-, hnew, hsound⟩
    · obtain ⟨hv, hP⟩ := ih (List.prefix_append _ _) x hx
      exact ⟨hv.step hviewstep,
        hkeep past action later u u' x x' rfl hpast hstep hw hx hx' hv hviewstep hP⟩
    · exact ⟨hsound, hfresh _ _ _ hnew⟩

end Run

/-! ## Times -/

/-- The frame that the writer at a position is about to hand over. -/
def frameAtHand? (p : Nat) (s : System) : Option Outgoing :=
  (s.pumps[p]?).bind fun pump => pump.writer.stage.atHand?

/-- When something happened in the course of a run. -/
def timesOf (happens : Action → System → Bool) : List Action → System → List Nat :=
  trace fun action s _ => if happens action s then [s.now] else []

/-- When the reader at a position read a pong, in the course of a run. -/
def pongsOf (p : Nat) : List Action → System → List Nat :=
  timesOf fun action _ => action.readerMove? p = some (.receive .pong)

/-- When the writer at a position handed over a ping, in the course of a run. -/
def pingsOf (p : Nat) : List Action → System → List Nat :=
  timesOf fun action s => action.writerMove? p = some .proceed ∧ s.frameAtHand? p = some .ping

section Times

variable {s t t' : System} {actions : List Action} {action : Action} {p : Nat} {v : View}

lemma frameAtHand?_eq (hview : s.view? p = some v) :
    s.frameAtHand? p = v.pump.writer.stage.atHand? := by
  rw [frameAtHand?, (view?_eq_some_iff.1 hview).1, Option.bind_some]

/-- A step at the end of a run is the last time at which something may have happened. -/
lemma timesOf_concat {happens : Action → System → Bool} (hrun : run? actions s = some t)
    (hstep : t.step? action = some t') :
    timesOf happens (actions ++ [action]) s
      = timesOf happens actions s ++ if happens action t then [t.now] else [] :=
  trace_concat hrun hstep

lemma timesOf_concat_of_not {happens : Action → System → Bool} (hrun : run? actions s = some t)
    (hstep : t.step? action = some t') (hnot : happens action t = false) :
    timesOf happens (actions ++ [action]) s = timesOf happens actions s := by
  rw [timesOf_concat hrun hstep, hnot]
  exact List.append_nil _

lemma mem_timesOf_concat {happens : Action → System → Bool} (hrun : run? actions s = some t)
    (hstep : t.step? action = some t') {time : Nat} :
    time ∈ timesOf happens (actions ++ [action]) s ↔ time ∈ timesOf happens actions s
      ∨ happens action t = true ∧ time = t.now := by
  rw [timesOf_concat hrun hstep, List.mem_append]
  split_ifs with hhappens <;> simp [hhappens]

/-- What happened is not later than now. -/
lemma timesOf_le_now {happens : Action → System → Bool} (hrun : run? actions s = some t) :
    ∀ time ∈ timesOf happens actions s, time ≤ t.now := by
  refine run_induction (P := fun past u => ∀ time ∈ timesOf happens past s, time ≤ u.now) nofun ?_
    hrun
  intro past action u u' hpast ih hstep time hmem
  refine le_trans ?_ (passes_step? hstep 0).now
  rcases (mem_timesOf_concat hpast hstep).1 hmem with hold | ⟨-, rfl⟩
  · exact ih time hold
  · exact Nat.le_refl _

end Times

end System

end MarketGate
