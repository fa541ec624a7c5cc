import MarketGate.Proofs.Connection.Callers
import MarketGate.Proofs.System.Lifecycle

/-!
# Who calls a connection

In a gateway the hub registers a client's connection and drains it, the reader closes it, and the
pump marks it closed when it returns.  None of them takes notice of the others, so a run of the
gateway comes down to an interleaving of such calls, and what holds of all of these holds of every
connection of every gateway.

* `View.Follows` says that a shared connection stands where the connection of a client stands, and
  that the reader is in the middle of a call exactly where the client's reader is.
* **`View.Follows.step`**: whatever happens to the client, some calls make it happen to the shared
  connection.
* **`System.exists_calls_of_run`**: so for each of its clients a run of a gateway is an interleaving
  of calls, and **`System.precedes_of_run`** is what holds of all of them.
-/

namespace MarketGate

open Connection

/-- The call that a reader is in the middle of. -/
def Reader.Stage.call? : Reader.Stage → Option Call
  | .claiming _ => some ⟨.beginClosing, .begun⟩
  | .claimingEarly _ => some ⟨.beginClosing, .retrying⟩
  | .waking _ => some ⟨.beginClosing, .waking⟩
  | _ => none

/-- What a reader receives may make it begin a call. -/
lemma Reader.Stage.of_call?_afterReceiving {route : Route} {pongWait now deadline : Nat}
    {incoming : Incoming} {call : Call}
    (h : (afterReceiving route pongWait now deadline incoming).call? = some call) :
    call = ⟨.beginClosing, .begun⟩ := by
  cases incoming with
  | binary data => cases route <;> cases h
  | pong | other => cases h
  | close | failed | finished => exact (Option.some.inj h).symm

lemma Connection.closingPermit_exchange (c : Connection) (source target : Phase) :
    (c.exchange source target).closingPermit = c.closingPermit := by
  unfold exchange
  split_ifs <;> rfl

namespace View

/-- A shared connection stands where the connection of a client stands, and has the call that its
reader is in the middle of. -/
structure Follows (v : View) (s : Shared) : Prop where
  phase : v.seat.connection.phase = s.connection.phase
  closingPermit : v.seat.connection.closingPermit = s.connection.closingPermit
  closer : ∀ call, v.pump.reader.stage.call? = some call → call ∈ s.calls

section Follows

variable {settings : Settings} {now p : Nat} {label : Option Command} {v v' : View} {s : Shared}

/-- Nobody calls, or the reader begins to. -/
lemma Follows.of_same (hv : v.Follows s)
    (hphase : v'.seat.connection.phase = v.seat.connection.phase)
    (hpermit : v'.seat.connection.closingPermit = v.seat.connection.closingPermit)
    (hreader : ∀ call, v'.pump.reader.stage.call? = some call →
      v.pump.reader.stage.call? = some call ∨ call = ⟨.beginClosing, .begun⟩) :
    ∃ moves, v'.Follows (s.run moves) := by
  by_cases hnew : v'.pump.reader.stage.call? = some ⟨.beginClosing, .begun⟩
  · refine ⟨[.call .beginClosing], hphase.trans hv.phase, hpermit.trans hv.closingPermit, ?_⟩
    intro call hcall
    obtain rfl := Option.some.inj (hnew.symm.trans hcall)
    exact List.mem_append_right _ (List.mem_singleton_self _)
  · refine ⟨[], hphase.trans hv.phase, hpermit.trans hv.closingPermit, fun call hcall => ?_⟩
    rcases hreader call hcall with hold | rfl
    · exact hv.closer call hold
    · exact absurd hcall hnew

/-- Somebody calls an operation, and nobody comes in between. -/
lemma Follows.perform (hv : v.Follows s) (request : Request)
    (hphase : v'.seat.connection.phase = (request.perform s.connection).phase)
    (hpermit : v'.seat.connection.closingPermit = (request.perform s.connection).closingPermit)
    (hreader : v'.pump.reader = v.pump.reader) : ∃ moves, v'.Follows (s.run moves) := by
  obtain ⟨c, calls, wakes⟩ := s
  refine ⟨.call request :: List.replicate 3 (.advance calls.length), ?_⟩
  rw [Shared.run_alone]
  refine ⟨hphase, hpermit, fun call hcall => ?_⟩
  rw [hreader] at hcall
  exact List.mem_append_left _ (hv.closer call hcall)

/-- The reader makes the next step of the call that it is in the middle of. -/
lemma Follows.advance (hv : v.Follows s) (call : Call)
    (hcall : v.pump.reader.stage.call? = some call)
    (hphase : v'.seat.connection.phase = (call.advance s.connection).connection.phase)
    (hpermit : v'.seat.connection.closingPermit
      = (call.advance s.connection).connection.closingPermit)
    (hnext : ∀ call', v'.pump.reader.stage.call? = some call' → call' = call.next s.connection) :
    ∃ moves, v'.Follows (s.run moves) := by
  obtain ⟨i, hi⟩ := List.mem_iff_getElem?.1 (hv.closer call hcall)
  refine ⟨[.advance i], ?_⟩
  rw [Shared.run_cons, Shared.step_advance hi]
  refine ⟨hphase, hpermit, fun call' hcall' => ?_⟩
  obtain rfl := hnext call' hcall'
  exact List.mem_set (List.getElem?_eq_some_iff.1 hi).1 _

/-- The hub serves a command, or ends. -/
lemma Follows.handles (hv : v.Follows s) (h : v.seat.Handles v'.seat)
    (hreader : v'.pump.reader = v.pump.reader) : ∃ moves, v'.Follows (s.run moves) := by
  -- an attempt of the hub that fails leaves no trace, so it need not be a call
  rcases h.phase with hphase | ⟨hconnecting, hphase⟩ | ⟨hregistered, hphase, -⟩
  · exact hv.of_same hphase h.closingPermit fun call hcall => Or.inl (hreader ▸ hcall)
  · rw [hv.phase] at hconnecting
    refine hv.perform .markRegistered ?_ ?_ hreader
    · rw [hphase, Request.perform, markRegistered, phase_exchange, if_pos hconnecting]
    · rw [h.closingPermit, hv.closingPermit]
      exact (closingPermit_exchange _ _ _).symm
  · rw [hv.phase] at hregistered
    refine hv.perform .beginDraining ?_ ?_ hreader
    · rw [hphase, Request.perform, beginDraining, phase_exchange, if_pos hregistered]
    · rw [h.closingPermit, hv.closingPermit]
      exact (closingPermit_exchange _ _ _).symm

/-- The reader does something that does not reach the hub. -/
lemma Follows.turn (hv : v.Follows s) {stage : Reader.Stage} {connection : Connection}
    (h : Reader.Turn settings now v.pump.reader.stage v.seat.connection stage connection) :
    ∃ moves, Follows { v.setReader stage with seat := { v.seat with connection } }
      (s.run moves) := by
  have hphase := hv.phase
  have hpermit := hv.closingPermit
  generalize hstage : v.pump.reader.stage = before at h
  generalize v.seat.connection = c at h hphase hpermit
  cases h with
  | start | publish | report | pong =>
    refine ⟨[], hphase, hpermit, fun call hcall => ?_⟩
    cases hcall
  | expire | hearStopped =>
    exact hv.of_same (hphase.trans hv.phase.symm) (hpermit.trans hv.closingPermit.symm)
      fun call hcall => Or.inr (Option.some.inj hcall).symm
  | receive =>
    exact hv.of_same (hphase.trans hv.phase.symm) (hpermit.trans hv.closingPermit.symm)
      fun call hcall => Or.inr (Reader.Stage.of_call?_afterReceiving hcall)
  | @claim _ reason =>
    refine hv.advance ⟨.beginClosing, .begun⟩ (by rw [hstage]; rfl) ?_ ?_ ?_
    · simp [Call.advance, phase_exchange, hphase]
    · simp [Call.advance, closingPermit_exchange, hpermit]
    · -- reader and call go on alike, depending on whether the attempt works
      intro call' hcall'
      by_cases hregistered : c.phase = .registered <;>
        simp_all [setReader, Call.next, Call.advance, stands, Reader.Stage.call?]
  | @claimEarly _ reason =>
    refine hv.advance ⟨.beginClosing, .retrying⟩ (by rw [hstage]; rfl) ?_ ?_ ?_
    · simp [Call.advance, phase_exchange, hphase]
    · simp [Call.advance, closingPermit_exchange, hpermit]
    · intro call' hcall'
      by_cases hconnecting : c.phase = .connecting <;>
        simp_all [setReader, Call.next, Call.advance, stands, Reader.Stage.call?]
  | wake =>
    refine hv.advance ⟨.beginClosing, .waking⟩ (by rw [hstage]; rfl) hphase rfl ?_
    intro call' hcall'
    cases hcall'

/-- **Whatever happens to a client, some calls make it happen to its connection.** -/
theorem Follows.step (hv : v.Follows s) (h : View.Step settings now p label v v') :
    ∃ moves, v'.Follows (s.run moves) := by
  cases h with
  | idle => exact ⟨[], hv⟩
  | send hopen hne => exact ⟨[], hv.phase, hv.closingPermit, hv.closer⟩
  | serve hloop hmailbox => exact hv.handles (Seat.handles_apply _ _) rfl
  | stop hloop hmailbox hstage => exact hv.handles (Seat.handles_remove _) rfl
  | lose hloop => exact ⟨[], hv.phase, hv.closingPermit, hv.closer⟩
  | act hact =>
    cases hact with
    | enter hstage hopen => exact ⟨[], hv.phase, hv.closingPermit, nofun⟩
    | refused | leave => exact hv.perform .markClosed rfl hv.closingPermit rfl
    | turn hturn => exact hv.turn hturn
    | relay | part | partRefused => exact ⟨[], hv.phase, hv.closingPermit, nofun⟩
    | relayRefused hstage hloop =>
      exact hv.of_same rfl rfl fun call hcall => Or.inr (Option.some.inj hcall).symm
    | write hturn =>
      cases hturn with
      | hearClosing => exact ⟨[.hear], hv.phase, rfl, hv.closer⟩
      | _ => exact ⟨[], hv.phase, hv.closingPermit, hv.closer⟩

end Follows

/-- A connection that has just come into being, which nobody has called. -/
lemma Fresh.follows {p : Nat} {v : View} (hnew : v.Fresh p) :
    ∃ peer connectedAt, v.Follows { connection := { id := p + 1, peer, connectedAt } } := by
  obtain ⟨peer, connectedAt, hc⟩ := hnew.connection
  refine ⟨peer, connectedAt, by rw [hc], by rw [hc], fun call hcall => ?_⟩
  rw [hnew.pump] at hcall
  cases hcall

end View

namespace System

section Run

variable {s t : System} {first second : List Action} {p : Nat} {v w : View} {settings : Settings}

/-- The connection of every client is called by somebody, to begin with and later. -/
lemma exists_calls_of_start (horderly : ∀ action ∈ first, action.isOrderly = true)
    (hrun : run? first (start settings) = some s) (hview : s.view? p = some v) :
    ∃ peer connectedAt moves,
      v.Follows (Shared.run moves { connection := { id := p + 1, peer, connectedAt } }) := by
  refine (wired_start settings).run_view (fun _ v => ∃ peer connectedAt moves,
    v.Follows (Shared.run moves { connection := { id := p + 1, peer, connectedAt } })) []
    ?_ ?_ horderly hrun nofun ?_ hview
  · intro _ _ v hnew _ _
    obtain ⟨peer, connectedAt, hv⟩ := hnew.follows
    exact ⟨peer, connectedAt, [], hv⟩
  · rintro _ now label v v' ⟨peer, connectedAt, moves, hv⟩ hstep
    obtain ⟨more, hv'⟩ := hv.step hstep
    exact ⟨peer, connectedAt, moves ++ more, by rwa [Shared.run_append]⟩
  · intro v hv
    rw [view?_start] at hv
    cases hv

/-- In the rest of a run it is called again, on top of the calls so far. -/
lemma Wired.exists_calls (hw : s.Wired) (horderly : ∀ action ∈ second, action.isOrderly = true)
    (hrun : run? second s = some t) (hview : s.view? p = some v) (hview' : t.view? p = some w)
    {shared : Shared} (hv : v.Follows shared) : ∃ moves, w.Follows (shared.run moves) := by
  refine hw.run_view (fun _ u => ∃ moves, u.Follows (shared.run moves)) [] ?_ ?_ horderly hrun
    nofun ?_ hview'
  · intro hnone
    rw [hview] at hnone
    cases hnone
  · rintro _ now label u u' ⟨moves, hu⟩ hstep
    obtain ⟨more, hu'⟩ := hu.step hstep
    exact ⟨moves ++ more, by rwa [Shared.run_append]⟩
  · intro u hu
    obtain rfl := Option.some.inj (hview.symm.trans hu)
    exact ⟨[], hv⟩

/-- **A run of a gateway comes down to calls of the connection of each client**, and a longer run to
the same calls and some more. -/
theorem exists_calls_of_run (hfirst : ∀ action ∈ first, action.isOrderly = true)
    (hsecond : ∀ action ∈ second, action.isOrderly = true)
    (hrun : run? first (start settings) = some s) (hrun' : run? second s = some t)
    (hview : s.view? p = some v) (hview' : t.view? p = some w) :
    ∃ peer connectedAt before after,
      let shared := Shared.run before { connection := { id := p + 1, peer, connectedAt } }
      v.Follows shared ∧ w.Follows (shared.run after) := by
  obtain ⟨peer, connectedAt, before, hv⟩ := exists_calls_of_start hfirst hrun hview
  have hw := (wired_start settings).run hfirst hrun
  obtain ⟨after, hw'⟩ := hw.exists_calls hsecond hrun' hview hview' hv
  exact ⟨peer, connectedAt, before, after, hv, hw'⟩

/-- **The connection of a client only goes forward** in the run of a gateway. -/
theorem precedes_of_run (hfirst : ∀ action ∈ first, action.isOrderly = true)
    (hsecond : ∀ action ∈ second, action.isOrderly = true)
    (hrun : run? first (start settings) = some s) (hrun' : run? second s = some t)
    (hview : s.view? p = some v) (hview' : t.view? p = some w) :
    v.seat.connection.phase.Precedes w.seat.connection.phase := by
  obtain ⟨peer, connectedAt, before, after, hv, hw⟩ :=
    exists_calls_of_run hfirst hsecond hrun hrun' hview hview'
  rw [hv.phase, hw.phase]
  exact Shared.precedes_run _ after

end Run

end System

end MarketGate
