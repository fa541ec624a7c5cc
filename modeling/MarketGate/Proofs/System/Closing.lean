import MarketGate.Proofs.System.Output

/-!
# When a reader closes a connection

A reader that leaves closes the connection and wakes the writer, so that what is in the queue is
discarded.  Both halves of this hold only up to a point.

*What the writer still does.*  It looks whether the reader closes before it waits, and once more
when it has a message.  But it does not look when it finds its queue finished.  So a writer that
waits may still hand over a Close frame, although the connection closes
(`close_handed_while_closing`), and a writer that has looked may still hand over the frame that it
stands before.
**`handed_while_closing`**: beyond one such frame it hands over nothing.

*Whether the reader closes at all.*  It tries a registered connection first and then a connecting
one.  If the hub registers the connection in between, then both attempts fail, nobody is woken, and
the connection drains in the end (`draining_after_claim`).  **`closing_of_claim`**: unless that
happens, or the hub has removed the connection before, it closes and stays so.

* `Stage.MayHand` are the frames that a writer may still hand over once the reader closes.
* `Reader.Claims` is what holds of a reader and the phase of its connection from its first attempt
  on, if the hub does not register the connection meanwhile.
-/

namespace MarketGate

namespace Writer

/-- The frames that a writer may still hand over once the reader closes the connection. -/
inductive Stage.MayHand : Stage → Outgoing → Prop
  | handing {frame : Outgoing} {nextPing : Nat} : MayHand (.handing frame nextPing) frame
  | ping {nextPing : Nat} : MayHand (.selecting nextPing) .ping
  | close {nextPing : Nat} : MayHand (.selecting nextPing) .close

section MayHand

variable {pingPeriod writeWait now : Nat} {v v' : Scene}

/-- A writer of a connection that closes comes closer to handing nothing over. -/
lemma Turn.mayHand (h : Turn pingPeriod writeWait now v v')
    (hclosing : v.connection.isClosing = true) :
    v'.writer.handed = v.writer.handed
        ∧ (∀ frame, v'.writer.stage.MayHand frame → v.writer.stage.MayHand frame)
      ∨ ∃ frame, v.writer.stage.MayHand frame ∧ v'.writer.handed = v.writer.handed ++ [frame]
        ∧ ∀ other, ¬ v'.writer.stage.MayHand other := by
  cases h with
  | check hstage | look hstage =>
      rw [if_pos hclosing]
      exact Or.inl ⟨rfl, nofun⟩
  | finish hstage =>
      refine Or.inl ⟨rfl, ?_⟩
      rintro _ ⟨⟩
      rw [hstage]
      exact .close
  | tick hstage =>
      refine Or.inl ⟨rfl, ?_⟩
      rintro _ ⟨⟩
      rw [hstage]
      exact .ping
  | hand hstage =>
      refine Or.inr ⟨_, ?_, rfl, nofun⟩
      rw [hstage]
      exact .handing
  | _ => exact Or.inl ⟨rfl, nofun⟩

end MayHand

end Writer

namespace View

/-- The connection closes, and since the writer was `first`, it has handed over at most one frame,
which it could hand over then. -/
structure Discards (first : Writer) (v : View) : Prop where
  phase : v.seat.connection.phase = .closing ∨ v.seat.connection.phase = .closed
  more : v.pump.writer.handed = first.handed
      ∧ (∀ frame, v.pump.writer.stage.MayHand frame → first.stage.MayHand frame)
    ∨ ∃ frame, first.stage.MayHand frame ∧ v.pump.writer.handed = first.handed ++ [frame]
      ∧ ∀ other, ¬ v.pump.writer.stage.MayHand other

section Step

variable {settings : Settings} {now p : Nat} {label : Option Command} {v v' : View}

/-- A client whose connection closes or is closed has asked for registration. -/
lemma Sound.not_waits (hv : v.Sound p)
    (hphase : v.seat.connection.phase = .closing ∨ v.seat.connection.phase = .closed) :
    v.waits = false := by
  rw [← Bool.not_eq_true]
  intro hwaits
  rcases hphase with hclosing | hclosed
  · have htried := hv.coherent.closing hclosing
    rw [hv.kept.idle hwaits] at htried
    exact Bool.noConfusion htried
  · simp [waits, hv.coherent.closed hclosed] at hwaits

/-- The writer of a closed connection makes no move. -/
lemma Sound.phase_of_turn (hv : v.Sound p) {after : Writer.Scene}
    (hturn : Writer.Turn settings.pingPeriod settings.writeWait now v.scene after) :
    v.seat.connection.phase ≠ .closed := by
  intro hclosed
  rcases hv.coherent.returned (hv.coherent.closed hclosed) with ⟨-, hdone⟩ | ⟨-, hidle, -⟩
  · exact hturn.ne_done hdone
  · exact hturn.ne_idle hidle

/-- **A writer discards what it has not handed over**, but for one frame. -/
theorem Discards.step {first : Writer} (hd : v.Discards first) (hv : v.Sound p)
    (h : View.Step settings now p label v v') : v'.Discards first where
  phase := h.leads.of_closing hd.phase
  more := by
    rcases h.writer_cases with heq | ⟨hwaits, -⟩ | hturn
    · rw [heq]
      exact hd.more
    · rw [hv.not_waits hd.phase] at hwaits
      exact Bool.noConfusion hwaits
    · have hclosing : v.scene.connection.isClosing = true :=
        decide_eq_true (hd.phase.resolve_right (hv.phase_of_turn hturn))
      rcases hd.more with ⟨hnone, hfirst⟩ | ⟨frame, hframe, hone, hlast⟩
      · rcases hturn.mayHand hclosing with ⟨hsame, hless⟩ | ⟨frame, hframe, hone, hlast⟩
        · exact Or.inl ⟨hsame.trans hnone, fun frame hf => hfirst frame (hless frame hf)⟩
        · refine Or.inr ⟨frame, hfirst frame hframe, ?_, hlast⟩
          exact hone.trans (congrArg (fun list => list ++ [frame]) hnone)
      · rcases hturn.mayHand hclosing with ⟨hsame, hless⟩ | ⟨other, hother, -⟩
        · exact Or.inr ⟨frame, hframe, hsame.trans hone, fun other hf =>
            hlast other (hless other hf)⟩
        · exact absurd hother (hlast other)

end Step

end View

namespace System

/-- **What a writer still hands over once the connection closes.**  Take any run of a gateway in
which registering is left to the pumps, and a client whose connection closes at some point of it.
From then on the connection closes or is closed, and the writer hands over one frame at most: the
one that it stood before at that point, or, if it was waiting, a ping or a Close frame, and the
latter only when all that was ever put into the queue had been handed over. -/
theorem handed_while_closing (settings : Settings) (before after : List Action) (s t : System)
    (p : Nat) (x y : Writer.Scene)
    (horderly : ∀ action ∈ before ++ after, action.isOrderly = true)
    (hbefore : run? before (start settings) = some s) (hafter : run? after s = some t)
    (hx : s.scene? p = some x) (hy : t.scene? p = some y)
    (hclosing : x.connection.phase = .closing) :
    (y.connection.phase = .closing ∨ y.connection.phase = .closed)
      ∧ ∃ more, y.writer.handed = x.writer.handed ++ more ∧ more.length ≤ 1
        ∧ ∀ frame ∈ more, (∃ nextPing, x.writer.stage = .handing frame nextPing)
          ∨ (∃ nextPing, x.writer.stage = .selecting nextPing)
            ∧ (frame = .ping ∨ frame = .close ∧ y.writer.binaries = y.queue.log) := by
  have hfirst : ∀ action ∈ before, action.isOrderly = true := fun a ha =>
    horderly a (List.mem_append_left _ ha)
  have hsecond : ∀ action ∈ after, action.isOrderly = true := fun a ha =>
    horderly a (List.mem_append_right _ ha)
  have hws : s.Wired := (wired_start settings).run hfirst hbefore
  have hwt : t.Wired := hws.run hsecond hafter
  obtain ⟨v, hview, rfl⟩ := hws.exists_view_of_scene? hx
  obtain ⟨w, hview', rfl⟩ := hwt.exists_view_of_scene? hy
  have hv : v.Sound p := sound_of_run settings hfirst hbefore hview
  have hw : w.Sound p :=
    sound_of_run settings horderly (by rw [run?_append, hbefore]; exact hafter) hview'
  have hend : w.Discards v.pump.writer :=
    hws.run_sound (fun _ u => u.Discards v.pump.writer) hsecond hafter hview hv
      ⟨Or.inl hclosing, Or.inl ⟨rfl, fun _ hf => hf⟩⟩
      (fun _ _ _ _ _ hu hd hstep => hd.step hu hstep) hview'
  refine ⟨hend.phase, ?_⟩
  rcases hend.more with ⟨hnone, -⟩ | ⟨frame, hframe, hone, -⟩
  · exact ⟨[], by rw [List.append_nil]; exact hnone, Nat.zero_le _, nofun⟩
  · refine ⟨[frame], hone, Nat.le_refl _, ?_⟩
    intro other hother
    obtain rfl := List.mem_singleton.1 hother
    cases hstage : v.pump.writer.stage with
    | handing stood nextPing =>
        rw [hstage] at hframe
        cases hframe
        exact Or.inl ⟨nextPing, hstage⟩
    | selecting nextPing =>
        refine Or.inr ⟨⟨nextPing, hstage⟩, ?_⟩
        rw [hstage] at hframe
        cases hframe with
        | ping => exact Or.inl rfl
        | close =>
            have hmem : .close ∈ w.scene.writer.handed := by
              rw [show w.scene.writer.handed = v.pump.writer.handed ++ [.close] from hone]
              simp
            exact Or.inr ⟨rfl, (hw.finishing.closed hmem).2.2.1⟩
    | _ =>
        rw [hstage] at hframe
        cases hframe

/-- A writer that holds the first of two messages when the reader closes discards both. -/
theorem handed_while_holding :
    let settings : Settings :=
      { route := .orderEntry, queueCapacity := 4, writeWait := 10, pongWait := 60, pingPeriod := 50,
        pollBatch := 8, idleBackoff := { nanos := 1 } }
    let before : List Action :=
      [.connect none, .enter 0, .serve, .read 0 .proceed, .write 0 .proceed, .write 0 .proceed,
        .request (.broadcast [1]), .request (.broadcast [2]), .serve, .serve, .write 0 .dequeue,
        .read 0 (.receive .finished), .read 0 .proceed]
    let after : List Action := [.write 0 .proceed, .write 0 .proceed]
    ∃ s t x y, run? before (start settings) = some s ∧ run? after s = some t
      ∧ s.scene? 0 = some x ∧ t.scene? 0 = some y ∧ x.connection.phase = .closing
      ∧ y.queue.log = [[1], [2]] ∧ y.writer.stage = .done ∧ y.writer.handed = [] := by
  intro settings before after
  let s := (run? before (start settings)).get (by decide +kernel)
  let t := (run? after s).get (by decide +kernel)
  let x := (s.scene? 0).get (by decide +kernel)
  let y := (t.scene? 0).get (by decide +kernel)
  have hs : run? before (start settings) = some s := (Option.some_get _).symm
  have ht : run? after s = some t := (Option.some_get _).symm
  have hx : s.scene? 0 = some x := (Option.some_get _).symm
  have hy : t.scene? 0 = some y := (Option.some_get _).symm
  have hphase : x.connection.phase = .closing := by decide +kernel
  have hstage : x.writer.stage = .holding [1] 50 := by decide +kernel
  obtain ⟨-, more, hmore, -, hframes⟩ :=
    handed_while_closing settings before after s t 0 x y (by decide) hs ht hx hy hphase
  refine ⟨s, t, x, y, hs, ht, hx, hy, hphase, by decide +kernel, by decide +kernel, ?_⟩
  -- the writer was neither waiting nor about to hand a frame over
  obtain rfl : more = [] := by
    rw [List.eq_nil_iff_forall_not_mem]
    intro frame hframe
    rcases hframes frame hframe with ⟨nextPing, hold⟩ | ⟨⟨nextPing, hold⟩, -⟩ <;>
      cases hstage.symm.trans hold
  rw [hmore, List.append_nil]
  decide +kernel

/-- A writer that waits when the reader closes, and that finds its queue finished before it is
woken, hands over a Close frame. -/
theorem close_handed_while_closing :
    let settings : Settings :=
      { route := .orderEntry, queueCapacity := 4, writeWait := 10, pongWait := 60, pingPeriod := 50,
        pollBatch := 8, idleBackoff := { nanos := 1 } }
    let before : List Action :=
      [.connect none, .enter 0, .serve, .read 0 .proceed, .write 0 .proceed, .write 0 .proceed,
        .read 0 (.receive .finished), .read 0 .proceed]
    let after : List Action :=
      [.read 0 .proceed, .read 0 .proceed, .read 0 .proceed, .serve, .write 0 .dequeue,
        .write 0 .proceed]
    ∃ s t x y, run? before (start settings) = some s ∧ run? after s = some t
      ∧ s.scene? 0 = some x ∧ t.scene? 0 = some y
      ∧ x.connection.phase = .closing ∧ x.writer = ⟨.selecting 50, []⟩
      ∧ y.connection.phase = .closing ∧ y.connection.closingPermit = true
      ∧ y.writer.handed = [.close] := by
  intro settings before after
  exact ⟨_, _, _, _, rfl, rfl, rfl, rfl, rfl, rfl, rfl, rfl, rfl⟩

end System

/-! ## Whether the reader closes at all -/

namespace Reader

/-- What holds of a reader and the phase of its connection from its first attempt to close it on, if
the hub does not register it meanwhile. -/
structure Claims (stage : Stage) (phase : Phase) : Prop where
  leaving : stage.isLeaving = true
  /-- Between the attempts the connection is not registered, or the first one would have worked. -/
  between : ∀ reason, stage = .claimingEarly reason → phase ≠ .registered
  tried : stage.hasTried = true → phase ≠ .connecting ∧ phase ≠ .registered

section Claims

variable {settings : Settings} {now : Nat} {stage stage' : Stage} {phase : Phase}
  {c c' : Connection}

/-- Nobody brings a connection back to where its reader was heard. -/
lemma Claims.of_leads (hc : Claims stage c.phase) (hleads : c.phase.Leads phase)
    (hregistered : c.phase ≠ .registered → phase ≠ .registered) : Claims stage phase where
  leaving := hc.leaving
  between reason hstage := hregistered (hc.between reason hstage)
  tried htried :=
    (hc.tried htried).imp (fun hne heq => hne (hleads.of_connecting heq)) hregistered

/-- A reader makes one attempt after the other, and goes on when one has worked. -/
lemma Claims.turn (hc : Claims stage c.phase) (h : Turn settings now stage c stage' c') :
    Claims stage' c'.phase := by
  obtain ⟨hleaving, hbetween, htried⟩ := hc
  cases h with
  | claim =>
      simp only [Connection.phase_exchange, Connection.stands, decide_eq_true_iff]
      split_ifs with hphase
      · exact ⟨rfl, nofun, fun _ => ⟨nofun, nofun⟩⟩
      · exact ⟨rfl, fun _ _ => hphase, nofun⟩
  | @claimEarly _ reason =>
      simp only [Connection.phase_exchange, Connection.stands, decide_eq_true_iff]
      split_ifs with hphase
      · exact ⟨rfl, nofun, fun _ => ⟨nofun, nofun⟩⟩
      · exact ⟨rfl, nofun, fun _ => ⟨hphase, hbetween reason rfl⟩⟩
  | wake | report => exact ⟨rfl, nofun, fun _ => htried rfl⟩
  | _ => exact Bool.noConfusion hleaving

/-- A reader that is done with closing the connection does not begin again. -/
lemma Turn.isPastClosing (h : Turn settings now stage c stage' c')
    (hpast : stage.isPastClosing = true) : stage'.isPastClosing = true := by
  cases h with
  | report => rfl
  | _ => exact Bool.noConfusion hpast

end Claims

end Reader

namespace Seat

variable {p : Nat} {v : Seat}

lemma phase_remove_ne (hne : v.connection.phase ≠ .registered) :
    v.remove.connection.phase ≠ .registered := by
  unfold remove
  split_ifs
  · rwa [Connection.beginDraining, Connection.exchange_of_ne hne]
  · exact hne

/-- No other command registers the connection of a pump. -/
lemma phase_apply_ne {command : Command} (hne : v.connection.phase ≠ .registered)
    (hcommand : command ≠ .register ⟨p, p⟩) :
    (v.apply p command).connection.phase ≠ .registered := by
  cases command with
  | register r =>
      have hr : r ≠ ⟨p, p⟩ := fun heq => hcommand (heq ▸ rfl)
      rw [apply, if_neg hr]
      exact hne
  | unregister id =>
      simp only [apply]
      split_ifs
      · exact phase_remove_ne hne
      · exact hne
  | broadcast payload =>
      simp only [apply, receive]
      split_ifs
      · exact phase_remove_ne hne
      · exact hne
      · exact hne
  | count ticket => exact hne

end Seat

namespace View

section Step

variable {settings : Settings} {now p : Nat} {label : Option Command} {v v' : View}

/-- A connection is registered by the command that says so. -/
lemma Step.phase_ne_registered (h : View.Step settings now p label v v')
    (hlabel : label ≠ some (.register ⟨p, p⟩)) (hne : v.seat.connection.phase ≠ .registered) :
    v'.seat.connection.phase ≠ .registered := by
  cases h with
  | idle | send | lose => exact hne
  | act hact =>
      intro hphase
      cases hact with
      | refused | leave => cases hphase
      | turn hturn => exact hne (hturn.of_phase hphase Phase.noConfusion)
      | write hturn => exact hne (hturn.frame.2.1.symm.trans hphase)
      | _ => exact hne hphase
  | serve => exact Seat.phase_apply_ne hne fun heq => hlabel (congrArg some heq)
  | stop => exact Seat.phase_remove_ne hne

/-- A reader that has begun to leave stays where it is, asks the hub to remove the connection, or
makes a turn. -/
lemma Sound.reader_cases (hv : v.Sound p) (h : View.Step settings now p label v v')
    (hleaving : v.pump.reader.stage.isLeaving = true) :
    v'.pump.reader = v.pump.reader
      ∨ (∃ reason, v.pump.reader.stage = .leaving reason ∧ v'.pump.reader.stage = .done reason)
      ∨ Reader.Turn settings now v.pump.reader.stage v.seat.connection v'.pump.reader.stage
        v'.seat.connection := by
  cases h with
  | act hact =>
      cases hact with
      | enter hstage =>
          rw [hv.kept.idle (waits_of_stage hstage)] at hleaving
          exact Bool.noConfusion hleaving
      | turn hturn => exact Or.inr (Or.inr hturn)
      | relay hstage | relayRefused hstage =>
          rw [hstage] at hleaving
          exact Bool.noConfusion hleaving
      | part hstage | partRefused hstage => exact Or.inr (Or.inl ⟨_, hstage, rfl⟩)
      | _ => exact Or.inl rfl
  | _ => exact Or.inl rfl

/-- **The attempts of a reader are not in vain**, as long as the hub does not register the
connection between them. -/
theorem Sound.claims_step (hv : v.Sound p) (h : View.Step settings now p label v v')
    (hlabel : label ≠ some (.register ⟨p, p⟩))
    (hc : Reader.Claims v.pump.reader.stage v.seat.connection.phase) :
    Reader.Claims v'.pump.reader.stage v'.seat.connection.phase := by
  rcases hv.reader_cases h hc.leaving with heq | ⟨reason, hstage, hstage'⟩ | hturn
  · rw [heq]
    exact hc.of_leads h.leads (h.phase_ne_registered hlabel)
  · rw [hstage] at hc
    rw [hstage']
    have hdone : Reader.Claims (.done reason) v.seat.connection.phase :=
      ⟨rfl, nofun, fun _ => hc.tried rfl⟩
    exact hdone.of_leads h.leads (h.phase_ne_registered hlabel)
  · exact hc.turn hturn

/-- A reader that is done with closing the connection does not begin again. -/
lemma Sound.past_step (hv : v.Sound p) (h : View.Step settings now p label v v')
    (hpast : v.pump.reader.stage.isPastClosing = true) :
    v'.pump.reader.stage.isPastClosing = true := by
  rcases hv.reader_cases h (Reader.Stage.isLeaving_of_isPastClosing hpast) with
    heq | ⟨reason, -, hstage'⟩ | hturn
  · rwa [heq]
  · rw [hstage']
    rfl
  · exact hturn.isPastClosing hpast

/-- The hub has removed the connection, or the reader has closed it. -/
lemma Sound.phase_of_claims (hv : v.Sound p)
    (hc : Reader.Claims v.pump.reader.stage v.seat.connection.phase)
    (hpast : v.pump.reader.stage.isPastClosing = true)
    (hopen : v.seat.registered = true ∨ v.seat.connection.phase ≠ .draining) :
    v.seat.connection.phase = .closing ∨ v.seat.connection.phase = .closed := by
  obtain ⟨hconnecting, hregistered⟩ := hc.tried (Reader.Stage.hasTried_of_isPastClosing hpast)
  cases hphase : v.seat.connection.phase with
  | connecting => exact absurd hphase hconnecting
  | registered => exact absurd hphase hregistered
  | draining =>
      have hgone := hv.kept.registered_of_gone (hv.coherent.draining hphase)
      rcases hopen with hin | hne
      · exact Bool.noConfusion (hin.symm.trans hgone)
      · exact absurd hphase hne
  | closing => exact Or.inl rfl
  | closed => exact Or.inr rfl

/-- The writer of a connection that its reader has closed is woken, or out of its loop. -/
lemma Sound.woken (hv : v.Sound p) (hpast : v.pump.reader.stage.isPastClosing = true)
    (hphase : v.seat.connection.phase = .closing ∨ v.seat.connection.phase = .closed) :
    v.seat.connection.closingPermit = true ∨ v.pump.writer.stage.isOver = true := by
  rcases hphase with hclosing | hclosed
  · exact hv.coherent.woken hclosing hpast
  · rcases hv.coherent.returned (hv.coherent.closed hclosed) with ⟨-, hdone⟩ | ⟨hidle, -⟩
    · rw [hdone]
      exact Or.inr rfl
    · rw [hidle] at hpast
      exact Bool.noConfusion hpast

end Step

end View

namespace System

/-- **Who closes first wins.**  Take any run of a gateway in which registering is left to the pumps,
and a reader that tries to close its connection in the middle of it, up to the point where it is
done with that.  If the hub has not registered the connection meanwhile, and has not removed it
before, then the connection closes or is closed from then on, so it never drains, and its writer is
woken or is out of its loop. -/
theorem closing_of_claim (settings : Settings) (before mid after : List Action) (s u t : System)
    (p : Nat) (old pump : Pump) (x y : Writer.Scene) (reason : Fault)
    (horderly : ∀ action ∈ before ++ mid ++ after, action.isOrderly = true)
    (hbefore : run? before (start settings) = some s) (hmid : run? mid s = some u)
    (hafter : run? after u = some t) (hold : s.pumps[p]? = some old)
    (hclaiming : old.reader.stage = .claiming reason) (hpump : u.pumps[p]? = some pump)
    (hpast : pump.reader.stage.isPastClosing = true)
    (hmissed : .register ⟨old.connection, old.queue⟩ ∉ served mid s)
    (hx : u.scene? p = some x) (hy : t.scene? p = some y)
    (hopen : u.hub.isRegistered x.connection.id = true ∨ x.connection.phase ≠ .draining) :
    (y.connection.phase = .closing ∨ y.connection.phase = .closed)
      ∧ (y.connection.closingPermit = true ∨ y.writer.stage.isOver = true) := by
  have hfirst : ∀ action ∈ before, action.isOrderly = true := fun a ha =>
    horderly a (List.mem_append_left _ (List.mem_append_left _ ha))
  have hsecond : ∀ action ∈ mid, action.isOrderly = true := fun a ha =>
    horderly a (List.mem_append_left _ (List.mem_append_right _ ha))
  have hthird : ∀ action ∈ after, action.isOrderly = true := fun a ha =>
    horderly a (List.mem_append_right _ ha)
  have hws : s.Wired := (wired_start settings).run hfirst hbefore
  have hwu : u.Wired := hws.run hsecond hmid
  obtain ⟨v, hview, rfl⟩ := hws.exists_view hold
  obtain ⟨w, hviewu, rfl⟩ := hwu.exists_view_of_scene? hx
  obtain ⟨z, hviewt, rfl⟩ := (hwu.run hthird hafter).exists_view_of_scene? hy
  obtain ⟨-, hconnection, hqueue, -⟩ := hws.parts hview
  obtain ⟨hpump', -, -, hc, -, hcid, hregistered, -⟩ := hwu.parts hviewu
  obtain rfl := Option.some.inj (hpump.symm.trans hpump')
  rw [hconnection, hqueue] at hmissed
  have hv : v.Sound p := sound_of_run settings hfirst hbefore hview
  have hw : w.Sound p := sound_of_run settings (fun a ha => horderly a (List.mem_append_left _ ha))
    (by rw [run?_append, hbefore]; exact hmid) hviewu
  have hclaims : Reader.Claims v.pump.reader.stage v.seat.connection.phase := by
    rw [hclaiming]
    exact ⟨rfl, nofun, nofun⟩
  have hclaimed : Reader.Claims w.pump.reader.stage w.seat.connection.phase := by
    refine hws.run_sound (fun past x => .register ⟨p, p⟩ ∉ past →
      Reader.Claims x.pump.reader.stage x.seat.connection.phase) hsecond hmid hview hv
      (fun _ => hclaims) ?_ hviewu hmissed
    intro past now label x x' hx hkept hstep hnone
    rw [List.mem_append, not_or, Option.mem_toList] at hnone
    exact hx.claims_step hstep hnone.2 (hkept hnone.1)
  have hphase : w.seat.connection.phase = .closing ∨ w.seat.connection.phase = .closed := by
    refine hw.phase_of_claims hclaimed hpast (hopen.imp_left fun hin => ?_)
    rw [hregistered, ← hcid]
    exact hin
  have hend : (z.seat.connection.phase = .closing ∨ z.seat.connection.phase = .closed)
      ∧ z.pump.reader.stage.isPastClosing = true ∧ z.Sound p := by
    refine hwu.run_sound (fun _ x => (x.seat.connection.phase = .closing
      ∨ x.seat.connection.phase = .closed) ∧ x.pump.reader.stage.isPastClosing = true ∧ x.Sound p)
      hthird hafter hviewu hw ⟨hphase, hpast, hw⟩ ?_ hviewt
    intro _ _ _ x x' hx hkept hstep
    exact ⟨hstep.leads.of_closing hkept.1, hx.past_step hstep hkept.2.1, hx.step hstep⟩
  exact ⟨hend.1, hend.2.2.woken hend.2.1 hend.1⟩

/-- A reader whose connection is registered between its two attempts closes nothing and wakes
nobody.  The connection stays registered until the hub removes it, and then it drains. -/
theorem draining_after_claim :
    let settings : Settings :=
      { route := .orderEntry, queueCapacity := 4, writeWait := 10, pongWait := 60, pingPeriod := 50,
        pollBatch := 8, idleBackoff := { nanos := 1 } }
    let before : List Action :=
      [.connect none, .enter 0, .read 0 .proceed, .read 0 (.receive .finished)]
    let mid : List Action := [.read 0 .proceed, .serve, .read 0 .proceed]
    let after : List Action := [.read 0 .proceed, .read 0 .proceed, .serve]
    ∃ s u t old pump x y, run? before (start settings) = some s ∧ run? mid s = some u
      ∧ run? after u = some t ∧ s.pumps[0]? = some old
      ∧ old.reader.stage = .claiming .connectionClosed ∧ u.pumps[0]? = some pump
      ∧ pump.reader.stage = .reporting .connectionClosed ∧ u.hub.isRegistered 1 = true
      ∧ u.scene? 0 = some x ∧ x.connection.phase = .registered
      ∧ x.connection.closingPermit = false ∧ t.scene? 0 = some y
      ∧ y.connection.phase = .draining := by
  intro settings before mid after
  exact ⟨_, _, _, _, _, _, _, rfl, rfl, rfl, rfl, rfl, rfl, rfl, rfl, rfl, rfl, rfl, rfl, rfl⟩

end System

end MarketGate
