import MarketGate.Proofs.System.Sends

/-!
# No client is left half alive

When the reader of a client is done, its writer gets to know, and the other way round.  The reader
wakes the writer if it closes the connection.  If it does not, then the hub has removed the
connection or is going to, because the reader asks for that before it is done, and a writer whose
queue has lost its sender waits for nobody.  The writer leaves a permit for the reader that waits,
and a reader that does not wait goes on anyway.  Neither is stopped by a hub that is lost in the
middle of it.

* `System.WriterFree` and `System.ReaderFree` say that a task waits for nobody else in the gateway.
* **`Wired.sender_gone_of_run`**: when the hub lets go of a client whose reader is done.
* `View.Step.closed_cases`: when a connection is closed.
* **`free_of_partner_done`**: each task is free once the other one is done, at the latest when the
  hub has dealt with its mailbox, and the pump closes the connection when both are done.
-/

namespace MarketGate

/-- Whether a move is the reader's own, and not one of the socket. -/
def Reader.Move.isOwn : Reader.Move → Bool
  | .receive _ => false
  | _ => true

namespace System

/-- The writer of a client waits for nobody else in the gateway: it is done, or it can go on by
itself, or it is in the middle of a send, which breaks off when the time for a send is over. -/
def WriterFree (p : Nat) (s : System) : Prop :=
  (∃ pump, s.pumps[p]? = some pump ∧ pump.writer.stage = .done)
    ∨ (∃ move : Writer.Move, move.isOwn = true ∧ (s.step? (.write p move)).isSome = true)
    ∨ ∃ nanos ≤ s.settings.writeWait, (run? [.advance nanos, .write p .expire] s).isSome = true

/-- The reader of a client waits for nobody else in the gateway: it is done, or it can go on by
itself. -/
def ReaderFree (p : Nat) (s : System) : Prop :=
  (∃ pump, s.pumps[p]? = some pump ∧ pump.reader.isDone = true)
    ∨ ∃ move : Reader.Move, move.isOwn = true ∧ (s.step? (.read p move)).isSome = true

end System

namespace View

section Step

variable {settings : Settings} {now p n : Nat} {label : Option Command} {v v' : View}

/-- Reader and writer of a client are started together. -/
lemma Sound.idle_iff (hv : v.Sound p) :
    v.pump.reader.stage = .idle ↔ v.pump.writer.stage = .idle := by
  cases hstage : v.pump.stage with
  | registering =>
      have hwaits := waits_of_stage hstage
      obtain ⟨past, hsent⟩ := hv.sent
      rw [hv.kept.idle hwaits, hsent.idle hwaits]
      exact ⟨fun _ => rfl, fun _ => rfl⟩
  | running =>
      obtain ⟨hreader, hwriter⟩ := hv.coherent.running hstage
      exact ⟨fun h => absurd h hreader, fun h => absurd h hwriter⟩
  | returned =>
      rcases hv.coherent.returned hstage with ⟨hdone, hwriter⟩ | ⟨hreader, hwriter, -⟩
      · obtain ⟨reason, hstage⟩ := Reader.stage_of_isDone hdone
        rw [hstage, hwriter]
        exact ⟨nofun, nofun⟩
      · exact ⟨fun _ => hwriter, fun _ => hreader⟩

/-- The writer of a client whose reader is done has been started. -/
lemma Sound.writer_ne_idle (hv : v.Sound p) (hdone : v.pump.reader.isDone = true) :
    v.pump.writer.stage ≠ .idle := by
  intro hidle
  obtain ⟨reason, hstage⟩ := Reader.stage_of_isDone hdone
  cases hstage.symm.trans (hv.idle_iff.2 hidle)

/-- When nothing that the sender waits for is left, it is gone. -/
lemma Parting.sender_gone (h : v.Parting p n) (hnone : n = 0 ∨ v.mailbox = []) :
    v.seat.queue.hasSender = false := by
  rcases h with hgone | ⟨before, after, hmailbox, hlt, -⟩
  · exact hgone
  · rcases hnone with rfl | hnil
    · exact absurd hlt (Nat.not_lt_zero _)
    · rw [hnil] at hmailbox
      exact absurd hmailbox.symm (List.append_ne_nil_of_right_ne_nil _ (List.cons_ne_nil _ _))

/-- A client asks for registration only once. -/
lemma Step.waits_eq (h : View.Step settings now p label v v') (hwaits : v.waits = false) :
    v'.waits = false := by
  cases h with
  | act hact =>
      cases hact with
      | enter | refused | leave => rfl
      | _ => exact hwaits
  | _ => exact hwaits

/-- A connection is closed when its reader and its writer are done, or when it cannot be
registered. -/
lemma Step.closed_cases (h : View.Step settings now p label v v')
    (hclosed : v'.seat.connection.phase = .closed) :
    v.seat.connection.phase = .closed
      ∨ v.pump.stage = .running ∧ v.pump.reader.isDone = true ∧ v.pump.writer.stage = .done
      ∨ v.pump.stage = .registering ∧ v.loop ≠ .running := by
  cases h with
  | act hact =>
      cases hact with
      | refused hstage hloop => exact Or.inr (Or.inr ⟨hstage, hloop⟩)
      | leave hstage hreader hwriter => exact Or.inr (Or.inl ⟨hstage, hreader, hwriter⟩)
      | turn hturn => exact Or.inl (hturn.of_phase hclosed Phase.noConfusion)
      | write hturn => exact Or.inl (hturn.frame.2.1.symm.trans hclosed)
      | _ => exact Or.inl hclosed
  | serve => exact Or.inl ((Seat.handles_apply _ _).of_phase hclosed nofun nofun)
  | stop => exact Or.inl (v.seat.handles_remove.of_phase hclosed nofun nofun)
  | _ => exact Or.inl hclosed

end Step

end View

namespace System

section Run

variable {s t : System} {actions : List Action} {p : Nat} {v w : View}

/-- The hub can deal with all that is in its mailbox. -/
lemma isSome_run?_serve (hloop : s.loop = .running) :
    (run? (List.replicate s.mailbox.length .serve) s).isSome = true := by
  generalize hmailbox : s.mailbox = mailbox
  induction mailbox generalizing s with
  | nil => rfl
  | cons command rest ih =>
      simp only [List.length_cons, List.replicate_succ, run?, step?, serve?, hloop, hmailbox,
        Option.bind_some]
      exact ih rfl rfl

/-- No more requests wait than the mailbox holds. -/
lemma Course.room {label : Option Command} (h : s.Course label t)
    (hs : s.mailbox.length ≤ mailboxCapacity) : t.mailbox.length ≤ mailboxCapacity := by
  cases h with
  | still sent hstill hmailbox hsent =>
      rw [hmailbox, List.length_append]
      rcases hsent with rfl | ⟨c, rfl, -, -, hroom⟩
      · exact hs
      · exact hroom
  | connect peer => exact hs
  | act hview hact hup =>
      obtain ⟨-, -, hmailbox, -⟩ := view?_eq_some_iff.1 hview
      rw [hup.mailbox]
      rcases hact.mailbox_cases with heq | ⟨c, heq, hopen, -⟩
      · rw [heq, ← hmailbox]
        exact hs
      · rw [heq, List.length_append]
        exact hopen.room
  | serve hloop hmailbox =>
      rw [hmailbox] at hs
      exact Nat.le_of_succ_le hs
  | stop => exact hs
  | lose => exact Nat.zero_le _

lemma Wired.room_run (hw : s.Wired) (horderly : ∀ action ∈ actions, action.isOrderly = true)
    (hrun : run? actions s = some t) (hs : s.mailbox.length ≤ mailboxCapacity) :
    t.mailbox.length ≤ mailboxCapacity := by
  induction actions generalizing s with
  | nil =>
      obtain rfl := Option.some.inj hrun
      exact hs
  | cons action actions ih =>
      obtain ⟨s', hstep, hrest⟩ := run?_cons hrun
      have hcourse := hw.course (horderly action List.mem_cons_self) hstep
      exact ih (hw.of_course hcourse) (fun a ha => horderly a (List.mem_cons_of_mem _ ha)) hrest
        (hcourse.room hs)

/-- **The hub lets go of a client whose reader is done**, at the latest when it has dealt with what
was in its mailbox then, or when it is gone. -/
lemma Wired.sender_gone_of_run (hw : s.Wired)
    (horderly : ∀ action ∈ actions, action.isOrderly = true) (hrun : run? actions s = some t)
    (hview : s.view? p = some v) (hv : v.Sound p) (hdone : v.pump.reader.isDone = true)
    (hserved : s.mailbox.length ≤ (served actions s).length ∨ t.loop ≠ .running)
    (hview' : t.view? p = some w) (hkept : w.Kept p) : w.seat.queue.hasSender = false := by
  obtain ⟨-, -, hmailbox, -⟩ := view?_eq_some_iff.1 hview
  obtain ⟨-, -, -, hloop⟩ := view?_eq_some_iff.1 hview'
  have hend : w.Parting p (v.mailbox.length - (served actions s).length) ∧ w.waits = false := by
    refine hw.run_sound (fun past x => x.Parting p (v.mailbox.length - past.length)
      ∧ x.waits = false) horderly hrun hview hv ?_ ?_ hview'
    · exact ⟨hv.kept.parted (Or.inl hdone), hv.kept.not_waits (Or.inl hdone)⟩
    · rintro past now label x x' hx ⟨hparting, hwaits⟩ hstep
      have hnext := hparting.step hx.kept hwaits hstep
      rw [Nat.sub_sub, ← List.length_append] at hnext
      exact ⟨hnext, hstep.waits_eq hwaits⟩
  refine hend.1.sender_gone (hserved.imp (fun hle => ?_) (fun hgone => ?_))
  · exact Nat.sub_eq_zero_of_le (hmailbox ▸ hle)
  · exact (hkept.gone (hloop ▸ hgone)).1

/-- A writer whose queue has lost its sender is free. -/
lemma Wired.writerFree (hw : s.Wired) (hview : s.view? p = some v)
    (hidle : v.pump.writer.stage ≠ .idle) (hsender : v.seat.queue.hasSender = false)
    (hdeadline : ∀ frame deadline nextPing,
      v.pump.writer.stage = .flushing frame deadline nextPing →
        deadline ≤ s.now + s.settings.writeWait) : s.WriterFree p := by
  by_cases hdone : v.pump.writer.stage = .done
  · exact Or.inl ⟨v.pump, (hw.parts hview).1, hdone⟩
  · rcases Writer.own_move_cases s.settings.pingPeriod s.settings.writeWait s.now
      (v := v.scene) hidle hdone with ⟨move, hown, hmove⟩ | ⟨frame, deadline, nextPing, hstage⟩ |
        hin
    · exact Or.inr (Or.inl ⟨move, hown, hw.isSome_write hview hmove⟩)
    · refine Or.inr (Or.inr ⟨deadline - s.now, ?_, ?_⟩)
      · have hle := hdeadline frame deadline nextPing hstage
        omega
      · -- the clock is moved on to the deadline, and nothing else changes
        have hlater : ({ s with now := s.now + (deadline - s.now) } : System).Wired :=
          ⟨hw.hub, hw.nextId, hw.pump, hw.mailbox, hw.gone⟩
        have hdue : deadline ≤ s.now + (deadline - s.now) := by omega
        have hexpire : (Writer.step? s.settings.pingPeriod s.settings.writeWait
            (s.now + (deadline - s.now)) .expire v.scene).isSome = true := by
          have hstage : v.scene.writer.stage = .flushing frame deadline nextPing := hstage
          simp [Writer.step?, hstage, hdue]
        obtain ⟨u, hu⟩ := Option.isSome_iff_exists.1 (hlater.isSome_write hview hexpire)
        simp [run?, step?, show write? p .expire _ = some u from hu]
    · exact Bool.noConfusion (hin.symm.trans hsender)

/-- What is asked of the hub is taken, or refused by a hub that is gone, or there is no room. -/
lemma isSome_send? (command : Command)
    (hroom : s.loop = .running → s.mailbox.length < mailboxCapacity) :
    (s.send? command).isSome = true := by
  unfold send?
  split
  · next hloop => simp [hroom hloop]
  · rfl
  · rfl

/-- The reader of a client whose writer is done is free, if there is room in the mailbox. -/
lemma Wired.readerFree (hw : s.Wired) (hview : s.view? p = some v)
    (hidle : v.pump.reader.stage ≠ .idle)
    (hstopped : v.seat.connection.stoppedPermit = true ∨ v.pump.reader.stage.isLeaving = true)
    (hroom : s.loop = .running → s.mailbox.length < mailboxCapacity) : s.ReaderFree p := by
  obtain ⟨hpump, hconnection, -, hc, -⟩ := hw.parts hview
  rw [← hconnection] at hc
  have asked (command : Command) := Option.isSome_iff_exists.1 (isSome_send? command hroom)
  cases hstage : v.pump.reader.stage with
  | idle => exact absurd hstage hidle
  | done reason => exact Or.inl ⟨v.pump, hpump, by simp [Reader.isDone, hstage]⟩
  | waiting deadline =>
      have hpermit : v.seat.connection.stoppedPermit = true := by
        rw [hstage] at hstopped
        exact hstopped.resolve_right Bool.noConfusion
      exact Or.inr ⟨.hearStopped, rfl, by simp [step?, read?, hpump, hc, hstage, hpermit]⟩
  | relaying data deadline =>
      obtain ⟨taken, htaken⟩ := asked (.broadcast data)
      exact Or.inr ⟨.proceed, rfl, by simp [step?, read?, hpump, hc, hstage, htaken]⟩
  | leaving reason =>
      obtain ⟨taken, htaken⟩ := asked (.unregister v.seat.connection.id)
      exact Or.inr ⟨.proceed, rfl, by simp [step?, read?, hpump, hc, hstage, htaken]⟩
  | _ => exact Or.inr ⟨.proceed, rfl, by simp [step?, read?, hpump, hc, hstage]⟩

/-- If there is no room, there is when the hub has dealt with one request. -/
lemma Wired.readerFree_of_serve (hw : s.Wired) (hview : s.view? p = some v)
    (hidle : v.pump.reader.stage ≠ .idle)
    (hstopped : v.seat.connection.stoppedPermit = true ∨ v.pump.reader.stage.isLeaving = true)
    (hloop : s.loop = .running) (hfull : s.mailbox.length = mailboxCapacity) :
    ∃ u, s.step? .serve = some u ∧ u.ReaderFree p := by
  cases hmailbox : s.mailbox with
  | nil =>
      rw [hmailbox] at hfull
      cases hfull
  | cons command rest =>
      have hserve : (s.step? .serve).isSome = true := by simp [step?, serve?, hloop, hmailbox]
      obtain ⟨u, hu⟩ := Option.isSome_iff_exists.1 hserve
      have horder : Action.serve.isOrderly = true := rfl
      have hcourse := hw.course horder hu
      obtain ⟨w, hview', hstep⟩ := hw.step_view hcourse hview
      obtain ⟨-, -, hmail, -⟩ := view?_eq_some_iff.1 hview'
      rw [servedAt, hmailbox, List.head?_cons] at hstep
      refine ⟨u, hu, ?_⟩
      cases hstep with
      | serve hrun hbefore =>
          refine (hw.of_course hcourse).readerFree hview' hidle ?_ fun _ => ?_
          · rw [(Seat.handles_apply _ _).stoppedPermit]
            exact hstopped
          · obtain ⟨-, -, hmailbox', -⟩ := view?_eq_some_iff.1 hview
            rw [hmailbox', hbefore] at hfull
            rw [hmail, ← hfull]
            exact Nat.lt_succ_self _

/-- A pump whose reader and writer are done closes its connection. -/
lemma Wired.closed_of_leave (hw : s.Wired) (hview : s.view? p = some v)
    (hstage : v.pump.stage = .running) (hreader : v.pump.reader.isDone = true)
    (hwriter : v.pump.writer.stage = .done) :
    ∃ u y, s.step? (.leave p) = some u ∧ u.scene? p = some y ∧ y.connection.phase = .closed := by
  obtain ⟨hpump, hconnection, hqueue, hc, hq, -⟩ := hw.parts hview
  refine ⟨(s.onConnection p Connection.markClosed).onPump p fun pump =>
    { pump with stage := .returned },
    ⟨v.pump.writer, v.seat.queue, v.seat.connection.markClosed⟩, ?_, ?_, rfl⟩
  · simp [step?, leave?, hpump, hconnection, hstage, hreader, hwriter]
  · simp [scene?, onPump, onConnection, onHub, Hub.onConnection, hpump, hconnection, hqueue, hc,
      hq]

end Run

/-- **No client is left half alive.**  Take any run of a gateway in which registering is left to the
pumps, and any client.

If its reader is done, then its writer waits for nobody else in the gateway, or the hub can deal
with all that is in its mailbox; and from when the hub has done so, or is gone, the writer waits for
nobody else, whatever happens meanwhile.  If its writer is done, then its reader waits for nobody
else in the gateway, or the hub's mailbox is full, and the reader waits for nobody else when the hub
has dealt with one request.  When both are done the connection is closed, or the pump can close it.
And no step closes the connection but that one, unless the pump finds the hub gone when it asks for
registration. -/
theorem free_of_partner_done (settings : Settings) (actions : List Action) (s : System) (p : Nat)
    (pump : Pump) (x : Writer.Scene) (horderly : ∀ action ∈ actions, action.isOrderly = true)
    (hrun : run? actions (start settings) = some s) (hpump : s.pumps[p]? = some pump)
    (hx : s.scene? p = some x) :
    (pump.reader.isDone = true →
        (s.WriterFree p
          ∨ s.loop = .running
            ∧ (run? (List.replicate s.mailbox.length .serve) s).isSome = true)
        ∧ ∀ later t, (∀ action ∈ later, action.isOrderly = true) → run? later s = some t →
          s.mailbox.length ≤ (served later s).length ∨ t.loop ≠ .running → t.WriterFree p)
      ∧ (pump.writer.stage = .done → s.ReaderFree p
        ∨ s.loop = .running ∧ s.mailbox.length = mailboxCapacity
          ∧ ∃ u, s.step? .serve = some u ∧ u.ReaderFree p)
      ∧ (pump.reader.isDone = true → pump.writer.stage = .done → x.connection.phase = .closed
        ∨ ∃ u y, s.step? (.leave p) = some u ∧ u.scene? p = some y
          ∧ y.connection.phase = .closed)
      ∧ ∀ action u y, action.isOrderly = true → s.step? action = some u → u.scene? p = some y →
        y.connection.phase = .closed → x.connection.phase = .closed
          ∨ pump.stage = .running ∧ pump.reader.isDone = true ∧ pump.writer.stage = .done
          ∨ pump.stage = .registering ∧ s.loop ≠ .running := by
  have hw : s.Wired := (wired_start settings).run horderly hrun
  obtain ⟨v, hview, rfl⟩ := hw.exists_view_of_scene? hx
  obtain ⟨hpump', -, -, -, -, -, -, -, hloop⟩ := hw.parts hview
  obtain rfl := Option.some.inj (hpump.symm.trans hpump')
  have hv : v.Sound p := sound_of_run settings horderly hrun hview
  refine ⟨?_, ?_, ?_, ?_⟩
  · intro hdone
    have hidle := hv.writer_ne_idle hdone
    refine ⟨?_, ?_⟩
    · by_cases hrunning : s.loop = .running
      · exact Or.inr ⟨hrunning, isSome_run?_serve hrunning⟩
      · have hnone := (hv.kept.parted (Or.inl hdone)).sender_gone
          (Or.inr (hv.kept.gone (hloop ▸ hrunning)).1)
        exact Or.inl (hw.writerFree hview hidle hnone fun _ _ _ hstage =>
          deadline_of_run settings horderly hrun hview hstage)
    · intro later t hlater hrunt hserved
      have hboth : ∀ action ∈ actions ++ later, action.isOrderly = true := fun a ha =>
        (List.mem_append.1 ha).elim (horderly a) (hlater a)
      have hrunt' : run? (actions ++ later) (start settings) = some t := by
        rw [run?_append, hrun]
        exact hrunt
      obtain ⟨w, hview'⟩ := hw.exists_view_run hlater hrunt hview
      have hkept : w.Kept p := kept_of_run settings hboth hrunt' hview'
      have hnone := hw.sender_gone_of_run hlater hrunt hview hv hdone hserved hview' hkept
      have hstarted : w.pump.writer.stage ≠ .idle :=
        hw.run_sound (fun _ x => x.pump.writer.stage ≠ .idle) hlater hrunt hview hv hidle
          (fun _ _ _ _ _ _ hne hstep => hstep.started hne) hview'
      exact (hw.run hlater hrunt).writerFree hview' hstarted hnone fun _ _ _ hstage =>
        deadline_of_run settings hboth hrunt' hview' hstage
  · intro hdone
    have hidle : v.pump.reader.stage ≠ .idle := fun hidle => by
      cases hdone.symm.trans (hv.idle_iff.1 hidle)
    have hstopped := hv.coherent.stopped hdone
    by_cases hroom : s.loop = .running → s.mailbox.length < mailboxCapacity
    · exact Or.inl (hw.readerFree hview hidle hstopped hroom)
    · obtain ⟨hrunning, hfull⟩ := Classical.not_imp.1 hroom
      have hle := (wired_start settings).room_run horderly hrun (Nat.zero_le _)
      have hfull := Nat.le_antisymm hle (Nat.le_of_not_lt hfull)
      exact Or.inr ⟨hrunning, hfull, hw.readerFree_of_serve hview hidle hstopped hrunning hfull⟩
  · intro hreader hwriter
    cases hstage : v.pump.stage with
    | registering =>
        obtain ⟨reason, hdone⟩ := Reader.stage_of_isDone hreader
        cases hdone.symm.trans (hv.kept.idle (View.waits_of_stage hstage))
    | running => exact Or.inr (hw.closed_of_leave hview hstage hreader hwriter)
    | returned => exact Or.inl (hv.kept.closed hstage)
  · intro action u y horder hstep hy hclosed
    have hcourse := hw.course horder hstep
    obtain ⟨w, hview', rfl⟩ := (hw.of_course hcourse).exists_view_of_scene? hy
    obtain ⟨w', hw', hviewstep⟩ := hw.step_view hcourse hview
    obtain rfl := Option.some.inj (hw'.symm.trans hview')
    rw [hloop]
    exact hviewstep.closed_cases hclosed

/-- A reader that could not close its connection wakes nobody, and its writer waits.  When the hub
has removed the connection, the writer is free. -/
theorem free_of_missed_wake :
    let settings : Settings :=
      { route := .orderEntry, queueCapacity := 4, writeWait := 10, pongWait := 60, pingPeriod := 50,
        pollBatch := 8, idleBackoff := { nanos := 1 } }
    let actions : List Action :=
      [.connect none, .enter 0, .read 0 .proceed, .write 0 .proceed, .write 0 .proceed,
        .read 0 (.receive .finished), .read 0 .proceed, .serve, .read 0 .proceed, .read 0 .proceed,
        .read 0 .proceed]
    ∃ s t pump x, run? actions (start settings) = some s ∧ s.pumps[0]? = some pump
      ∧ s.scene? 0 = some x ∧ pump.reader.isDone = true ∧ x.writer.stage = .selecting 50
      ∧ x.queue.hasSender = true ∧ x.connection.closingPermit = false
      ∧ s.mailbox = [.unregister 1] ∧ run? [.serve] s = some t ∧ t.WriterFree 0 := by
  intro settings actions
  let s := (run? actions (start settings)).get (by decide +kernel)
  let t := (run? [.serve] s).get (by decide +kernel)
  let pump := (s.pumps[0]?).get (by decide +kernel)
  let x := (s.scene? 0).get (by decide +kernel)
  have hs : run? actions (start settings) = some s := (Option.some_get _).symm
  have ht : run? [.serve] s = some t := (Option.some_get _).symm
  have hpump : s.pumps[0]? = some pump := (Option.some_get _).symm
  have hx : s.scene? 0 = some x := (Option.some_get _).symm
  have hdone : pump.reader.isDone = true := by decide +kernel
  obtain ⟨hreader, -⟩ := free_of_partner_done settings actions s 0 pump x (by decide) hs hpump hx
  obtain ⟨-, hlater⟩ := hreader hdone
  have hfree : t.WriterFree 0 := hlater [.serve] t (by decide) ht (Or.inl (by decide +kernel))
  exact ⟨s, t, pump, x, hs, hpump, hx, hdone, by decide +kernel, by decide +kernel,
    by decide +kernel, by decide +kernel, ht, hfree⟩

end System

end MarketGate
