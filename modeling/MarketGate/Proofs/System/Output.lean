import MarketGate.Proofs.System.Sends

/-!
# What a client is handed, and how it ends

The writer of a client hands over the messages in its queue in their order.  Its Close frame comes
last, after all messages that were ever put into the queue, and after a send that broke off there is
nothing more.  A client that the hub removes while it is registered drains: whatever its reader does
then, the writer goes on until everything is handed over or a send breaks off.

* `View.Reasoned` says why a writer is out of its loop: it has closed, or the reader closes the
  connection.
* `View.Drained` is the same for a connection that drains, which no reader can close any more.
* **`View.Reasoned.step`** and **`View.Drained.step`**: a step that does not break a send off keeps
  them.
* **`handed_of_run`**: what a writer hands over in any run.
-/

namespace MarketGate

namespace View

/-- Why a writer is out of its loop, if no send has broken off. -/
def Reasoned (v : View) : Prop :=
  v.pump.writer.stage.isOver = true → .close ∈ v.pump.writer.handed
    ∨ v.seat.connection.phase = .closing ∨ v.seat.connection.phase = .closed

/-- A client that drains: no reader closes it any more, and the writer has to find its own end. -/
structure Draining (v : View) : Prop where
  phase : v.seat.connection.phase = .draining ∨ v.seat.connection.phase = .closed
  permit : v.seat.connection.closingPermit = false
  sender : v.seat.queue.hasSender = false
  started : v.pump.writer.stage ≠ .idle

/-- If no send breaks off, that end is a Close frame. -/
structure Drained (v : View) : Prop extends v.Draining where
  closed : v.pump.writer.stage.isOver = true → .close ∈ v.pump.writer.handed

section Step

variable {settings : Settings} {now p : Nat} {label : Option Command} {v v' : View}

/-- Why a writer leaves its loop in a step that does not break a send off. -/
lemma Sound.isOver_cases (hv : v.Sound p) (h : View.Step settings now p label v v')
    (hfault : v'.pump.writer.stage.fault? ≠ none → v'.pump.writer = v.pump.writer)
    (hover : v'.pump.writer.stage.isOver = true) :
    v.pump.writer.stage.isOver = true ∧ v'.pump.writer.handed = v.pump.writer.handed
      ∨ v.seat.connection.phase = .closing ∨ v.seat.connection.closingPermit = true
      ∨ .close ∈ v'.pump.writer.handed := by
  rcases h.writer_cases with heq | ⟨-, heq⟩ | hturn
  · rw [heq] at hover ⊢
    exact Or.inl ⟨hover, rfl⟩
  · rw [heq] at hover
    exact Bool.noConfusion hover
  · rcases hturn.isOver_cases hover with hold | hclosing | hpermit | ⟨deadline, nextPing, hstage⟩ |
      hbroken
    · exact Or.inl ⟨hold, (hturn.of_isOver hold).2⟩
    · exact Or.inr (Or.inl (of_decide_eq_true hclosing))
    · exact Or.inr (Or.inr (Or.inl hpermit))
    · have hmem := hv.finishing.flushing deadline nextPing hstage
      rcases hturn.handed_cases with hsame | ⟨frame, nextPing', hstage', -⟩
      · exact Or.inr (Or.inr (Or.inr (hsame ▸ hmem)))
      · cases hstage.symm.trans hstage'
    · have heq := hfault hbroken
      rw [heq] at hover ⊢
      exact Or.inl ⟨hover, rfl⟩

/-- **A writer leaves its loop for a reason.** -/
theorem Reasoned.step (hr : v.Reasoned) (hv : v.Sound p) (h : View.Step settings now p label v v')
    (hfault : v'.pump.writer.stage.fault? ≠ none → v'.pump.writer = v.pump.writer) :
    v'.Reasoned := by
  intro hover
  have hleads := h.leads
  rcases hv.isOver_cases h hfault hover with ⟨hold, hsame⟩ | hphase | hpermit | hmem
  · rw [hsame]
    exact (hr hold).imp_right hleads.of_closing
  · exact Or.inr (hleads.of_closing (Or.inl hphase))
  · exact Or.inr (hleads.of_closing (hv.coherent.permit hpermit))
  · exact Or.inl hmem

/-- A client that drains goes on draining. -/
lemma Draining.step (hd : v.Draining) (hv : v.Sound p) (h : View.Step settings now p label v v') :
    v'.Draining where
  phase := h.leads.of_draining hd.phase
  permit := by
    rw [← Bool.not_eq_true]
    intro hpermit
    rcases h.permit_cases hpermit with hold | ⟨reason, hstage⟩
    · exact Bool.noConfusion (hd.permit.symm.trans hold)
    · have hclosing := hv.coherent.waking reason hstage
      rcases hd.phase with hphase | hphase <;> cases hclosing.symm.trans hphase
  sender := h.sender_gone hd.sender
  started := h.started hd.started

/-- **Who drains closes**: no reader takes the writer out of its loop. -/
theorem Drained.step (hd : v.Drained) (hv : v.Sound p) (h : View.Step settings now p label v v')
    (hfault : v'.pump.writer.stage.fault? ≠ none → v'.pump.writer = v.pump.writer) :
    v'.Drained where
  toDraining := hd.toDraining.step hv h
  closed hover := by
    rcases hv.isOver_cases h hfault hover with ⟨hold, hsame⟩ | hphase | hpermit | hmem
    · rw [hsame]
      exact hd.closed hold
    · rcases hd.phase with hold | hold <;> cases hphase.symm.trans hold
    · exact Bool.noConfusion (hd.permit.symm.trans hpermit)
    · exact hmem

/-- A registered client is at work, or its connection is closed. -/
lemma Sound.running_of_registered (hv : v.Sound p) (hregistered : v.seat.registered = true)
    (hphase : v.seat.connection.phase = .registered) : v.pump.stage = .running := by
  have hbalanced := hv.kept.sender
  have hle := Bool.toNat_le v.seat.queue.hasSender
  rw [Seat.Balanced, abroad, hregistered, Bool.toNat_true] at hbalanced
  cases hstage : v.pump.stage with
  | registering =>
      have hwaits := waits_of_stage hstage
      rw [hwaits, Bool.toNat_true] at hbalanced
      omega
  | running => rfl
  | returned => cases hphase.symm.trans (hv.kept.closed hstage)

/-- **Who is removed while it is registered drains**, unless the hub is lost. -/
theorem Sound.draining_of_removed (hv : v.Sound p) (h : View.Step settings now p label v v')
    (hphase : v.seat.connection.phase = .registered) (hregistered : v.seat.registered = true)
    (hremoved : v'.seat.registered = false) (hloop : v'.loop ≠ .lost) :
    v'.seat.connection.phase = .draining ∧ v'.Draining := by
  have hrunning := hv.running_of_registered hregistered hphase
  have hpermit : v.seat.connection.closingPermit = false := by
    rw [← Bool.not_eq_true]
    intro hpermit
    rcases hv.coherent.permit hpermit with hclosing | hclosed
    · cases hphase.symm.trans hclosing
    · cases hphase.symm.trans hclosed
  have removed {v' : View} (hpump : v'.pump = v.pump) (hseat : v'.seat = v.seat.remove) :
      v'.seat.connection.phase = .draining ∧ v'.Draining := by
    have hdrained : v'.seat.connection.phase = .draining := by
      simp [hseat, Seat.remove, hregistered, Connection.beginDraining, Connection.phase_exchange,
        hphase]
    refine ⟨hdrained, Or.inl hdrained, ?_, ?_, ?_⟩
    · rw [hseat, v.seat.handles_remove.closingPermit]
      exact hpermit
    · rw [hseat, Seat.remove, if_pos hregistered]
      rfl
    · rw [hpump]
      exact (hv.coherent.running hrunning).2
  cases h with
  | idle | send => exact Bool.noConfusion (hregistered.symm.trans hremoved)
  | act hact =>
      rw [hact.frame.2.2.2.1] at hremoved
      exact Bool.noConfusion (hregistered.symm.trans hremoved)
  | serve => exact removed rfl (Seat.apply_eq_remove hregistered hremoved)
  | stop => exact removed rfl rfl
  | lose => exact absurd rfl hloop

/-- A writer that is out of its loop stays out of it, and hands nothing over. -/
lemma Sound.over_step (hv : v.Sound p) (h : View.Step settings now p label v v')
    (hover : v.pump.writer.stage.isOver = true) :
    v'.pump.writer.stage.isOver = true ∧ v'.pump.writer.handed = v.pump.writer.handed := by
  rcases h.writer_cases with heq | ⟨hwaits, -⟩ | hturn
  · rw [heq]
    exact ⟨hover, rfl⟩
  · obtain ⟨past, hsent⟩ := hv.sent
    rw [hsent.idle hwaits] at hover
    exact Bool.noConfusion hover
  · exact hturn.of_isOver hover

end Step

end View

namespace System

section Run

variable {s t : System} {actions : List Action} {p : Nat} {v w : View}

lemma Wired.over_run (hw : s.Wired) (horderly : ∀ action ∈ actions, action.isOrderly = true)
    (hrun : run? actions s = some t) (hview : s.view? p = some v) (hv : v.Sound p)
    (hover : v.pump.writer.stage.isOver = true) (hview' : t.view? p = some w) :
    w.pump.writer.handed = v.pump.writer.handed := by
  refine (hw.run_sound (fun _ x => x.pump.writer.stage.isOver = true
    ∧ x.pump.writer.handed = v.pump.writer.handed) horderly hrun hview hv ⟨hover, rfl⟩ ?_ hview').2
  intro _ _ _ x x' hx hkept hstep
  obtain ⟨hover', hsame⟩ := hx.over_step hstep hkept.1
  exact ⟨hover', hsame.trans hkept.2⟩

lemma Wired.draining_run (hw : s.Wired) (horderly : ∀ action ∈ actions, action.isOrderly = true)
    (hrun : run? actions s = some t) (hview : s.view? p = some v) (hv : v.Sound p)
    (hd : v.Draining) (hview' : t.view? p = some w) : w.Draining :=
  hw.run_sound (fun _ x => x.Draining) horderly hrun hview hv hd
    (fun _ _ _ _ _ hx hd hstep => hd.step hx hstep) hview'

/-- A writer leaves its loop for a reason in a run in which no send breaks off. -/
lemma reasoned_of_run (settings : Settings)
    (horderly : ∀ action ∈ actions, action.isOrderly = true)
    (hwhole : ∀ action ∈ actions, action.breaksSend p = false)
    (hrun : run? actions (start settings) = some t) (hview : t.view? p = some v) :
    v.Reasoned := by
  refine (wired_start settings).run_states (fun _ v => v.Reasoned) ?_ ?_ horderly hrun ?_ hview
  · intro _ _ v hnew hover
    rw [hnew.pump] at hover
    exact Bool.noConfusion hover
  · intro action hmem s s' v v' hpass hview hview' hv hstep hr
    exact hr.step hv hstep ((hpass.goes hview hview').eq_of_fault (hwhole action hmem))
  · intro v hv
    rw [view?_start] at hv
    cases hv

/-- Who drains closes in a run in which no send breaks off. -/
lemma Wired.drained_run (hw : s.Wired) (horderly : ∀ action ∈ actions, action.isOrderly = true)
    (hwhole : ∀ action ∈ actions, action.breaksSend p = false)
    (hrun : run? actions s = some t) (hview : s.view? p = some v) (hv : v.Sound p)
    (hd : v.Drained) (hview' : t.view? p = some w) : w.Drained := by
  refine hw.run_states (fun _ v => v.Drained) ?_ ?_ horderly hrun ?_ hview'
  · intro hnone
    rw [hview] at hnone
    cases hnone
  · intro action hmem s s' v v' hpass hview hview' hv hstep hd
    exact hd.step hv hstep ((hpass.goes hview hview').eq_of_fault (hwhole action hmem))
  · intro u hu
    obtain rfl := Option.some.inj (hview.symm.trans hu)
    exact ⟨hv, hd⟩

/-- The writer of a client that drains leaves its loop with a Close frame, or a send breaks off. -/
lemma closed_or_broken_of_run (settings : Settings) {earlier later : List Action}
    (horderly : ∀ a ∈ earlier ++ later, a.isOrderly = true)
    (hearlier : run? earlier (start settings) = some s) (hlater : run? later s = some t)
    (hview : s.view? p = some v) (hphase : v.seat.connection.phase = .draining)
    (hd : v.Draining) (hview' : t.view? p = some w)
    (hover : w.pump.writer.stage.isOver = true) :
    .close ∈ w.pump.writer.handed ∨ ∃ a ∈ earlier ++ later, a.breaksSend p = true := by
  by_cases hbroken : ∃ a ∈ earlier ++ later, a.breaksSend p = true
  · exact Or.inr hbroken
  · have hwhole : ∀ a ∈ earlier ++ later, a.breaksSend p = false := by
      intro a ha
      rw [← Bool.not_eq_true]
      exact fun hbreaks => hbroken ⟨a, ha, hbreaks⟩
    have hfirst : ∀ a ∈ earlier, a.isOrderly = true := fun a ha =>
      horderly a (List.mem_append_left _ ha)
    have hreasoned : v.Reasoned := reasoned_of_run settings hfirst
      (fun a ha => hwhole a (List.mem_append_left _ ha)) hearlier hview
    have hclosed : v.pump.writer.stage.isOver = true → .close ∈ v.pump.writer.handed := by
      intro hold
      rcases hreasoned hold with hmem | hclosing | hclosed
      · exact hmem
      · cases hphase.symm.trans hclosing
      · cases hphase.symm.trans hclosed
    have hend : w.Drained := ((wired_start settings).run hfirst hearlier).drained_run
      (fun a ha => horderly a (List.mem_append_right _ ha))
      (fun a ha => hwhole a (List.mem_append_right _ ha)) hlater hview
      (sound_of_run settings hfirst hearlier hview) ⟨hd, hclosed⟩ hview'
    exact Or.inl (hend.closed hover)

/-- Only a client that is there makes moves. -/
lemma exists_pump_of_writerMove? {action : Action} {s' : System} {move : Writer.Move}
    (hmove : action.writerMove? p = some move) (hstep : s.step? action = some s') :
    ∃ pump, s.pumps[p]? = some pump := by
  cases action with
  | write k m =>
      simp only [Action.writerMove?] at hmove
      split_ifs at hmove with hk
      subst hk
      simp only [step?, write?, Option.bind_eq_bind, Option.bind_eq_some_iff] at hstep
      obtain ⟨pump, hpump, -⟩ := hstep
      exact ⟨pump, hpump⟩
  | _ => cases hmove

end Run

/-- **What a writer hands over.**  Take any run of a gateway in which registering is left to the
pumps, any step of it and any client that is there after the step.

The messages in the binary frames that the client was handed in the end are the beginning of what
was ever put into its queue.  A Close frame among its frames is the last and only one, and then they
hold everything that was ever put into the queue.  If the step is the end of a send to the client
that failed or took too long, then nothing was handed over after it.

If the client's connection was registered before the step, and the hub removed it in the step, then
it drains from then on until it is closed.  As long as the writer is in its loop it has a move to
make and nothing is missing; and it leaves the loop either with a Close frame, or because a send to
the client has broken off. -/
theorem handed_of_run (settings : Settings) (before after : List Action) (action : Action)
    (s u t : System) (p : Nat) (x y : Writer.Scene)
    (horderly : ∀ a ∈ before ++ action :: after, a.isOrderly = true)
    (hbefore : run? before (start settings) = some s) (hstep : s.step? action = some u)
    (hafter : run? after u = some t) (hx : u.scene? p = some x) (hy : t.scene? p = some y) :
    y.writer.binaries <+: y.queue.log
      ∧ (.close ∈ y.writer.handed → y.writer.binaries = y.queue.log
        ∧ ∃ earlier, y.writer.handed = earlier ++ [.close] ∧ .close ∉ earlier)
      ∧ (action.breaksSend p = true → y.writer.handed = x.writer.handed)
      ∧ (∀ old, s.scene? p = some old → old.connection.phase = .registered →
        s.hub.isRegistered old.connection.id = true →
        u.hub.isRegistered old.connection.id = false → u.loop ≠ .lost →
        x.connection.phase = .draining
          ∧ (y.connection.phase = .draining ∨ y.connection.phase = .closed)
          ∧ (y.writer.stage.isOver = false →
            (∃ move, (t.step? (.write p move)).isSome = true)
              ∧ y.writer.binaries ++ y.writer.stage.inHand ++ y.queue.pending = y.queue.log)
          ∧ (y.writer.stage.isOver = true → .close ∈ y.writer.handed
            ∨ ∃ a ∈ before ++ action :: after, a.breaksSend p = true)) := by
  have hfirst : ∀ a ∈ before, a.isOrderly = true := fun a ha =>
    horderly a (List.mem_append_left _ ha)
  have hact : action.isOrderly = true :=
    horderly action (List.mem_append_right _ List.mem_cons_self)
  have hsecond : ∀ a ∈ after, a.isOrderly = true := fun a ha =>
    horderly a (List.mem_append_right _ (List.mem_cons_of_mem _ ha))
  have hmiddle : ∀ a ∈ before ++ [action], a.isOrderly = true := by
    rw [List.append_cons] at horderly
    exact fun a ha => horderly a (List.mem_append_left _ ha)
  have hrunu : run? (before ++ [action]) (start settings) = some u := by
    simp [run?_append, hbefore, run?, hstep]
  have hrunt : run? (before ++ action :: after) (start settings) = some t := by
    simp [run?_append, hbefore, run?, hstep, hafter]
  have hws : s.Wired := (wired_start settings).run hfirst hbefore
  have hwu : u.Wired := (wired_start settings).run hmiddle hrunu
  have hwt : t.Wired := hwu.run hsecond hafter
  obtain ⟨v, hview, rfl⟩ := hwu.exists_view_of_scene? hx
  obtain ⟨w, hview', rfl⟩ := hwt.exists_view_of_scene? hy
  have hv : v.Sound p := sound_of_run settings hmiddle hrunu hview
  have hw : w.Sound p := sound_of_run settings horderly hrunt hview'
  refine ⟨hw.faithful.handed.trans (List.take_prefix _ _), ?_, ?_, ?_⟩
  · intro hmem
    obtain ⟨-, -, hall, hlast⟩ := hw.finishing.closed hmem
    exact ⟨hall, hlast⟩
  · intro hbreaks
    obtain ⟨move, hmove⟩ : ∃ move, action.writerMove? p = some move := by
      rw [← Option.isSome_iff_exists]
      exact Option.isSome_of_any hbreaks
    obtain ⟨pump, hpump⟩ := exists_pump_of_writerMove? hmove hstep
    obtain ⟨old, hold, -⟩ := hws.exists_view hpump
    obtain ⟨hover, -⟩ := ((passes_step? hstep p).goes hold hview).of_breaks hbreaks
    exact hwu.over_run hsecond hafter hview hv hover hview'
  · intro x hx hphase hregistered hremoved hloop
    obtain ⟨old, hold, rfl⟩ := hws.exists_view_of_scene? hx
    obtain ⟨-, -, -, -, -, hcid, hin, -⟩ := hws.parts hold
    obtain ⟨-, -, -, -, -, -, hout, -, hgone⟩ := hwu.parts hview
    have hcid : old.scene.connection.id = p + 1 := hcid
    rw [hcid] at hregistered hremoved
    obtain ⟨v₁, hview₁, hviewstep⟩ := hws.step_view (hws.course hact hstep) hold
    obtain rfl := Option.some.inj (hview₁.symm.trans hview)
    have holds : old.Sound p := sound_of_run settings hfirst hbefore hold
    obtain ⟨hdrained, hdraining⟩ := holds.draining_of_removed hviewstep hphase
      (hin.trans hregistered) (hout.trans hremoved) (hgone ▸ hloop)
    have hend : w.Draining := hwu.draining_run hsecond hafter hview hv hdraining hview'
    refine ⟨hdrained, hend.phase, ?_, ?_⟩
    · intro hgoes
      have hdone : w.scene.writer.stage ≠ .done := fun heq => by
        rw [heq] at hgoes
        exact Bool.noConfusion hgoes
      obtain ⟨move, hmove⟩ := Writer.exists_move t.settings.pingPeriod t.settings.writeWait t.now
        hend.started hdone hend.sender
      refine ⟨⟨move, hwt.isSome_write hview' hmove⟩, ?_⟩
      rw [hw.faithful.held hgoes, Queue.received_append_pending]
    · intro hover
      rw [List.append_cons before action after] at horderly ⊢
      exact closed_or_broken_of_run settings horderly hrunu hafter hview hdrained hdraining hview'
        hover

/-- A client whose queue is full is removed, and is still handed what is in the queue, although it
goes away itself before that. -/
theorem handed_of_evicted_client :
    let settings : Settings :=
      { route := .orderEntry, queueCapacity := 1, writeWait := 10, pongWait := 60, pingPeriod := 50,
        pollBatch := 8, idleBackoff := { nanos := 1 } }
    let before : List Action :=
      [.connect none, .enter 0, .serve, .read 0 .proceed, .write 0 .proceed, .write 0 .proceed,
        .request (.broadcast [1]), .serve, .request (.broadcast [2])]
    let after : List Action :=
      [.read 0 (.receive .finished), .read 0 .proceed, .read 0 .proceed, .read 0 .proceed,
        .read 0 .proceed, .write 0 .dequeue, .write 0 .proceed, .write 0 .proceed, .write 0 .sent,
        .write 0 .proceed, .write 0 .dequeue, .write 0 .proceed, .write 0 .sent]
    ∃ s u t x y, run? before (start settings) = some s ∧ s.step? .serve = some u
      ∧ run? after u = some t ∧ u.scene? 0 = some x ∧ t.scene? 0 = some y
      ∧ x.connection.phase = .draining ∧ x.writer.handed = []
      ∧ y.writer.handed = [.binary [1], .close] ∧ y.writer.binaries = y.queue.log
      ∧ y.writer.stage.isOver = true := by
  intro settings before after
  let s := (run? before (start settings)).get (by decide +kernel)
  let u := (s.step? .serve).get (by decide +kernel)
  let t := (run? after u).get (by decide +kernel)
  let x := (u.scene? 0).get (by decide +kernel)
  let y := (t.scene? 0).get (by decide +kernel)
  have hs : run? before (start settings) = some s := (Option.some_get _).symm
  have hu : s.step? .serve = some u := (Option.some_get _).symm
  have ht : run? after u = some t := (Option.some_get _).symm
  have hx : u.scene? 0 = some x := (Option.some_get _).symm
  have hy : t.scene? 0 = some y := (Option.some_get _).symm
  obtain ⟨-, hclose, -, hdrain⟩ :=
    handed_of_run settings before after .serve s u t 0 x y (by decide) hs hu ht hx hy
  obtain ⟨hdrains, -⟩ := hdrain ((s.scene? 0).get (by decide +kernel)) (Option.some_get _).symm
    (by decide +kernel) (by decide +kernel) (by decide +kernel) (by decide +kernel)
  exact ⟨s, u, t, x, y, hs, hu, ht, hx, hy, hdrains, by decide +kernel, by decide +kernel,
    (hclose (by decide +kernel)).1, by decide +kernel⟩

end System

end MarketGate
