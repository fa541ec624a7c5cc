import MarketGate.Proofs.System.Lifecycle
import MarketGate.Proofs.System.Sides

/-!
# Sends that break off, and how long they take

What a client sees of a gateway does not tell by which move its writer went on, nor what time it is.
Two properties need that: a writer stops with a fault only at a send that broke off, and a send has
no more time left than a send is allowed.  So here the steps of a gateway are looked at once more,
for what each action does to the clock and to the writers.

* `Writer.Goes` says how a writer goes on: it stays as it is, it is started, or it makes a move.
* `System.Passes` says what a step does.  **`passes_step?`**: the clock does not go back, and the
  writer of a client goes on by the move that the action makes.
* `Action.breaksSend` are the actions at which a send of a client breaks off.
* **`Wired.run_states`** is induction over a run with the actions and the clock in sight.
* **`deadline_of_run`**: how much time is left for a send.
-/

namespace MarketGate

/-- The move that an action makes for the writer of the client at a position. -/
def Action.writerMove? (p : Nat) : Action → Option Writer.Move
  | .write k move => if k = p then some move else none
  | _ => none

/-- Whether a send of the client at a position breaks off at an action. -/
def Action.breaksSend (p : Nat) (action : Action) : Bool :=
  (action.writerMove? p).any Writer.Move.breaks

/-- How a writer goes on at a time, without a move or by one. -/
inductive Writer.Goes (settings : Settings) (now : Nat) :
    Option Writer.Move → Writer → Writer → Prop
  | stays {w : Writer} : Goes settings now none w w
  | start {w : Writer} : Goes settings now none w { w with stage := .starting }
  | move {move : Writer.Move} {x y : Writer.Scene}
      (hmove : Writer.step? settings.pingPeriod settings.writeWait now move x = some y) :
      Goes settings now (some move) x.writer y.writer

namespace Writer.Goes

variable {settings : Settings} {now : Nat} {move? : Option Writer.Move} {w w' : Writer}

/-- Who does not break a send off finds no new fault. -/
lemma eq_of_fault (h : Goes settings now move? w w')
    (hbreaks : move?.any Writer.Move.breaks = false) (hfault : w'.stage.fault? ≠ none) :
    w' = w := by
  cases h with
  | stays => rfl
  | start => exact absurd rfl hfault
  | move hmove => exact absurd (Writer.fault?_of_not_breaks hmove hbreaks) hfault

/-- Who breaks a send off leaves the loop, and hands nothing over. -/
lemma of_breaks (h : Goes settings now move? w w')
    (hbreaks : move?.any Writer.Move.breaks = true) :
    w'.stage.isOver = true ∧ w'.handed = w.handed := by
  cases h with
  | stays | start => exact Bool.noConfusion hbreaks
  | move hmove => exact Writer.of_breaks hmove hbreaks

/-- A send that goes on has its deadline from before, or from now on. -/
lemma deadline_le (h : Goes settings now move? w w') {frame : Outgoing} {deadline nextPing : Nat}
    (hstage' : w'.stage = .flushing frame deadline nextPing)
    (hw : ∀ frame deadline nextPing, w.stage = .flushing frame deadline nextPing →
      deadline ≤ now + settings.writeWait) :
    deadline ≤ now + settings.writeWait := by
  cases h with
  | stays => exact hw _ _ _ hstage'
  | start => cases hstage'
  | move hmove =>
      cases Writer.Turn.of_step? hmove with
      | hand hstage =>
          cases hstage'
          exact Nat.le_refl _
      | check | look =>
          simp only [Writer.Scene.moveTo] at hstage'
          split_ifs at hstage'
      | _ => cases hstage'

end Writer.Goes

namespace System

/-- The clock, the settings and the writers of all clients are as they were. -/
structure Aside (s s' : System) : Prop where
  now : s'.now = s.now
  settings : s'.settings = s.settings
  writers : s'.pumps.map Pump.writer = s.pumps.map Pump.writer

section Step

variable {s s' : System}

lemma Aside.of_pumps (hnow : s'.now = s.now) (hsettings : s'.settings = s.settings)
    (hpumps : s'.pumps = s.pumps) : s.Aside s' :=
  ⟨hnow, hsettings, by rw [hpumps]⟩

lemma aside_send? {command : Command} {taken : Bool} (h : s.send? command = some (taken, s')) :
    s'.now = s.now ∧ s'.settings = s.settings ∧ s'.pumps = s.pumps := by
  rcases send?_eq_some h with ⟨-, -, -, rfl⟩ | ⟨-, -, rfl⟩ <;> exact ⟨rfl, rfl, rfl⟩

lemma map_writer_modify (p : Nat) (f : Pump → Pump) (pumps : List Pump)
    (hf : ∀ pump, (f pump).writer = pump.writer) :
    (pumps.modify p f).map Pump.writer = pumps.map Pump.writer := by
  apply List.ext_getElem?
  intro i
  rw [List.getElem?_map, List.getElem?_map, List.getElem?_modify]
  split_ifs <;> cases pumps[i]? <;> simp [hf]

/-- What is at a position after one element has been changed. -/
lemma modify_cases {α : Type} {l : List α} {k p : Nat} {f : α → α} {a b : α} (ha : l[p]? = some a)
    (hb : (l.modify k f)[p]? = some b) : k = p ∧ b = f a ∨ k ≠ p ∧ b = a := by
  rw [List.getElem?_modify, ha, Option.map_eq_map, Option.map_some] at hb
  split_ifs at hb with hk
  · exact Or.inl ⟨hk, (Option.some.inj hb).symm⟩
  · exact Or.inr ⟨hk, (Option.some.inj hb).symm⟩

/-- A reader leaves the clock and the writers alone. -/
lemma aside_read? {p : Nat} {move : Reader.Move} (h : s.read? p move = some s') : s.Aside s' := by
  -- the reader of the pump goes on to another stage
  have goes {s₁ : System} (stage : Reader.Stage) (hnow : s₁.now = s.now)
      (hsettings : s₁.settings = s.settings)
      (hpumps : s₁.pumps = s.pumps.modify p fun pump => { pump with reader := ⟨stage⟩ }) :
      s.Aside s₁ :=
    ⟨hnow, hsettings, by rw [hpumps]; exact map_writer_modify p _ _ fun _ => rfl⟩
  simp only [read?, Option.bind_eq_bind, Option.bind_eq_some_iff] at h
  obtain ⟨pump, hpump, conn, hconn, h⟩ := h
  split at h
  · cases h
    exact goes _ rfl rfl rfl
  · split_ifs at h <;> cases h
    · exact goes _ rfl rfl rfl
    · exact goes _ rfl rfl rfl
  · split_ifs at h
    cases h
    exact goes _ rfl rfl rfl
  · split_ifs at h
    cases h
    exact goes _ rfl rfl rfl
  · obtain ⟨⟨taken, s₁⟩, hsend, h⟩ := Option.bind_eq_some_iff.1 h
    obtain ⟨hnow, hsettings, hpumps⟩ := aside_send? hsend
    cases h
    exact goes _ hnow hsettings (congrArg _ hpumps)
  · cases h
    obtain ⟨outcomes, malformed, forwarder, notices, heq⟩ := publishOrder_eq conn.id ‹Bytes› s
    rw [heq]
    exact goes _ rfl rfl rfl
  · cases h
    exact goes _ rfl rfl rfl
  · cases h
    exact goes _ rfl rfl rfl
  · cases h
    exact goes _ rfl rfl rfl
  · cases h
    exact goes _ rfl rfl rfl
  · obtain ⟨⟨taken, s₁⟩, hsend, h⟩ := Option.bind_eq_some_iff.1 h
    obtain ⟨hnow, hsettings, hpumps⟩ := aside_send? hsend
    cases h
    cases taken <;> exact goes _ hnow hsettings (congrArg _ hpumps)
  · cases h

/-- The bridge does not wind the clock. -/
lemma now_bridgeStep? (h : s.bridgeStep? = some s') : s'.now = s.now := by
  obtain ⟨bridge, subscription, fragments, feedConnected, mailbox, notices, rfl, -⟩ :=
    bridgeStep?_eq h
  rfl

lemma Aside.writer_eq (h : s.Aside s') {p : Nat} {pump pump' : Pump}
    (hpump : s.pumps[p]? = some pump) (hpump' : s'.pumps[p]? = some pump') :
    pump'.writer = pump.writer := by
  have heq := congrArg (fun writers => writers[p]?) h.writers
  simpa [hpump, hpump'] using heq

lemma aside_leave? {p : Nat} (h : s.leave? p = some s') : s.Aside s' := by
  simp only [leave?, Option.bind_eq_bind, Option.bind_eq_some_iff] at h
  obtain ⟨pump, hpump, h⟩ := h
  split_ifs at h
  cases h
  exact ⟨rfl, rfl, map_writer_modify p _ _ fun _ => rfl⟩

/-- What a step does to the clock and to the writer of a client. -/
structure Passes (action : Action) (p : Nat) (s s' : System) : Prop where
  now : s.now ≤ s'.now
  settings : s'.settings = s.settings
  writer : ∀ pump pump', s.pumps[p]? = some pump → s'.pumps[p]? = some pump' →
    Writer.Goes s.settings s.now (action.writerMove? p) pump.writer pump'.writer

lemma Aside.passes (h : s.Aside s') {action : Action} {p : Nat}
    (hnone : action.writerMove? p = none) : s.Passes action p s' where
  now := h.now.ge
  settings := h.settings
  writer pump pump' hpump hpump' := by
    rw [hnone, h.writer_eq hpump hpump']
    exact .stays

/-- **The clock does not go back, and only the moves of a writer move it on.** -/
theorem passes_step? {action : Action} (h : s.step? action = some s') (p : Nat) :
    s.Passes action p s' := by
  cases action with
  | advance nanos =>
      cases h
      refine ⟨Nat.le_add_right _ _, rfl, ?_⟩
      intro pump pump' hpump hpump'
      obtain rfl := Option.some.inj (hpump.symm.trans hpump')
      exact .stays
  | connect peer =>
      simp only [step?] at h
      split_ifs at h
      cases h
      refine ⟨Nat.le_refl _, rfl, ?_⟩
      intro pump pump' hpump hpump'
      obtain ⟨hlt, -⟩ := List.getElem?_eq_some_iff.1 hpump
      have hold : (s.connect peer).pumps[p]? = s.pumps[p]? := List.getElem?_append_left hlt
      obtain rfl := Option.some.inj (hpump.symm.trans (hold.symm.trans hpump'))
      exact .stays
  | request command =>
      simp only [step?] at h
      split_ifs at h
      obtain ⟨⟨taken, s₁⟩, hsend, rfl⟩ := Option.map_eq_some_iff.1 h
      obtain ⟨hnow, hsettings, hpumps⟩ := aside_send? hsend
      exact (Aside.of_pumps hnow hsettings hpumps).passes rfl
  | detach | inject fragment | loseFeed | setConnected value | setBackPressured value | drain =>
      cases h
      exact Aside.passes (by constructor <;> rfl) rfl
  | loseHub =>
      cases h
      refine (Aside.of_pumps ?_ ?_ ?_).passes rfl <;> (unfold loseHub; split <;> rfl)
  | serve =>
      simp only [step?, serve?] at h
      split at h
      · cases h
        exact Aside.passes (by constructor <;> rfl) rfl
      · cases h
  | stopHub =>
      simp only [step?, stopHub?] at h
      split_ifs at h
      cases h
      exact Aside.passes (by constructor <;> rfl) rfl
  | enter k =>
      simp only [step?, enter?, Option.bind_eq_bind, Option.bind_eq_some_iff] at h
      obtain ⟨pump₁, hpump₁, conn, hconn, h⟩ := h
      split_ifs at h with hstage
      obtain ⟨⟨taken, s₁⟩, hsend, h⟩ := Option.bind_eq_some_iff.1 h
      obtain ⟨hnow, hsettings, hpumps⟩ := aside_send? hsend
      have hnow : s.now ≤ s₁.now := hnow.ge
      cases taken with
      | false =>
          cases h
          refine ⟨hnow, hsettings, ?_⟩
          intro pump pump' hpump hpump'
          rcases modify_cases (hpumps ▸ hpump) hpump' with ⟨-, rfl⟩ | ⟨-, rfl⟩ <;> exact .stays
      | true =>
          cases h
          refine ⟨hnow, hsettings, ?_⟩
          intro pump pump' hpump hpump'
          rcases modify_cases (hpumps ▸ hpump) hpump' with ⟨-, rfl⟩ | ⟨-, rfl⟩
          · exact .start
          · exact .stays
  | leave k => exact (aside_leave? h).passes rfl
  | read k move => exact (aside_read? h).passes rfl
  | write k move =>
      simp only [step?, write?, Option.bind_eq_bind, Option.bind_eq_some_iff] at h
      obtain ⟨pump₁, hpump₁, conn, -, queue, -, after, hwrite, h⟩ := h
      cases h
      refine ⟨Nat.le_refl _, rfl, ?_⟩
      intro pump pump' hpump hpump'
      simp only [Action.writerMove?]
      rcases modify_cases hpump hpump' with ⟨rfl, rfl⟩ | ⟨hne, rfl⟩
      · obtain rfl := Option.some.inj (hpump₁.symm.trans hpump)
        rw [if_pos rfl]
        exact .move hwrite
      · rw [if_neg hne]
        exact .stays
  | newBridge =>
      simp only [step?] at h
      split_ifs at h
      cases h
      exact Aside.passes (by constructor <;> rfl) rfl
  | pollOnce | runBridge =>
      simp only [step?, startBridge?] at h
      split at h
      · cases h
        exact Aside.passes (by constructor <;> rfl) rfl
      · cases h
  | bridge =>
      obtain ⟨counted, sent, hbridged⟩ := of_bridgeStep? h
      exact (Aside.of_pumps (now_bridgeStep? h) hbridged.settings hbridged.pumps).passes rfl

/-- What a step does to the writer of a client, as its tasks see it. -/
lemma Passes.goes {action : Action} {p : Nat} {v v' : View} (h : s.Passes action p s')
    (hview : s.view? p = some v) (hview' : s'.view? p = some v') :
    Writer.Goes s.settings s.now (action.writerMove? p) v.pump.writer v'.pump.writer :=
  h.writer _ _ (view?_eq_some_iff.1 hview).1 (view?_eq_some_iff.1 hview').1

end Step

section Run

variable {s t : System} {actions : List Action} {p : Nat} {v : View}

/-- What is possible for a writer by itself is possible in its gateway. -/
lemma Wired.isSome_write (hw : s.Wired) (hview : s.view? p = some v) {move : Writer.Move}
    (hmove : (Writer.step? s.settings.pingPeriod s.settings.writeWait s.now move
      v.scene).isSome = true) : (s.step? (.write p move)).isSome = true := by
  obtain ⟨hpump, hconnection, hqueue, hc, hq, -⟩ := hw.parts hview
  obtain ⟨after, hafter⟩ := Option.isSome_iff_exists.1 hmove
  have hafter : Writer.step? s.settings.pingPeriod s.settings.writeWait s.now move
      ⟨v.pump.writer, v.seat.queue, v.seat.connection⟩ = some after := hafter
  simp [step?, write?, hpump, hconnection, hqueue, hc, hq, hafter]

/-- Where a view comes from: from the view before, or the client has just connected. -/
lemma Wired.view_cases {s' : System} {action : Action} {v' : View} (hw : s.Wired)
    (horderly : action.isOrderly = true) (hstep : s.step? action = some s')
    (hview' : s'.view? p = some v') :
    (∃ v, s.view? p = some v ∧ View.Step s.settings s.now p (s.servedAt action) v v')
      ∨ s.view? p = none ∧ v'.Fresh p ∧ v'.Sound p := by
  have hcourse := hw.course horderly hstep
  cases hold : s.view? p with
  | some v =>
      obtain ⟨v₁, hv₁, hviewstep⟩ := hw.step_view hcourse hold
      obtain rfl := Option.some.inj (hv₁.symm.trans hview')
      exact Or.inl ⟨v, rfl, hviewstep⟩
  | none =>
      obtain ⟨hnew, hmailbox, hloop, -, rfl⟩ := hcourse.fresh_of_course hw hold hview'
      refine Or.inr ⟨rfl, hnew, hnew.sound ?_ ?_⟩
      · intro c hc
        exact hw.mailbox c (hmailbox ▸ hc)
      · intro hgone
        exact hmailbox.trans (hw.gone (hloop ▸ hgone))

/-- **Induction over a run with its actions and its clock.** -/
theorem Wired.run_states (P : System → View → Prop)
    (hfresh : s.view? p = none → ∀ s v, v.Fresh p → P s v)
    (hkeep : ∀ action ∈ actions, ∀ s s' v v', s.Passes action p s' → s.view? p = some v →
      s'.view? p = some v' → v.Sound p →
      View.Step s.settings s.now p (s.servedAt action) v v' → P s v → P s' v')
    (hw : s.Wired) (horderly : ∀ action ∈ actions, action.isOrderly = true)
    (hrun : run? actions s = some t)
    (hstart : ∀ v, s.view? p = some v → v.Sound p ∧ P s v)
    (hview : t.view? p = some v) : P t v := by
  induction actions generalizing s with
  | nil =>
      obtain rfl := Option.some.inj hrun
      exact (hstart v hview).2
  | cons action actions ih =>
      obtain ⟨s', hstep, hrest⟩ := run?_cons hrun
      have hact := horderly action List.mem_cons_self
      refine ih (fun hnone => hfresh ?_) (fun a ha => hkeep a (List.mem_cons_of_mem _ ha))
        (hw.of_course (hw.course hact hstep)) (fun a ha => horderly a (List.mem_cons_of_mem _ ha))
        hrest ?_
      · by_contra hsome
        obtain ⟨v₀, hold⟩ := Option.ne_none_iff_exists'.1 hsome
        obtain ⟨v₁, hv₁, -⟩ := hw.step_view (hw.course hact hstep) hold
        rw [hnone] at hv₁
        cases hv₁
      · intro v' hview'
        rcases hw.view_cases hact hstep hview' with ⟨v, hold, hviewstep⟩ | ⟨hnone, hnew, hsound⟩
        · obtain ⟨hv, hP⟩ := hstart v hold
          exact ⟨hv.step hviewstep,
            hkeep action List.mem_cons_self s s' v v' (passes_step? hstep p) hold hview' hv
              hviewstep hP⟩
        · exact ⟨hsound, hfresh hnone s' v' hnew⟩

/-- **A send has no more time left than a send is allowed.** -/
theorem deadline_of_run (settings : Settings)
    (horderly : ∀ action ∈ actions, action.isOrderly = true)
    (hrun : run? actions (start settings) = some t) (hview : t.view? p = some v)
    {frame : Outgoing} {deadline nextPing : Nat}
    (hstage : v.pump.writer.stage = .flushing frame deadline nextPing) :
    deadline ≤ t.now + t.settings.writeWait := by
  refine (wired_start settings).run_states
    (fun s v => ∀ frame deadline nextPing, v.pump.writer.stage = .flushing frame deadline nextPing →
      deadline ≤ s.now + s.settings.writeWait) ?_ ?_ horderly hrun ?_ hview frame deadline nextPing
    hstage
  · intro _ s v hnew frame deadline nextPing hstage
    rw [hnew.pump] at hstage
    cases hstage
  · intro action _ s s' v v' hpass hview hview' _ _ hv frame deadline nextPing hstage
    rw [hpass.settings]
    exact ((hpass.goes hview hview').deadline_le hstage hv).trans
      (Nat.add_le_add_right hpass.now _)
  · intro v hv
    rw [view?_start] at hv
    cases hv

end Run

end System

end MarketGate
