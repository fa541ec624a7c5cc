import MarketGate.Proofs.System.Step

/-!
# Runs of a gateway as views see them

A client connects in the middle of a run, and from then on its view takes part in every step.  So
what holds of the view of a client that has just connected, and is kept by the steps of views, holds
of the client's view in the end (**`Wired.run_view`**).  What is claimed of a view may speak of the
commands that the hub has served so far.

* `View.Fresh` is the view of a client that has just connected.
* **`Wired.run`**: runs leave a gateway wired.
-/

namespace MarketGate

/-- The view of a client that has just connected. -/
structure View.Fresh (p : Nat) (v : View) : Prop where
  pump : v.pump = { connection := p, queue := p }
  registered : v.seat.registered = false
  connection : ∃ peer connectedAt, v.seat.connection = { id := p + 1, peer, connectedAt }
  queue : ∃ capacity, v.seat.queue = { capacity }

namespace System

section Course

variable {s s' : System} {label : Option Command} (h : s.Course label s')

include h

lemma Course.settings_eq : s'.settings = s.settings := by
  cases h with
  | still sent hstill => exact hstill.settings
  | act hview hact hup => exact hup.settings
  | _ => rfl

/-- Pumps do not go away. -/
lemma Course.length_pumps_le : s.pumps.length ≤ s'.pumps.length := by
  cases h with
  | still sent hstill => rw [hstill.pumps]
  | connect peer => simp
  | act hview hact hup => rw [hup.pumps, List.length_set]
  | _ => exact Nat.le_refl _

/-- A hub that is gone does not come back. -/
lemma Course.running (hloop : s'.loop = .running) : s.loop = .running := by
  cases h with
  | still sent hstill => rwa [hstill.loop] at hloop
  | act hview hact hup => rwa [hup.loop] at hloop
  | serve hrun | stop hrun | lose hrun => exact hrun
  | connect peer => exact hloop

/-- What the hub serves was in the mailbox. -/
lemma Course.mem_of_label {c : Command} (hc : c ∈ label) : c ∈ s.mailbox := by
  cases h with
  | serve hloop hmailbox =>
      obtain rfl := Option.mem_some.1 hc
      rw [hmailbox]
      exact List.mem_cons_self
  | _ => exact absurd hc (by simp)

/-- A view that was not there before is that of a client that has just connected. -/
lemma Course.fresh_of_course (hw : s.Wired) {p : Nat} {v : View} (hnone : s.view? p = none)
    (hview : s'.view? p = some v) :
    v.Fresh p ∧ v.mailbox = s.mailbox ∧ v.loop = s.loop ∧ label = none ∧ p = s.pumps.length := by
  obtain ⟨hpump, hseat, hmailbox, hloop⟩ := view?_eq_some_iff.1 hview
  have hge : s.pumps.length ≤ p := by
    refine Nat.le_of_not_lt ?_
    intro hlt
    obtain ⟨u, hu, -⟩ := hw.exists_view (List.getElem?_eq_getElem hlt)
    rw [hnone] at hu
    cases hu
  obtain ⟨hlt', -⟩ := List.getElem?_eq_some_iff.1 hpump
  cases h with
  | still sent hstill =>
      rw [hstill.pumps] at hlt'
      exact absurd hlt' (Nat.not_lt.2 hge)
  | connect peer =>
      rw [List.length_append, List.length_singleton] at hlt'
      obtain rfl : p = s.pumps.length := Nat.le_antisymm (Nat.lt_succ_iff.1 hlt') hge
      rw [List.getElem?_append_right (Nat.le_refl _), Nat.sub_self] at hpump
      obtain ⟨pump, seat, mailbox, loop⟩ := v
      obtain rfl := Option.some.inj hpump
      obtain rfl := Option.some.inj ((hw.hub.seat?_enroll _ _).symm.trans hseat)
      exact ⟨⟨rfl, rfl, ⟨peer, s.now, by rw [hw.nextId]⟩, ⟨_, rfl⟩⟩, hmailbox.symm, hloop.symm, rfl,
        rfl⟩
  | act hview' hact hup =>
      rw [hup.pumps, List.length_set] at hlt'
      exact absurd hlt' (Nat.not_lt.2 hge)
  | serve | stop | lose => exact absurd hlt' (Nat.not_lt.2 hge)

end Course

section Run

variable {s t : System} {actions : List Action}

/-- A run that makes a step, and then the rest. -/
lemma run?_cons {action : Action} (h : run? (action :: actions) s = some t) :
    ∃ s', s.step? action = some s' ∧ run? actions s' = some t :=
  Option.bind_eq_some_iff.1 h

lemma served_cons {s' : System} {action : Action} (h : s.step? action = some s') :
    served (action :: actions) s = (s.servedAt action).toList ++ served actions s' := by
  rw [served, h]

/-- **Runs leave a gateway wired.** -/
theorem Wired.run (hw : s.Wired) (horderly : ∀ action ∈ actions, action.isOrderly = true)
    (hrun : run? actions s = some t) : t.Wired := by
  induction actions generalizing s with
  | nil =>
      obtain rfl := Option.some.inj hrun
      exact hw
  | cons action actions ih =>
      obtain ⟨s', hstep, hrest⟩ := run?_cons hrun
      have hcourse := hw.course (horderly action List.mem_cons_self) hstep
      exact ih (hw.of_course hcourse) (fun a ha => horderly a (List.mem_cons_of_mem _ ha)) hrest

/-- A hub that is there in the end was there all along. -/
lemma Wired.running_run (hw : s.Wired) (horderly : ∀ action ∈ actions, action.isOrderly = true)
    (hrun : run? actions s = some t) (hloop : t.loop = .running) : s.loop = .running := by
  induction actions generalizing s with
  | nil =>
      obtain rfl := Option.some.inj hrun
      exact hloop
  | cons action actions ih =>
      obtain ⟨s', hstep, hrest⟩ := run?_cons hrun
      have hcourse := hw.course (horderly action List.mem_cons_self) hstep
      exact hcourse.running
        (ih (hw.of_course hcourse) (fun a ha => horderly a (List.mem_cons_of_mem _ ha)) hrest)

/-- Who has connected has a view from then on. -/
lemma Wired.exists_view_run {p : Nat} {v : View} (hw : s.Wired)
    (horderly : ∀ action ∈ actions, action.isOrderly = true) (hrun : run? actions s = some t)
    (hview : s.view? p = some v) : ∃ v', t.view? p = some v' := by
  induction actions generalizing s v with
  | nil =>
      obtain rfl := Option.some.inj hrun
      exact ⟨v, hview⟩
  | cons action actions ih =>
      obtain ⟨s', hstep, hrest⟩ := run?_cons hrun
      have hcourse := hw.course (horderly action List.mem_cons_self) hstep
      obtain ⟨v', hview', -⟩ := hw.step_view hcourse hview
      exact ih (hw.of_course hcourse) (fun a ha => horderly a (List.mem_cons_of_mem _ ha)) hrest
        hview'

/-- To begin with there are no views. -/
lemma view?_start (settings : Settings) (p : Nat) : (start settings).view? p = none := by
  simp [view?, start]

/-- **Induction over what a client sees.**  What holds of a client that has just connected, and is
kept by the steps of views, holds of every client after every run. -/
theorem Wired.run_view {p : Nat} (P : List Command → View → Prop) (past : List Command)
    (hfresh : s.view? p = none → ∀ past v, v.Fresh p → (∀ c ∈ past ++ v.mailbox, c.Fits p) →
      (v.loop ≠ .running → v.mailbox = []) → P past v)
    (hkeep : ∀ past now label v v', P past v → View.Step s.settings now p label v v' →
      P (past ++ label.toList) v')
    (hw : s.Wired) (horderly : ∀ action ∈ actions, action.isOrderly = true)
    (hrun : run? actions s = some t)
    (hpast : ∀ c ∈ past, c.Fits s.pumps.length) (hstart : ∀ v, s.view? p = some v → P past v)
    {v : View} (hview : t.view? p = some v) : P (past ++ served actions s) v := by
  induction actions generalizing s past with
  | nil =>
      obtain rfl := Option.some.inj hrun
      rw [served, List.append_nil]
      exact hstart v hview
  | cons action actions ih =>
      obtain ⟨s', hstep, hrest⟩ := run?_cons hrun
      have hcourse := hw.course (horderly action List.mem_cons_self) hstep
      rw [served_cons hstep, ← List.append_assoc]
      refine ih _ (fun hnone => hfresh ?_) (by rwa [hcourse.settings_eq]) (hw.of_course hcourse)
        (fun a ha => horderly a (List.mem_cons_of_mem _ ha)) hrest ?_ ?_
      · by_contra hsome
        obtain ⟨v₀, hold⟩ := Option.ne_none_iff_exists'.1 hsome
        obtain ⟨v₁, hv₁, -⟩ := hw.step_view hcourse hold
        rw [hnone] at hv₁
        cases hv₁
      · intro c hc
        rcases List.mem_append.1 hc with hold | hnew
        · exact (hpast c hold).mono hcourse.length_pumps_le
        · have hmem := hcourse.mem_of_label (Option.mem_toList.1 hnew)
          exact (hw.mailbox c hmem).mono hcourse.length_pumps_le
      · intro u hu
        cases hold : s.view? p with
        | some v₀ =>
            obtain ⟨v₁, hv₁, hviewstep⟩ := hw.step_view hcourse hold
            obtain rfl := Option.some.inj (hv₁.symm.trans hu)
            exact hkeep _ _ _ _ _ (hstart v₀ hold) hviewstep
        | none =>
            obtain ⟨hnew, hmailbox, hloop, hlabel, rfl⟩ := hcourse.fresh_of_course hw hold hu
            rw [hlabel, Option.toList_none, List.append_nil]
            refine hfresh hold past u hnew ?_ ?_
            · intro c hc
              rcases List.mem_append.1 hc with hmem | hmem
              · exact hpast c hmem
              · exact hw.mailbox c (hmailbox ▸ hmem)
            · intro hgone
              exact hmailbox.trans (hw.gone (hloop ▸ hgone))

end Run

end System

end MarketGate
