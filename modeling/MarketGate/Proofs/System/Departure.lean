import MarketGate.Proofs.Hub.Counters
import MarketGate.Proofs.System.Run

/-!
# Who leaves is forgotten

A pump that has returned leaves nothing behind in the hub, once the hub has dealt with what was sent
to it before.  The pump's request to be registered, the hub's own evictions and the reader's request
to be removed may come in many orders; what decides is where the sender of the client's queue is.
It is with the pump at first, then in a registration on its way, then with the hub, and then gone,
and it never is in two places (`View.Kept.sender`).

* `View.Kept` is what holds of a client at any time.
* `View.Parting` says that the sender is gone, or that the request to remove the client is among the
  next few that the hub deals with and no registration comes after it.
* **`View.Kept.step`** and **`View.Parting.step`**: the steps of a view keep the one and bring the
  other closer.
* **`unregistered_of_returned`**: what is left of a pump that has returned.
-/

namespace MarketGate

namespace Seat

variable {p n : Nat} {v : Seat}

/-- The sender of the queue is with the hub, or in one of `n` other places, or gone. -/
def Balanced (n : Nat) (v : Seat) : Prop := n + v.registered.toNat = v.queue.hasSender.toNat

lemma Balanced.enter (h : v.Balanced (n + 1)) : v.enter.Balanced n := by
  have hle := Bool.toNat_le v.queue.hasSender
  unfold Balanced at h ⊢
  unfold Seat.enter
  split_ifs with hregistered
  · rw [hregistered, Bool.toNat_true] at h
    omega
  · have hfalse : v.registered = false := by simpa using hregistered
    rw [hfalse, Bool.toNat_false] at h
    exact h

lemma Balanced.remove (h : v.Balanced n) : v.remove.Balanced n := by
  have hle := Bool.toNat_le v.queue.hasSender
  unfold Balanced at h ⊢
  unfold Seat.remove
  split_ifs with hregistered
  · rw [hregistered, Bool.toNat_true] at h
    have hzero : n = 0 := by omega
    rw [hzero]
    rfl
  · exact h

lemma Balanced.receive (h : v.Balanced n) (payload : Bytes) : (v.receive payload).Balanced n := by
  unfold Seat.receive
  split_ifs
  · exact h.remove
  · exact h
  · exact h

/-- Who serves a request takes the sender that is in it. -/
lemma Balanced.apply {command : Command}
    (h : v.Balanced (n + if command = .register ⟨p, p⟩ then 1 else 0)) :
    (v.apply p command).Balanced n := by
  cases command with
  | register r =>
      simp only [Seat.apply]
      split_ifs with hr
      · rw [hr, if_pos rfl] at h
        exact h.enter
      · rwa [if_neg (by simpa using hr)] at h
  | unregister id =>
      simp only [Seat.apply]
      split_ifs
      · exact h.remove
      · exact h
  | broadcast payload => exact h.receive payload
  | count ticket => exact h

/-- Who is removed has no sender, unless it is somewhere else than with the hub. -/
lemma Balanced.hasSender_remove (h : v.Balanced 0) : v.remove.queue.hasSender = false := by
  unfold Balanced at h
  unfold Seat.remove
  split_ifs with hregistered
  · rfl
  · have hfalse : v.registered = false := by simpa using hregistered
    rw [hfalse] at h
    simpa using h.symm

lemma hasSender_remove (h : v.queue.hasSender = false) : v.remove.queue.hasSender = false := by
  unfold remove
  split_ifs
  · rfl
  · exact h

/-- A sender that was dropped does not come back. -/
lemma hasSender_apply (h : v.queue.hasSender = false) (command : Command) :
    (v.apply p command).queue.hasSender = false := by
  cases command with
  | register r =>
      simp only [apply, enter]
      split_ifs
      · rfl
      · exact h
      · exact h
  | unregister id =>
      simp only [apply]
      split_ifs
      · exact hasSender_remove h
      · exact h
  | broadcast payload =>
      simp only [apply, receive]
      split_ifs
      · exact hasSender_remove h
      · exact h
      · exact h
  | count ticket => exact h

lemma phase_remove (h : v.connection.phase = .closed) : v.remove.connection.phase = .closed := by
  unfold remove
  split_ifs
  · rwa [Connection.beginDraining, Connection.exchange_of_ne (by simp [h])]
  · exact h

/-- A closed connection stays closed. -/
lemma phase_apply (h : v.connection.phase = .closed) (command : Command) :
    (v.apply p command).connection.phase = .closed := by
  cases command with
  | register r =>
      simp only [apply, enter]
      split_ifs
      · exact h
      · rwa [Connection.markRegistered, Connection.exchange_of_ne (by simp [h])]
      · exact h
  | unregister id =>
      simp only [apply]
      split_ifs
      · exact phase_remove h
      · exact h
  | broadcast payload =>
      simp only [apply, receive]
      split_ifs
      · exact phase_remove h
      · exact h
      · exact h
  | count ticket => exact h

end Seat

namespace Reader.Turn

variable {settings : Settings} {now : Nat} {stage stage' : Reader.Stage} {c c' : Connection}
  (h : Reader.Turn settings now stage c stage' c')

include h

/-- Nor does its reader open it again. -/
lemma phase_eq (hclosed : c.phase = .closed) : c'.phase = .closed := by
  cases h with
  | claim | claimEarly => rwa [Connection.exchange_of_ne (by simp [hclosed])]
  | _ => exact hclosed

/-- A reader that does something has been started. -/
lemma ne_idle : stage ≠ .idle := by
  cases h <;> exact Stage.noConfusion

/-- A reader that has not asked the hub to remove its connection is not done. -/
lemma not_isDone : isDone ⟨stage'⟩ = false := by
  cases h with
  | @receive _ _ incoming hne =>
      cases incoming with
      | binary data => simp only [Stage.afterReceiving]; split <;> rfl
      | _ => rfl
  | claim | claimEarly => split_ifs <;> rfl
  | _ => rfl

end Reader.Turn

namespace View

/-- The sender of the client's queue is gone, or among the next `n` requests is one to remove the
client, and none to register it comes after that. -/
def Parting (p n : Nat) (v : View) : Prop :=
  v.seat.queue.hasSender = false
    ∨ ∃ before after, v.mailbox = before ++ .unregister (p + 1) :: after ∧ before.length < n
        ∧ .register ⟨p, p⟩ ∉ after

/-- What holds of a client at any time. -/
structure Kept (p : Nat) (v : View) : Prop where
  /-- The sender of the queue is with the pump, in the mailbox or with the hub, or gone. -/
  sender : v.seat.Balanced (v.abroad p)
  idle : v.waits = true → v.pump.reader.stage = .idle
  gone : v.loop ≠ .running → v.mailbox = [] ∧ v.seat.registered = false
  parted : v.pump.reader.isDone = true ∨ v.pump.stage = .returned → v.Parting p v.mailbox.length
  closed : v.pump.stage = .returned → v.seat.connection.phase = .closed

section Step

variable {p n : Nat} {v v' : View}

/-- What is among the next few requests is in the mailbox. -/
lemma Parting.of_length (h : v.Parting p n) : v.Parting p v.mailbox.length := by
  rcases h with hnone | ⟨before, after, hmailbox, -, hafter⟩
  · exact Or.inl hnone
  · exact Or.inr ⟨before, after, hmailbox, by simp [hmailbox], hafter⟩

/-- Requests that come later do not keep a client. -/
lemma Parting.of_append {sent : List Command} (h : v.Parting p n)
    (hmailbox : v'.mailbox = v.mailbox ++ sent) (hsent : .register ⟨p, p⟩ ∉ sent)
    (hsender : v'.seat.queue.hasSender = v.seat.queue.hasSender) : v'.Parting p n := by
  rcases h with hnone | ⟨before, after, hsplit, hlt, hafter⟩
  · exact Or.inl (hsender.trans hnone)
  · refine Or.inr ⟨before, after ++ sent, ?_, hlt, ?_⟩
    · rw [hmailbox, hsplit, List.append_assoc, List.cons_append]
    · rw [List.mem_append, not_or]
      exact ⟨hafter, hsent⟩

/-- A sender that is nowhere is gone. -/
lemma Kept.hasSender_eq (hv : v.Kept p) (hwaits : v.waits = false)
    (hmailbox : .register ⟨p, p⟩ ∉ v.mailbox) (hregistered : v.seat.registered = false) :
    v.seat.queue.hasSender = false := by
  have hsender := hv.sender
  rw [Seat.Balanced, abroad, hwaits, List.count_eq_zero.2 hmailbox, hregistered] at hsender
  simpa using hsender.symm

/-- A client that has asked for registration does not ask again, and keeps its queue as it is but
for what it takes. -/
lemma Act.quiet {settings : Settings} {now : Nat} (h : Act settings now p v v')
    (hwaits : v.waits = false) :
    v'.seat.queue.hasSender = v.seat.queue.hasSender
      ∧ ∃ sent, v'.mailbox = v.mailbox ++ sent ∧ .register ⟨p, p⟩ ∉ sent := by
  cases h with
  | enter hstage | refused hstage => simp [waits, hstage] at hwaits
  | relay hstage hopen => exact ⟨rfl, _, rfl, by simp⟩
  | part hstage hopen => exact ⟨rfl, _, rfl, by simp⟩
  | write hturn => exact ⟨hturn.frame.2.2.2, [], (List.append_nil _).symm, List.not_mem_nil⟩
  | _ => exact ⟨rfl, [], (List.append_nil _).symm, List.not_mem_nil⟩

/-- **The hub comes closer to removing a client with every request that it serves.** -/
theorem Parting.step {settings : Settings} {now : Nat} {label : Option Command} (hv : v.Kept p)
    (hwaits : v.waits = false) (h : v.Parting p n)
    (hstep : View.Step settings now p label v v') : v'.Parting p (n - label.toList.length) := by
  cases hstep with
  | idle => exact h
  | act hact =>
      obtain ⟨hsender, sent, hmailbox, hsent⟩ := Act.quiet hact hwaits
      exact h.of_append hmailbox hsent hsender
  | send hopen hne => exact h.of_append rfl (by simpa using Ne.symm hne) rfl
  | @serve _ command rest hloop hmailbox =>
      rcases h with hnone | ⟨before, after, hsplit, hlt, hafter⟩
      · exact Or.inl (Seat.hasSender_apply hnone command)
      · rw [hmailbox] at hsplit
        cases before with
        | nil =>
            -- the request to remove the client is the one that is served
            obtain ⟨rfl, rfl⟩ : command = .unregister (p + 1) ∧ rest = after := by
              simpa using hsplit
            have hsender := hv.sender
            rw [abroad, hwaits, hmailbox, List.count_eq_zero.2 (by simpa using hafter)] at hsender
            have hremove := hsender.hasSender_remove
            refine Or.inl ?_
            simpa [Seat.apply] using hremove
        | cons first before =>
            obtain ⟨rfl, rfl⟩ :
                command = first ∧ rest = before ++ .unregister (p + 1) :: after := by
              simpa using hsplit
            refine Or.inr ⟨before, after, rfl, ?_, hafter⟩
            simp only [List.length_cons, Option.toList_some, List.length_nil] at hlt ⊢
            omega
  | stop hloop hmailbox =>
      rcases h with hnone | ⟨before, after, hsplit, -⟩
      · exact Or.inl (Seat.hasSender_remove hnone)
      · simp [hmailbox] at hsplit
  | lose hloop =>
      refine Or.inl ?_
      simp only [Seat.lose]
      split_ifs with hgone
      · rfl
      · simp only [Bool.or_eq_true, decide_eq_true_iff, not_or, Bool.not_eq_true] at hgone
        exact hv.hasSender_eq hwaits hgone.2 hgone.1

/-- A pump whose reader is done has asked for registration before, and so has one that returned. -/
lemma Kept.not_waits (hv : v.Kept p)
    (h : v.pump.reader.isDone = true ∨ v.pump.stage = .returned) :
    v.waits = false := by
  by_contra hwaits
  have hwaits : v.waits = true := by simpa using hwaits
  rcases h with hdone | hreturned
  · rw [Reader.isDone, hv.idle hwaits] at hdone
    exact Bool.noConfusion hdone
  · simp [waits, hreturned] at hwaits

section Kept

variable {settings : Settings} {now : Nat} {label : Option Command} (hv : v.Kept p)
  (hstep : View.Step settings now p label v v')

include hv hstep

lemma Kept.sender_step : v'.seat.Balanced (v'.abroad p) := by
  have hsender := hv.sender
  cases hstep with
  | idle => exact hsender
  | act hact =>
      cases hact with
      | enter hstage hopen =>
          have heq : v.abroad p = v.mailbox.count (.register ⟨p, p⟩) + 1 := by
            simp [abroad, waits, hstage, Nat.add_comm]
          rw [heq] at hsender
          simpa [abroad, waits, send] using hsender
      | refused hstage hloop =>
          obtain ⟨hnil, hregistered⟩ := hv.gone hloop
          simp [Seat.Balanced, abroad, waits, hnil, hregistered, Queue.dropSender,
            Queue.dropReceiver]
      | leave hstage hreader hwriter =>
          have heq : v.abroad p = v.mailbox.count (.register ⟨p, p⟩) := by
            simp [abroad, waits, hstage]
          rw [heq] at hsender
          simpa [Seat.Balanced, abroad, waits] using hsender
      | relay hstage hopen =>
          rw [← abroad_send (c := .broadcast _) (by simp)] at hsender
          exact hsender
      | part hstage hopen =>
          rw [← abroad_send (c := .unregister (p + 1)) (by simp)] at hsender
          exact hsender
      | write hturn =>
          rw [Seat.Balanced, ← hturn.frame.2.2.2] at hsender
          exact hsender
      | _ => exact hsender
  | send hopen hne =>
      rw [abroad_send hne]
      exact hsender
  | @serve _ command rest hloop hmailbox =>
      refine Seat.Balanced.apply (n := v.waits.toNat + rest.count (.register ⟨p, p⟩)) ?_
      rw [abroad, hmailbox, List.count_cons, ← Nat.add_assoc] at hsender
      simpa only [beq_iff_eq] using hsender
  | stop hloop hmailbox => exact Seat.Balanced.remove hsender
  | lose hloop =>
      have hle := Bool.toNat_le v.seat.queue.hasSender
      rw [Seat.Balanced, abroad] at hsender
      have hlost : ({ v with
          seat := v.seat.lose (decide (.register ⟨p, p⟩ ∈ v.mailbox))
          mailbox := []
          loop := .lost } : View).abroad p = v.waits.toNat := rfl
      rw [hlost]
      simp only [Seat.Balanced, Seat.lose, Bool.toNat_false, Nat.add_zero]
      split_ifs with hgone
      · -- the sender was with the hub or in the mailbox, so the pump does not have it
        rw [Queue.dropSender, Bool.toNat_false]
        rw [Bool.or_eq_true, decide_eq_true_iff, ← List.count_pos_iff] at hgone
        rcases hgone with hregistered | hcount
        · rw [hregistered, Bool.toNat_true] at hsender
          omega
        · omega
      · simp only [Bool.or_eq_true, decide_eq_true_iff, not_or, Bool.not_eq_true] at hgone
        rw [List.count_eq_zero.2 hgone.2, hgone.1] at hsender
        exact hsender

lemma Kept.idle_step (hwaits : v'.waits = true) : v'.pump.reader.stage = .idle := by
  cases hstep with
  | act hact =>
      cases hact with
      | enter | refused | leave => simp [waits] at hwaits
      | turn hturn => exact absurd (hv.idle hwaits) hturn.ne_idle
      | relay hstage hopen | relayRefused hstage hopen | part hstage hopen
      | partRefused hstage hopen =>
          have hidle := hv.idle hwaits
          rw [hstage] at hidle
          cases hidle
      | write hturn => exact hv.idle hwaits
  | _ => exact hv.idle hwaits

lemma Kept.gone_step (hloop' : v'.loop ≠ .running) :
    v'.mailbox = [] ∧ v'.seat.registered = false := by
  cases hstep with
  | idle => exact hv.gone hloop'
  | act hact =>
      cases hact with
      | enter hstage hopen | relay hstage hopen | part hstage hopen =>
          exact absurd hopen.loop hloop'
      | _ => exact hv.gone hloop'
  | send hopen hne => exact absurd hopen.loop hloop'
  | serve hloop hmailbox => exact absurd hloop hloop'
  | stop hloop hmailbox => exact ⟨hmailbox, v.seat.registered_remove⟩
  | lose hloop => exact ⟨rfl, rfl⟩

lemma Kept.closed_step (hstage' : v'.pump.stage = .returned) :
    v'.seat.connection.phase = .closed := by
  cases hstep with
  | idle => exact hv.closed hstage'
  | act hact =>
      cases hact with
      | enter => cases hstage'
      | refused | leave => rfl
      | turn hturn => exact hturn.phase_eq (hv.closed hstage')
      | write hturn => exact hturn.frame.2.1.trans (hv.closed hstage')
      | _ => exact hv.closed hstage'
  | send hopen hne => exact hv.closed hstage'
  | serve hloop hmailbox => exact Seat.phase_apply (hv.closed hstage') _
  | stop hloop hmailbox => exact Seat.phase_remove (hv.closed hstage')
  | lose hloop => exact hv.closed hstage'

lemma Kept.parted_step (h' : v'.pump.reader.isDone = true ∨ v'.pump.stage = .returned) :
    v'.Parting p v'.mailbox.length := by
  by_cases h : v.pump.reader.isDone = true ∨ v.pump.stage = .returned
  · exact ((hv.parted h).step hv (hv.not_waits h) hstep).of_length
  · cases hstep with
    | act hact =>
        cases hact with
        | enter => simp [Reader.isDone] at h'
        | refused hstage hloop => exact Or.inl rfl
        | leave hstage hreader => exact absurd (Or.inl hreader) h
        | turn hturn =>
            rcases h' with hdone | hreturned
            · rw [setReader, hturn.not_isDone] at hdone
              exact Bool.noConfusion hdone
            · exact absurd (Or.inr hreturned) h
        | relay hstage hopen | relayRefused hstage hopen =>
            rcases h' with hdone | hreturned
            · exact Bool.noConfusion hdone
            · exact absurd (Or.inr hreturned) h
        | part hstage hopen =>
            exact Or.inr ⟨v.mailbox, [], rfl, by simp [send, setReader], List.not_mem_nil⟩
        | partRefused hstage hloop =>
            obtain ⟨hnil, hregistered⟩ := hv.gone hloop
            have hwaits : v.waits = false := by
              by_contra hwaits
              have hidle := hv.idle (by simpa using hwaits)
              rw [hstage] at hidle
              cases hidle
            exact Or.inl (hv.hasSender_eq hwaits (by simp [hnil]) hregistered)
        | write hturn => exact absurd h' h
    | _ => exact absurd h' h

omit hv in
/-- A pump that has returned is not started again. -/
lemma returned_step (hstage : v.pump.stage = .returned) : v'.pump.stage = .returned := by
  cases hstep with
  | act hact =>
      cases hact with
      | enter hstage' | leave hstage' => exact absurd (hstage.symm.trans hstage') nofun
      | refused => rfl
      | _ => exact hstage
  | _ => exact hstage

/-- **What holds of a client goes on holding.** -/
theorem Kept.step : v'.Kept p where
  sender := hv.sender_step hstep
  idle := hv.idle_step hstep
  gone := hv.gone_step hstep
  parted := hv.parted_step hstep
  closed := hv.closed_step hstep

end Kept

/-- A client that has just connected has its sender with its pump. -/
lemma Fresh.kept (hnew : v.Fresh p) (hfits : ∀ c ∈ v.mailbox, c.Fits p)
    (hgone : v.loop ≠ .running → v.mailbox = []) : v.Kept p := by
  have hnone : .register ⟨p, p⟩ ∉ v.mailbox := fun hmem => (Nat.lt_irrefl p) (hfits _ hmem).2
  obtain ⟨capacity, hqueue⟩ := hnew.queue
  refine ⟨?_, fun _ => by rw [hnew.pump], fun h => ⟨hgone h, hnew.registered⟩, ?_, ?_⟩
  · rw [Seat.Balanced, abroad, List.count_eq_zero.2 hnone, hnew.registered, hqueue]
    simp [waits, hnew.pump]
  · simp [hnew.pump, Reader.isDone]
  · simp [hnew.pump]

end Step

end View

namespace System

/-- The gauge of connections is right as long as the hub is not lost. -/
lemma Course.counted {s s' : System} {label : Option Command} (h : s.Course label s')
    (hs : s.loop ≠ .lost → s.hub.Counted) (hloop : s'.loop ≠ .lost) : s'.hub.Counted := by
  cases h with
  | still sent hstill =>
      rw [hstill.loop] at hloop
      rw [Hub.Counted, hstill.activeConnections, hstill.registry]
      exact hs hloop
  | connect peer => exact hs hloop
  | act hview hact hup =>
      rw [hup.loop] at hloop
      rw [Hub.Counted, hup.activeConnections, hup.registry]
      exact hs hloop
  | serve hrun => exact (hs hloop).apply _
  | stop => exact Hub.counted_stop s.hub
  | lose => exact absurd rfl hloop

lemma Wired.counted {s t : System} {actions : List Action} (hw : s.Wired)
    (hs : s.loop ≠ .lost → s.hub.Counted)
    (horderly : ∀ action ∈ actions, action.isOrderly = true) (hrun : run? actions s = some t)
    (hloop : t.loop ≠ .lost) : t.hub.Counted := by
  induction actions generalizing s with
  | nil =>
      obtain rfl := Option.some.inj hrun
      exact hs hloop
  | cons action actions ih =>
      obtain ⟨s', hstep, hrest⟩ := run?_cons hrun
      have hcourse := hw.course (horderly action List.mem_cons_self) hstep
      exact ih (hw.of_course hcourse) (hcourse.counted hs)
        (fun a ha => horderly a (List.mem_cons_of_mem _ ha)) hrest

/-- What is kept holds of every client in every run. -/
theorem kept_of_run (settings : Settings) {actions : List Action} {s : System} {p : Nat} {v : View}
    (horderly : ∀ action ∈ actions, action.isOrderly = true)
    (hrun : run? actions (start settings) = some s) (hview : s.view? p = some v) : v.Kept p := by
  refine (wired_start settings).run_view (fun _ v => v.Kept p) [] ?_
    (fun _ _ _ _ _ hv hstep => hv.step hstep) horderly hrun nofun ?_ hview
  · intro _ _ _ hnew hfits hgone
    exact hnew.kept (fun c hc => hfits c (List.mem_append_right _ hc)) hgone
  · intro v hv
    rw [view?_start] at hv
    cases hv

/-- A pump that has returned comes closer to being forgotten with every request that the hub
serves. -/
lemma Wired.parting_run {s t : System} {actions : List Action} {p n : Nat} {v u : View}
    (hw : s.Wired) (horderly : ∀ action ∈ actions, action.isOrderly = true)
    (hrun : run? actions s = some t) (hview : s.view? p = some v) (hv : v.Kept p)
    (hreturned : v.pump.stage = .returned) (hparting : v.Parting p n)
    (hview' : t.view? p = some u) :
    u.Parting p (n - (served actions s).length) ∧ u.Kept p ∧ u.pump.stage = .returned := by
  have hall := hw.run_view
    (fun past u => u.Parting p (n - past.length) ∧ u.Kept p ∧ u.pump.stage = .returned) []
    (fun hnone => ?_) (fun past now label u u' hu hstep => ?_) horderly hrun nofun
    (fun u hu => ?_) hview'
  · rwa [List.nil_append] at hall
  · rw [hview] at hnone
    cases hnone
  · obtain ⟨hparting, hu, hstage⟩ := hu
    have hnext := hparting.step hu (hu.not_waits (Or.inr hstage)) hstep
    rw [Nat.sub_sub, ← List.length_append] at hnext
    exact ⟨hnext, hu.step hstep, View.returned_step hstep hstage⟩
  · obtain rfl := Option.some.inj (hview.symm.trans hu)
    exact ⟨hparting, hv, hreturned⟩

/-- **No pump is forgotten in the registry.**  Take any run of a gateway in which registering is
left to the pumps, and a pump that has returned at some point of it.  Once the hub has dealt with as
many requests as were in its mailbox at that point, the pump's connection is closed and no longer
registered, the hub has let go of its queue, and the gauge of connections, as long as the hub is not
lost, shows the size of a registry in which nothing belongs to the pump. -/
theorem unregistered_of_returned (settings : Settings) (before after : List Action)
    (s t : System) (p : Nat) (pump : Pump)
    (horderly : ∀ action ∈ before ++ after, action.isOrderly = true)
    (hbefore : run? before (start settings) = some s) (hafter : run? after s = some t)
    (hpump : s.pumps[p]? = some pump) (hreturned : pump.stage = .returned)
    (hserved : s.mailbox.length ≤ (served after s).length) :
    ∃ c q, t.hub.connections[pump.connection]? = some c ∧ t.hub.queues[pump.queue]? = some q
      ∧ t.hub.isRegistered c.id = false ∧ q.hasSender = false ∧ c.phase = .closed
      ∧ (∀ e ∈ t.hub.registry,
        e.1 ≠ c.id ∧ e.2.connection ≠ pump.connection ∧ e.2.queue ≠ pump.queue)
      ∧ (t.loop ≠ .lost → t.hub.metrics.activeConnections = t.hub.registry.length) := by
  have hfirst : ∀ action ∈ before, action.isOrderly = true := fun a ha =>
    horderly a (List.mem_append_left _ ha)
  have hsecond : ∀ action ∈ after, action.isOrderly = true := fun a ha =>
    horderly a (List.mem_append_right _ ha)
  have hws : s.Wired := (wired_start settings).run hfirst hbefore
  have hwt : t.Wired := hws.run hsecond hafter
  obtain ⟨v, hview, rfl⟩ := hws.exists_view hpump
  obtain ⟨-, hconnection, hqueue, -⟩ := hws.parts hview
  have hkept : v.Kept p := kept_of_run settings hfirst hbefore hview
  obtain ⟨u, hview'⟩ := hws.exists_view_run hsecond hafter hview
  obtain ⟨hparting, hu, hstage⟩ :=
    hws.parting_run hsecond hafter hview hkept hreturned (hkept.parted (Or.inr hreturned)) hview'
  obtain ⟨-, -, -, hc, hq, hcid, hregistered, hmailbox, -⟩ := hwt.parts hview'
  obtain ⟨-, -, -, -, -, -, -, hmailbox', -⟩ := hws.parts hview
  have hsender : u.seat.queue.hasSender = false := by
    rcases hparting with hnone | ⟨first, rest, -, hlt, -⟩
    · exact hnone
    · rw [← hmailbox', Nat.sub_eq_zero_of_le hserved] at hlt
      exact absurd hlt (Nat.not_lt_zero _)
  have hgone : u.seat.registered = false := by
    have hbalanced := hu.sender
    rw [Seat.Balanced, hsender, Bool.toNat_false] at hbalanced
    cases hin : u.seat.registered with
    | false => rfl
    | true => simp [hin] at hbalanced
  have hforgotten : t.hub.isRegistered (p + 1) = false := hregistered.symm.trans hgone
  rw [hconnection, hqueue]
  have hcounted : s.loop ≠ .lost → s.hub.Counted := fun hloop =>
    (wired_start settings).counted (fun _ => rfl) hfirst hbefore hloop
  refine ⟨_, _, hc, hq, hcid ▸ hforgotten, hsender, hu.closed hstage, ?_, fun hloop =>
    hws.counted hcounted hsecond hafter hloop⟩
  intro e he
  have hnumber : e.1 ≠ p + 1 := fun heq => by
    simp only [Hub.isRegistered, List.any_eq_false, beq_iff_eq] at hforgotten
    exact hforgotten e he heq
  have hseat : e.2.connection ≠ p := fun heq => by
    have hid := hwt.hub.sound.named e he
    rw [heq, Hub.idAt, hc, Option.map_some, hcid] at hid
    exact hnumber (Option.some.inj hid).symm
  have hpair : e.2.queue = e.2.connection :=
    hwt.hub.entry _ _ (hwt.hub.sound.entryAt?_eq_some_iff.2 he)
  exact ⟨hcid ▸ hnumber, hseat, hpair ▸ hseat⟩

/-- A client that is gone before the hub has even looked at its registration is not kept either. -/
theorem unregistered_of_early_end :
    let settings : Settings :=
      { route := .orderEntry, queueCapacity := 4, writeWait := 10, pongWait := 60, pingPeriod := 50,
        pollBatch := 8, idleBackoff := { nanos := 1 } }
    let before : List Action :=
      [.connect none, .enter 0, .read 0 .proceed, .write 0 .proceed, .write 0 .proceed,
        .read 0 (.receive .finished), .read 0 .proceed, .read 0 .proceed, .read 0 .proceed,
        .read 0 .proceed, .read 0 .proceed, .write 0 .hearClosing, .write 0 .proceed, .leave 0]
    let after : List Action := [.serve, .serve]
    ∃ s t c, run? before (start settings) = some s ∧ run? after s = some t
      ∧ s.mailbox = [.register ⟨0, 0⟩, .unregister 1]
      ∧ t.hub.connections[0]? = some c ∧ t.hub.isRegistered c.id = false ∧ c.phase = .closed := by
  intro settings before after
  obtain ⟨c, q, hc, -, hforgotten, -, hclosed, -⟩ :=
    unregistered_of_returned settings before after _ _ 0 _ (by decide) rfl rfl rfl rfl (by decide)
  exact ⟨_, _, c, rfl, rfl, rfl, hc, hforgotten, hclosed⟩

end System

end MarketGate
