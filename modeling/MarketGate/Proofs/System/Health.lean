import MarketGate.Health
import MarketGate.Proofs.System.Census
import MarketGate.Proofs.System.FeedLoop
import MarketGate.Proofs.System.Progress

/-!
# Asking after the health of a gateway

Whoever asks after the health of a gateway asks its hub for the number of connections and waits,
while everything else goes on.  The hub answers when it comes to the request, and if it is gone that
is an answer too.  Then the gauge of the feed is looked at, and the gateway is healthy if the hub
has answered and the gauge says that the feed is live.

When the loop of the bridge is over, the gateway is not healthy any more.  A loop that found its
feed closed has cleared the gauge, and a loop that could not reach the hub leaves the gauge alone,
but a hub that is gone stays away.

* `System.Told` says what a bridge whose loop is over, or is about to be, leaves behind.
  **`System.Told.step`**: it stays like that.
* `Inquiry.run?` is a run in which an inquiry goes on, and `Inquiry.counts` is what the hub answers
  in its course.
* `Inquiry.Stands` is what holds of an inquiry and of the answers under its ticket, and
  **`Inquiry.Stands.run`** says that it goes on to hold.  **`Inquiry.Stands.answerable`**: an answer
  can always be had.
* **`health_of_gateway`**: what the answer is.
-/

namespace MarketGate

namespace System

/-- A bridge that has found the hub gone is right, and where a loop is over, the hub is gone or the
gauge of the feed says that the feed is. -/
structure Told (s : System) : Prop where
  failed : ∀ fault, s.bridge.stage = .polled (.error fault) → s.loop ≠ .running
  ended : ∀ fault, s.bridge.stage = .ended fault →
    s.loop ≠ .running ∨ s.hub.metrics.feedConnected = 0

section Told

variable {s s' : System} {action : Action}

/-- A step leaves the bridge and the gauge of the feed alone, or it is about a bridge that has not
found out anything, or it is a step of the bridge. -/
lemma bridge_cases (hstep : s.step? action = some s') :
    (s'.bridge = s.bridge ∧ s'.hub.metrics.feedConnected = s.hub.metrics.feedConnected)
      ∨ ((∀ result, s'.bridge.stage ≠ .polled result) ∧ (∀ fault, s'.bridge.stage ≠ .ended fault)
        ∧ (action ≠ .newBridge →
          s'.hub.metrics.feedConnected = s.hub.metrics.feedConnected))
      ∨ s.bridgeStep? = some s' := by
  cases hfeed : action.touchesFeed with
  | false =>
      have hkeeps := keepsFeed_step? hfeed hstep
      exact Or.inl ⟨hkeeps.bridge, hkeeps.feedConnected⟩
  | true =>
      cases action with
      | inject fragment | loseFeed =>
          cases hstep
          exact Or.inl ⟨rfl, rfl⟩
      | detach =>
          cases hstep
          exact Or.inr (Or.inl
            ⟨fun _ => Bridge.Stage.noConfusion, fun _ => Bridge.Stage.noConfusion, fun _ => rfl⟩)
      | newBridge =>
          simp only [step?] at hstep
          split_ifs at hstep
          cases hstep
          exact Or.inr (Or.inl
            ⟨fun _ => Bridge.Stage.noConfusion, fun _ => Bridge.Stage.noConfusion,
              fun hne => absurd rfl hne⟩)
      | pollOnce | runBridge =>
          simp only [step?, startBridge?] at hstep
          split at hstep
          · cases hstep
            exact Or.inr (Or.inl
              ⟨fun _ => Bridge.Stage.noConfusion, fun _ => Bridge.Stage.noConfusion, fun _ => rfl⟩)
          · cases hstep
      | bridge => exact Or.inr (Or.inr hstep)
      | _ => exact Bool.noConfusion hfeed

/-- **What a bridge leaves behind when its loop is over stays like that.** -/
theorem Told.step (h : s.Told) (hstep : s.step? action = some s') : s'.Told := by
  have hgone : s.loop ≠ .running → s'.loop ≠ .running := mt (running_step? hstep)
  rcases bridge_cases hstep with ⟨hbridge, hgauge⟩ | ⟨hpolled, hended, -⟩ | hbridging
  · exact ⟨fun fault hfailed => hgone (h.failed fault (hbridge ▸ hfailed)),
      fun fault hended => (h.ended fault (hbridge ▸ hended)).imp hgone hgauge.trans⟩
  · exact ⟨fun fault hfailed => absurd hfailed (hpolled _),
      fun fault hover => absurd hover (hended fault)⟩
  · obtain ⟨counted, sent, hbridged⟩ := of_bridgeStep? hbridging
    constructor
    · intro fault hfailed hloop
      have hturn := hbridged.turn
      rw [← hbridged.loop, hloop] at hturn
      exact hturn.ne_failed fault hfailed
    · intro fault hended
      obtain ⟨bridge, feed, fragments, gauge, mailbox, notices, rfl, hgauge⟩ :=
        bridgeStep?_eq hbridging
      rcases hgauge with ⟨-, hfailed⟩ | ⟨hzero, -⟩
      · exact Or.inl (hgone (h.failed fault (hfailed fault hended)))
      · exact Or.inr hzero

/-- Only a new bridge takes the feed to be live. -/
lemma feedConnected_step? (hne : action ≠ .newBridge) (hstep : s.step? action = some s')
    (hzero : s.hub.metrics.feedConnected = 0) : s'.hub.metrics.feedConnected = 0 := by
  rcases bridge_cases hstep with ⟨-, hgauge⟩ | ⟨-, -, hgauge⟩ | hbridging
  · exact hgauge.trans hzero
  · exact (hgauge hne).trans hzero
  · obtain ⟨bridge, feed, fragments, gauge, mailbox, notices, rfl, hgauge⟩ :=
      bridgeStep?_eq hbridging
    rcases hgauge with ⟨hsame, -⟩ | ⟨hnow, -⟩
    · exact hsame.trans hzero
    · exact hnow

/-- What a bridge has found gone stays away. -/
lemma told_of_run {settings : Settings} {kind : Subscription.Kind} {forwarder : Forwarder}
    {actions : List Action} (hrun : run? actions (startOn settings kind forwarder) = some s) :
    s.Told := by
  refine run_induction (P := fun _ u => u.Told) ?_ ?_ hrun
  · exact ⟨nofun, nofun⟩
  · exact fun _ _ _ _ _ htold hstep => htold.step hstep

end Told

/-! ## Questions and answers -/

/-- The answers of the hub under a ticket, newest first. -/
def answersTo (ticket : Nat) (s : System) : List Nat :=
  (s.answers.filter fun a => a.1 = ticket).map Prod.snd

/-- How many questions under a ticket a hub that is there has still to answer. -/
def questions (ticket : Nat) (s : System) : Nat :=
  if s.loop = .running then s.mailbox.count (.count ticket) else 0

/-- What the hub answers under a ticket in a step: if it comes to such a question, the size of its
registry. -/
def countAt (ticket : Nat) (action : Action) (s : System) : List Nat :=
  match action with
  | .serve => if s.mailbox.head? = some (.count ticket) then [s.hub.registry.length] else []
  | _ => []

section Questions

variable {s s' : System} {ticket : Nat} {action : Action}

/-- A step gives one answer or none. -/
lemma reverse_countAt (ticket : Nat) (action : Action) (s : System) :
    (s.countAt ticket action).reverse = s.countAt ticket action := by
  unfold countAt
  split
  · split_ifs <;> rfl
  · rfl

/-- A hub that is gone gives no answer. -/
lemma countAt_of_gone (hgone : s.loop ≠ .running) (hstep : s.step? action = some s') :
    s.countAt ticket action = [] := by
  cases action with
  | serve =>
      simp only [step?, serve?] at hstep
      split at hstep
      · next hloop _ => exact absurd hloop hgone
      · cases hstep
  | _ => rfl

lemma lookup_answers (ticket : Nat) (s : System) :
    s.answers.lookup ticket = (s.answersTo ticket).head? := by
  unfold answersTo
  induction s.answers with
  | nil => rfl
  | cons a rest ih =>
      rw [List.lookup_cons, List.filter_cons]
      by_cases ha : ticket = a.1
      · simp [ha]
      · rw [beq_false_of_ne ha, ih, if_neg (by simpa using Ne.symm ha)]

/-- The hub answers a question when it comes to it. -/
lemma answersTo_serve? (hstep : s.serve? = some s') :
    s'.answersTo ticket = s.countAt ticket .serve ++ s.answersTo ticket
      ∧ s'.questions ticket + (s.countAt ticket .serve).length = s.questions ticket := by
  unfold serve? at hstep
  split at hstep
  · next command rest hloop hmailbox =>
      have hcounted : ((s.hub.answer? command).toList.filter fun a => a.1 = ticket).map Prod.snd
          = s.countAt ticket .serve := by
        cases command with
        | count other =>
            by_cases hother : other = ticket <;>
              simp [countAt, hmailbox, Hub.answer?, Hub.size, hother]
        | _ => simp [countAt, hmailbox, Hub.answer?]
      have hwaiting : rest.count (.count ticket) + (s.countAt ticket .serve).length
          = s.mailbox.count (.count ticket) := by
        by_cases hcommand : command = .count ticket <;> simp [countAt, hmailbox, hcommand]
      cases hstep
      constructor
      · rw [answersTo, answersTo, ← hcounted, ← List.map_append, ← List.filter_append]
        rfl
      · have hquestions : s.questions ticket = s.mailbox.count (.count ticket) := if_pos hloop
        rw [hquestions, ← hwaiting]
        exact congrArg (· + (s.countAt ticket .serve).length) (if_pos hloop)
  · cases hstep

/-- A question stays until it is answered or the hub is gone, and nobody else uses its ticket. -/
lemma answersTo_step? (hother : action ≠ .request (.count ticket))
    (hstep : s.step? action = some s') :
    s'.answersTo ticket = s.countAt ticket action ++ s.answersTo ticket
      ∧ s'.questions ticket + (s.countAt ticket action).length ≤ s.questions ticket
      ∧ (s'.loop = .running →
        s'.questions ticket + (s.countAt ticket action).length = s.questions ticket) := by
  by_cases hserve : action = .serve
  · subst hserve
    obtain ⟨hanswers, hsame⟩ := answersTo_serve? hstep
    exact ⟨hanswers, hsame.le, fun _ => hsame⟩
  · obtain ⟨sent, hasked, hposts⟩ := posts_step? hstep hserve
    have hnothing : s.countAt ticket action = [] := by
      cases action with
      | serve => exact absurd rfl hserve
      | _ => rfl
    have hsame (hloop : s'.loop = .running) : s'.questions ticket = s.questions ticket := by
      have hnone : sent.count (.count ticket) = 0 :=
        List.count_eq_zero.2 fun hmem => hother (hasked ticket hmem)
      rw [questions, questions, if_pos hloop, if_pos (running_step? hstep hloop),
        hposts.mailbox hloop, List.count_append, hnone, Nat.add_zero]
    rw [hnothing]
    refine ⟨?_, ?_, hsame⟩
    · rw [answersTo, hposts.answers]
      rfl
    · by_cases hloop : s'.loop = .running
      · exact (hsame hloop).le
      · rw [questions, if_neg hloop]
        exact Nat.zero_le _

/-- So what was asked and what was answered stay the same together, as long as the hub is there. -/
lemma asked_step? (hother : action ≠ .request (.count ticket)) (hstep : s.step? action = some s') :
    s'.questions ticket + (s'.answersTo ticket).length
        ≤ s.questions ticket + (s.answersTo ticket).length
      ∧ (s'.loop = .running → s'.questions ticket + (s'.answersTo ticket).length
        = s.questions ticket + (s.answersTo ticket).length) := by
  obtain ⟨hanswers, hle, heq⟩ := answersTo_step? hother hstep
  rw [hanswers, List.length_append]
  refine ⟨by omega, fun hloop => ?_⟩
  have hkept := heq hloop
  omega

lemma questions_ask (hloop : s.loop = .running) :
    ({ s with mailbox := s.mailbox ++ [.count ticket] } : System).questions ticket
      = s.questions ticket + 1 := by
  simp [questions, hloop]

end Questions

end System

/-! ## Inquiries -/

namespace Health

namespace Inquiry

/-- The next step of an inquiry, or a step of anyone else in the meantime. -/
def move? : Option Action → Inquiry × System → Option (Inquiry × System)
  | none, (q, s) => q.step? s
  | some action, (q, s) => (s.step? action).map fun s' => (q, s')

/-- An inquiry and its gateway after a list of moves, if all of them are possible in turn. -/
def run? : List (Option Action) → Inquiry × System → Option (Inquiry × System)
  | [], x => some x
  | move :: rest, x => (move? move x).bind (run? rest)

/-- What the hub answers under a ticket in the course of a run: each time that it comes to such a
question, the size that its registry has then. -/
def counts (ticket : Nat) : List (Option Action) → Inquiry × System → List Nat
  | [], _ => []
  | move :: rest, x =>
    (move.elim [] fun action => x.2.countAt ticket action)
      ++ match move? move x with
        | some x' => counts ticket rest x'
        | none => []

/-- What is known when a question was answered or the hub is gone: there is no such question any
more, and the answer is the only one. -/
structure Settled (ticket : Nat) (s : System) (connections? : Option Nat) : Prop where
  unasked : s.questions ticket = 0
  told : s.answersTo ticket = connections?.toList
  gone : connections? = none → s.loop ≠ .running

/-- What holds of the question of an inquiry and its answer: it is asked once, and as long as it is
not answered, it waits in the mailbox or the hub is gone. -/
def Stands (ticket : Nat) (s : System) : Inquiry → Prop
  | asking own => own = ticket ∧ s.questions ticket + (s.answersTo ticket).length = 0
  | awaiting own =>
    own = ticket ∧ s.questions ticket + (s.answersTo ticket).length ≤ 1
      ∧ (s.loop = .running → s.questions ticket + (s.answersTo ticket).length = 1)
  | looking connections? => Settled ticket s connections?
  | answered report => Settled ticket s report.connections?

/-- Only an inquiry that looks at the gauge gives an answer, and it says what it sees. -/
lemma of_answered {q : Inquiry} {s s' : System} {report : Report}
    (h : q.step? s = some (answered report, s')) :
    ∃ connections?, q = looking connections? ∧ report = Report.of connections? s.hub.metrics
      ∧ s' = s := by
  cases q with
  | asking own =>
      obtain ⟨sent, -, heq⟩ := Option.map_eq_some_iff.1 h
      cases htaken : sent.1 <;> simp [htaken] at heq
  | awaiting own =>
      simp only [step?] at h
      split at h
      · cases h
      · split_ifs at h
        cases h
  | looking connections? =>
      cases h
      exact ⟨connections?, rfl, rfl, rfl⟩
  | answered report => cases h

/-- An inquiry leaves the side of the feed alone. -/
lemma keepsFeed_step? {q q' : Inquiry} {s s' : System} (h : q.step? s = some (q', s')) :
    s.KeepsFeed s' := by
  cases q with
  | asking own =>
      obtain ⟨⟨taken, s₁⟩, hsend, heq⟩ := Option.map_eq_some_iff.1 h
      cases heq
      exact (System.keepsSides_send? hsend).toKeepsFeed
  | awaiting own =>
      simp only [step?] at h
      split at h
      · cases h
        exact ⟨rfl, rfl, rfl, rfl, rfl, id⟩
      · split_ifs at h
        cases h
        exact ⟨rfl, rfl, rfl, rfl, rfl, id⟩
  | looking connections? =>
      cases h
      exact ⟨rfl, rfl, rfl, rfl, rfl, id⟩
  | answered report => cases h

section Stands

variable {ticket : Nat} {q q' : Inquiry} {s s' : System}

/-- What is settled stays so. -/
lemma Settled.step {connections? : Option Nat} (h : Settled ticket s connections?)
    {action : Action} (hother : action ≠ .request (.count ticket))
    (hstep : s.step? action = some s') : Settled ticket s' connections? := by
  obtain ⟨hanswers, hle, -⟩ := System.answersTo_step? hother hstep
  rw [h.unasked] at hle
  have hnothing : s.countAt ticket action = [] := List.length_eq_zero_iff.1 (by omega)
  rw [hnothing, List.nil_append] at hanswers
  exact ⟨by omega, hanswers.trans h.told, fun hc => mt (System.running_step? hstep) (h.gone hc)⟩

/-- An inquiry stands as well after a step of anyone else. -/
lemma Stands.step (h : q.Stands ticket s) {action : Action}
    (hother : action ≠ .request (.count ticket)) (hstep : s.step? action = some s') :
    q.Stands ticket s' := by
  cases q with
  | looking connections? => exact Settled.step h hother hstep
  | answered report => exact Settled.step h hother hstep
  | asking own => exact ⟨h.1, Nat.le_zero.1 ((System.asked_step? hother hstep).1.trans h.2.le)⟩
  | awaiting own =>
      obtain ⟨hown, honce, hwaits⟩ := h
      obtain ⟨hle, heq⟩ := System.asked_step? hother hstep
      exact ⟨hown, hle.trans honce, fun hloop =>
        (heq hloop).trans (hwaits (System.running_step? hstep hloop))⟩

/-- An inquiry stands as well after a step of its own, and gives no answer in the hub's place. -/
lemma Stands.own (h : q.Stands ticket s) (hstep : q.step? s = some (q', s')) :
    q'.Stands ticket s' ∧ s'.answersTo ticket = s.answersTo ticket := by
  cases q with
  | asking own =>
      obtain ⟨rfl, hzero⟩ := h
      obtain ⟨⟨taken, s₁⟩, hsend, heq⟩ := Option.map_eq_some_iff.1 hstep
      cases heq
      have hnone : s.answersTo own = [] := List.length_eq_zero_iff.1 (by omega)
      rcases System.send?_eq_some hsend with ⟨hloop, -, rfl, rfl⟩ | ⟨hgone, rfl, rfl⟩
      · have hone : ({ s with mailbox := s.mailbox ++ [.count own] } : System).questions own
            + (s.answersTo own).length = 1 := by
          rw [System.questions_ask hloop]
          omega
        exact ⟨⟨rfl, hone.le, fun _ => hone⟩, rfl⟩
      · exact ⟨⟨if_neg hgone, hnone, fun _ => hgone⟩, rfl⟩
  | awaiting own =>
      obtain ⟨rfl, honce, hwaits⟩ := h
      simp only [step?, System.lookup_answers] at hstep
      cases hanswers : s.answersTo own with
      | nil =>
          rw [hanswers] at hstep
          simp only [List.head?_nil] at hstep
          split_ifs at hstep with hloop
          cases hstep
          exact ⟨⟨if_neg hloop, hanswers, fun _ => hloop⟩, hanswers⟩
      | cons count rest =>
          rw [hanswers] at hstep honce
          cases hstep
          rw [List.length_cons] at honce
          have hrest : rest = [] := List.length_eq_zero_iff.1 (by omega)
          subst hrest
          exact ⟨⟨by omega, hanswers, nofun⟩, hanswers⟩
  | looking connections? =>
      cases hstep
      exact ⟨h, rfl⟩
  | answered report => cases hstep

end Stands

section Run

variable {ticket : Nat} {moves : List (Option Action)} {q q' : Inquiry} {s t : System}

lemma run?_cons {move : Option Action} {x y : Inquiry × System}
    (h : run? (move :: moves) x = some y) :
    ∃ x', move? move x = some x' ∧ run? moves x' = some y :=
  Option.bind_eq_some_iff.1 h

lemma counts_cons {move : Option Action} {x x' : Inquiry × System} (h : move? move x = some x') :
    counts ticket (move :: moves) x
      = (move.elim [] fun action => x.2.countAt ticket action) ++ counts ticket moves x' := by
  rw [counts, h]

/-- **In the course of a run an inquiry stands**, and the answers under its ticket are those that
the hub gives. -/
theorem Stands.run (h : q.Stands ticket s)
    (hothers : ∀ action, some action ∈ moves → action ≠ .request (.count ticket))
    (hrun : run? moves (q, s) = some (q', t)) :
    q'.Stands ticket t
      ∧ t.answersTo ticket = (counts ticket moves (q, s)).reverse ++ s.answersTo ticket := by
  induction moves generalizing q s with
  | nil =>
      cases hrun
      exact ⟨h, rfl⟩
  | cons move moves ih =>
      obtain ⟨⟨q₁, s₁⟩, hmove, hrest⟩ := run?_cons hrun
      have hothers' := fun a ha => hothers a (List.mem_cons_of_mem _ ha)
      rw [counts_cons hmove]
      cases move with
      | none =>
          obtain ⟨hstands, hsame⟩ := h.own hmove
          obtain ⟨hlast, hanswers⟩ := ih hstands hothers' hrest
          exact ⟨hlast, hsame ▸ hanswers⟩
      | some action =>
          obtain ⟨s₂, hstep, heq⟩ := Option.map_eq_some_iff.1 hmove
          cases heq
          have hother := hothers action List.mem_cons_self
          obtain ⟨hlast, hanswers⟩ := ih (h.step hother hstep) hothers' hrest
          refine ⟨hlast, ?_⟩
          rw [hanswers, (System.answersTo_step? hother hstep).1, Option.elim_some,
            List.reverse_append, System.reverse_countAt, List.append_assoc]

/-- A hub that is gone answers nothing. -/
lemma counts_of_gone (hgone : s.loop ≠ .running) (hrun : run? moves (q, s) = some (q', t)) :
    counts ticket moves (q, s) = [] := by
  induction moves generalizing q s with
  | nil => rfl
  | cons move moves ih =>
      obtain ⟨⟨q₁, s₁⟩, hmove, hrest⟩ := run?_cons hrun
      rw [counts_cons hmove]
      cases move with
      | none => exact ih (mt (keepsFeed_step? hmove).running hgone) hrest
      | some action =>
          obtain ⟨s₂, hstep, heq⟩ := Option.map_eq_some_iff.1 hmove
          cases heq
          have hgone' := mt (System.running_step? hstep) hgone
          rw [ih hgone' hrest, List.append_nil]
          exact System.countAt_of_gone hgone hstep

/-- Unless another bridge is set up, a gauge that says that the feed is gone goes on to say so. -/
lemma feedConnected_run? (hone : ∀ action, some action ∈ moves → action ≠ .newBridge)
    (hrun : run? moves (q, s) = some (q', t)) (hzero : s.hub.metrics.feedConnected = 0) :
    t.hub.metrics.feedConnected = 0 := by
  induction moves generalizing q s with
  | nil =>
      cases hrun
      exact hzero
  | cons move moves ih =>
      obtain ⟨⟨q₁, s₁⟩, hmove, hrest⟩ := run?_cons hrun
      have hone' := fun a ha => hone a (List.mem_cons_of_mem _ ha)
      cases move with
      | none => exact ih hone' hrest ((keepsFeed_step? hmove).feedConnected.trans hzero)
      | some action =>
          obtain ⟨s₂, hstep, heq⟩ := Option.map_eq_some_iff.1 hmove
          cases heq
          exact ih hone' hrest
            (System.feedConnected_step? (hone action List.mem_cons_self) hstep hzero)

end Run

/-- Whether an inquiry can be brought to its answer by its own steps and those of the hub. -/
def Answerable (x : Inquiry × System) : Prop :=
  ∃ moves report t, (∀ move ∈ moves, move = none ∨ move = some .serve)
    ∧ run? moves x = some (answered report, t)

section Answerable

variable {ticket own : Nat} {q q' : Inquiry} {s s' : System}

lemma Answerable.of_move {move : Option Action} {x x' : Inquiry × System} (h : Answerable x')
    (hmove : move = none ∨ move = some .serve) (hstep : move? move x = some x') :
    Answerable x := by
  obtain ⟨moves, report, t, hmoves, hrun⟩ := h
  refine ⟨move :: moves, report, t, List.forall_mem_cons.2 ⟨hmove, hmoves⟩, ?_⟩
  rw [run?, hstep]
  exact hrun

lemma answerable_looking (connections? : Option Nat) (s : System) :
    Answerable (looking connections?, s) :=
  ⟨[none], Report.of connections? s.hub.metrics, s, fun _ h => Or.inl (List.mem_singleton.1 h), rfl⟩

/-- A hub that is there deals with what is in its mailbox, one request after the other. -/
lemma Stands.exists_serve (h : q.Stands ticket s) (hloop : s.loop = .running)
    (hmailbox : s.mailbox ≠ []) :
    ∃ u, move? (some .serve) (q, s) = some (q, u) ∧ u.mailbox.length < s.mailbox.length
      ∧ q.Stands ticket u := by
  obtain ⟨command, rest, hcons⟩ := List.exists_cons_of_ne_nil hmailbox
  obtain ⟨u, hserve, -, hrest, -⟩ := System.serve?_eq hloop hcons
  have hstep : s.step? .serve = some u := hserve
  have hother : Action.serve ≠ .request (.count ticket) := nofun
  refine ⟨u, ?_, ?_, h.step hother hstep⟩
  · rw [move?, hstep]
    rfl
  · rw [hrest, hcons]
    exact Nat.lt_succ_self _

lemma Stands.answerable_awaiting (h : (awaiting own).Stands ticket s) :
    Answerable (awaiting own, s) := by
  obtain rfl : own = ticket := h.1
  induction hn : s.mailbox.length using Nat.strong_induction_on generalizing s with
  | _ n ih =>
    cases hlookup : s.answers.lookup own with
    | some count =>
        have hstep : move? none (awaiting own, s) = some (looking (some count), s) := by
          simp only [move?, step?, hlookup]
        exact (answerable_looking _ s).of_move (Or.inl rfl) hstep
    | none =>
        by_cases hloop : s.loop = .running
        · have hone := h.2.2 hloop
          rw [System.lookup_answers, List.head?_eq_none_iff] at hlookup
          have hmailbox : s.mailbox ≠ [] := by
            intro hempty
            rw [hlookup, System.questions, if_pos hloop, hempty] at hone
            cases hone
          obtain ⟨u, hmove, hlt, hstands⟩ := h.exists_serve hloop hmailbox
          exact (ih _ (hn ▸ hlt) hstands rfl).of_move (Or.inr rfl) hmove
        · have hstep : move? none (awaiting own, s) = some (looking none, s) := by
            simp only [move?, step?, hlookup, if_neg hloop]
          exact (answerable_looking _ s).of_move (Or.inl rfl) hstep

/-- **An inquiry can be brought to its answer**, and nobody but the hub has to do anything for
it. -/
theorem Stands.answerable (h : q.Stands ticket s) : Answerable (q, s) := by
  cases q with
  | answered report => exact ⟨[], report, s, nofun, rfl⟩
  | looking connections? => exact answerable_looking connections? s
  | awaiting own => exact h.answerable_awaiting
  | asking own =>
    induction hn : s.mailbox.length using Nat.strong_induction_on generalizing s with
    | _ n ih =>
      by_cases hroom : s.loop = .running → s.mailbox.length < mailboxCapacity
      · obtain ⟨⟨taken, s₁⟩, hsend⟩ := Option.isSome_iff_exists.1
          (System.isSome_send? (.count own) hroom)
        have hstep : move? none (asking own, s)
            = some (if taken then awaiting own else looking none, s₁) := by
          simp only [move?, step?, hsend, Option.map_some]
        have hnext := (h.own hstep).1
        refine Answerable.of_move ?_ (Or.inl rfl) hstep
        cases taken with
        | true => exact hnext.answerable_awaiting
        | false => exact answerable_looking none s₁
      · -- the mailbox is full, so there is something to be dealt with
        obtain ⟨hloop, hfull⟩ := Classical.not_imp.1 hroom
        have hmailbox : s.mailbox ≠ [] := by
          intro hempty
          rw [hempty] at hfull
          exact hfull (Nat.zero_lt_succ _)
        obtain ⟨u, hmove, hlt, hstands⟩ := h.exists_serve hloop hmailbox
        exact (ih _ (hn ▸ hlt) hstands rfl).of_move (Or.inr rfl) hmove

end Answerable

end Inquiry

section Main

variable {settings : Settings} {kind : Subscription.Kind} {forwarder : Forwarder}
  {past : List Action} {moves : List (Option Action)} {q : Inquiry} {s t : System} {ticket : Nat}

/-- **What a gateway says about its health.**  Take any run of a gateway with a subscription of
either kind, and ask after its health, under a ticket that nobody has used or uses.  Whatever else
happens in the meantime, the inquiry can be brought to its answer by its own steps and those of the
hub.

When it is about to look at the gauge of the feed, then the hub has answered once, with the size
that its registry had then, or not at all, and in that case it is gone.  The answer says what the
hub has said and what the gauge is, and that all is well exactly if the hub has answered and the
gauge is 1.

And if the loop of a bridge was over by the time of the question, and no other bridge is set up, all
is not well. -/
theorem health_of_gateway (hpast : System.run? past (.startOn settings kind forwarder) = some s)
    (hfresh : s.answers.lookup ticket = none) (hunasked : .count ticket ∉ s.mailbox)
    (hothers : ∀ action, some action ∈ moves → action ≠ .request (.count ticket))
    (hrun : Inquiry.run? moves (.asking ticket, s) = some (q, t)) :
    let counts := Inquiry.counts ticket moves (.asking ticket, s)
    let healthy : Bool := counts ≠ [] ∧ t.hub.metrics.feedConnected = 1
    (∃ rest report u, (∀ move ∈ rest, move = none ∨ move = some .serve)
        ∧ Inquiry.run? rest (q, t) = some (.answered report, u))
      ∧ ∀ report u, q.step? t = some (.answered report, u) →
        u = t ∧ counts.length ≤ 1 ∧ (counts = [] → t.loop ≠ .running)
          ∧ (∀ target timestamp, Route.of? target = some .health →
            respond "GET" target report timestamp u.hub.metrics =
              { code := if healthy then 200 else 503
                contentType? := some "application/json"
                body := Json.objectText
                  [Json.member "component" (Json.quotedName "order-gateway"),
                    Json.member "connections" ((counts.head?.map Text.decimal).getD "null"),
                    Json.member "feed_connected"
                      (if t.hub.metrics.feedConnected = 1 then "true" else "false"),
                    Json.member "status"
                      (Json.quotedName (if healthy then "healthy" else "degraded")),
                    Json.member "timestamp" (Json.quotedName timestamp)] })
          ∧ ∀ fault, s.bridge.stage = .ended fault →
            (∀ action, some action ∈ moves → action ≠ .newBridge) → healthy = false := by
  intro counts healthy
  rw [System.lookup_answers, List.head?_eq_none_iff] at hfresh
  have hstart : (Inquiry.asking ticket).Stands ticket s := by
    refine ⟨rfl, ?_⟩
    rw [hfresh, System.questions, List.count_eq_zero.2 hunasked, ite_self]
    rfl
  obtain ⟨hstands, hanswers⟩ := hstart.run hothers hrun
  rw [hfresh, List.append_nil] at hanswers
  refine ⟨hstands.answerable, fun report u hlook => ?_⟩
  obtain ⟨connections?, rfl, rfl, rfl⟩ := Inquiry.of_answered hlook
  have hcounts : counts = connections?.toList := by
    rw [← List.reverse_reverse counts, ← hanswers, hstands.told]
    cases connections? <;> rfl
  have hhealthy : (Report.of connections? u.hub.metrics).isHealthy = healthy := by
    cases connections? <;> simp [healthy, hcounts, Report.isHealthy, Report.of]
  refine ⟨rfl, ?_, ?_, ?_, ?_⟩
  · rw [hcounts]
    exact Option.length_toList_le
  · rw [hcounts, Option.toList_eq_nil_iff]
    exact hstands.gone
  · intro target timestamp htarget
    have hhead : counts.head? = connections? := by rw [hcounts, Option.head?_toList]
    rw [respond, htarget]
    simp only [if_true, Route.response, Report.code, Report.body, Report.status, hhealthy, hhead]
    simp only [Report.of, decide_eq_true_eq]
    cases connections? <;> rfl
  · intro fault hended hone
    rcases (System.told_of_run hpast).ended fault hended with hgone | hzero
    · have hnothing : counts = [] := Inquiry.counts_of_gone hgone hrun
      simp [healthy, hnothing]
    · have hstill := Inquiry.feedConnected_run? hone hrun hzero
      simp [healthy, hstill]

/-- What is printed of one client, with the feed gone. -/
lemma printed_of_degraded {healthy : Bool} {counts : List Nat} {gauge : Int}
    (hdegraded : healthy = false) (hcounts : counts = [1]) (hgauge : gauge = 0)
    (timestamp : String) :
    Json.objectText
        [Json.member "component" (Json.quotedName "order-gateway"),
          Json.member "connections" ((counts.head?.map Text.decimal).getD "null"),
          Json.member "feed_connected" (if gauge = 1 then "true" else "false"),
          Json.member "status" (Json.quotedName (if healthy then "healthy" else "degraded")),
          Json.member "timestamp" (Json.quotedName timestamp)]
      = "\x7b\"component\":\"order-gateway\",\"connections\":1,\"feed_connected\":false,"
        ++ "\"status\":\"degraded\",\"timestamp\":\"" ++ timestamp ++ "\"\x7d" := by
  subst hdegraded hcounts hgauge
  have hone : Text.decimal 1 = "1" := by decide
  simp [Json.objectText, Json.member, Json.quotedName, hone, ← String.toList_inj]

/-- The loop of the bridge is over because the feed is closed, and the hub still answers that there
is one client.  Another one comes before the answer, and it is printed that all is not well. -/
theorem health_of_gateway_after_loss :
    let settings : Settings :=
      { route := .relay, queueCapacity := 4, writeWait := 10, pongWait := 60, pingPeriod := 50,
        pollBatch := 3, idleBackoff := { nanos := 5 } }
    let past : List Action :=
      [.newBridge, .connect none, .enter 0, .serve, .runBridge, .loseFeed, .bridge, .bridge,
        .bridge, .bridge]
    let moves : List (Option Action) :=
      [none, some (.connect none), some .serve, some (.enter 1), some .serve, none]
    ∃ s report t, System.run? past (.startOn settings .direct {}) = some s
      ∧ s.bridge.stage = .ended (.feedUnavailable "feed subscription closed")
      ∧ Inquiry.run? (moves ++ [none]) (.asking 7, s) = some (.answered report, t)
      ∧ t.hub.registry.length = 2
      ∧ Inquiry.counts 7 moves (.asking 7, s) = [1]
      ∧ ∀ timestamp, respond "GET" "/health?verbose" report timestamp t.hub.metrics =
        { code := 503
          contentType? := some "application/json"
          body := "\x7b\"component\":\"order-gateway\",\"connections\":1,\"feed_connected\":false,"
            ++ "\"status\":\"degraded\",\"timestamp\":\"" ++ timestamp ++ "\"\x7d" } := by
  intro settings past moves
  have hpast : System.run? past (.startOn settings .direct {}) = some _ := rfl
  have hothers : ∀ action, some action ∈ moves → action ≠ .request (.count 7) := by simp [moves]
  have htarget : Route.of? "/health?verbose" = some .health := by decide
  obtain ⟨-, hlook⟩ := health_of_gateway hpast rfl nofun hothers rfl
  obtain ⟨-, -, -, hresponse, hover⟩ := hlook _ _ rfl
  have hdegraded := hover Bridge.feedClosed rfl (by simp [moves])
  refine ⟨_, _, _, hpast, rfl, rfl, rfl, rfl, fun timestamp => ?_⟩
  refine (hresponse _ timestamp htarget).trans ((Response.mk.injEq ..).mpr ⟨?_, rfl, rfl, ?_⟩)
  · exact congrArg (fun healthy : Bool => if healthy then 200 else 503) hdegraded
  · exact printed_of_degraded hdegraded rfl rfl timestamp

end Main

end Health

end MarketGate
