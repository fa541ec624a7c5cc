import MarketGate.Proofs.System.Sides
import MarketGate.Proofs.System.Trace

/-!
# The loop of the bridge and the end of the feed

The bridge runs in a loop until the feed is closed.  Its far end may go away at any time, in the
middle of a batch or while the loop rests, and the two kinds of subscriptions learn of that in
different ways.  Nevertheless no fragment is left behind: a subscription is closed only when nothing
is in line, and the loop looks only between two batches whether it is closed.

* `Bridge.Stage.batch` and `Bridge.Stage.outgoing` are what a bridge has in its hands: fragments
  that it has not looked at, and a record that it is about to send.
* `Subscription.Honest`: a subscription that has come upon a loss was right, and has nothing left.
* `System.Sifted` is what holds at any time: the fragments that have arrived are those that were
  dealt with, the batch and the line, in this order, and those that were dealt with are counted and
  sent.  **`System.Sifted.step`**: the steps of a gateway keep it.
* **`feedClosed_of_ended`**: when the loop is over.
-/

namespace MarketGate

namespace Subscription

/-- What a subscription has noticed is true: its far end is gone, and nothing is left. -/
def Honest (s : Subscription) : Prop := s.noticed = true → s.lost = true ∧ s.pending = []

section Honest

variable {s : Subscription}

/-- A closed subscription has nothing left, and nothing comes any more. -/
lemma Honest.of_isClosed (h : s.Honest) (hclosed : s.isClosed = true) :
    s.lost = true ∧ s.pending = [] := by
  unfold isClosed at hclosed
  split at hclosed
  · rw [Bool.and_eq_true, List.isEmpty_iff] at hclosed
    exact hclosed
  · exact h hclosed

lemma Honest.poll (h : s.Honest) : s.poll.2.Honest := by
  unfold Subscription.poll
  split
  · next first rest hpending =>
      intro hnoticed
      have hnil := (h hnoticed).2
      rw [hpending] at hnil
      cases hnil
  · next hpending =>
      intro hnoticed
      rw [Bool.or_eq_true] at hnoticed
      rcases hnoticed with hbefore | hlost
      · exact h hbefore
      · exact ⟨hlost, hpending⟩

/-- The loss of the far end opens nothing that was closed. -/
lemma isClosed_lose (hclosed : s.isClosed = true) : s.lose.isClosed = true := by
  unfold isClosed lose at *
  cases hkind : s.kind <;> simp_all

end Honest

end Subscription

namespace Bridge

/-- The fragments that a bridge has taken from the feed and not yet looked at. -/
def Stage.batch : Stage → List Bytes
  | .collecting taken _ => taken
  | .forwarding rest _ | .sending _ rest _ => rest
  | _ => []

/-- The record that a bridge is about to send. -/
def Stage.outgoing : Stage → List Bytes
  | .sending record _ _ => [record]
  | _ => []

lemma batch_of_not_isPolling {b : Bridge} (h : b.isPolling = false) :
    b.stage.batch = [] ∧ b.stage.outgoing = [] := by
  unfold isPolling at h
  cases hstage : b.stage with
  | collecting | forwarding | sending => simp [hstage] at h
  | _ => exact ⟨rfl, rfl⟩

section Turn

variable {settings : Settings} {now : Nat} {b : Bridge} {feed feed' : Subscription}
  {counted sent : List Bytes} {stage : Stage}

/-- A loop that is over does nothing. -/
lemma Turn.ne_ended {loop : HubLoop} (h : Turn settings now loop b feed counted sent stage feed')
    (fault : Fault) : b.stage ≠ .ended fault := by
  cases h with
  | start hstage | full hstage | collect hstage | dry hstage | finish hstage | pick hstage
  | drop hstage | send hstage | refused hstage | again hstage | giveUp hstage | close hstage
  | rest hstage | wake hstage =>
      rw [hstage]
      exact Stage.noConfusion

/-- **With a running hub no step of the bridge loses a fragment**: it is dealt with, in the batch or
in line. -/
lemma Turn.fragments (h : Turn settings now .running b feed counted sent stage feed') :
    b.stage.batch ++ feed.pending = counted ++ stage.batch ++ feed'.pending := by
  cases h with
  | collect hstage hpending =>
      rw [hstage]
      simp [Stage.batch, Subscription.poll, hpending]
  | dry hstage hpending =>
      rw [hstage]
      simp [Stage.batch, Subscription.poll, hpending]
  | refused hstage hloop => exact absurd rfl hloop
  | start hstage | full hstage | finish hstage | pick hstage | drop hstage | send hstage
  | again hstage | giveUp hstage | close hstage | rest hstage | wake hstage =>
      rw [hstage]
      rfl

/-- The event record in a fragment that is dealt with is sent next. -/
lemma Turn.records (h : Turn settings now .running b feed counted sent stage feed') :
    b.stage.outgoing ++ Fragment.events counted = sent ++ stage.outgoing := by
  cases h with
  | pick hstage hrecord | drop hstage hrecord =>
      rw [hstage]
      rw [Fragment.record?_eq] at hrecord
      simp [Stage.outgoing, Fragment.events, hrecord]
  | refused hstage hloop => exact absurd rfl hloop
  | start hstage | full hstage | collect hstage | dry hstage | finish hstage | send hstage
  | again hstage | giveUp hstage | close hstage | rest hstage | wake hstage =>
      rw [hstage]
      rfl

lemma Turn.honest {loop : HubLoop} (h : Turn settings now loop b feed counted sent stage feed')
    (hfeed : feed.Honest) : feed'.Honest := by
  cases h with
  | collect | dry => exact hfeed.poll
  | _ => exact hfeed

/-- With a running hub no poll fails. -/
lemma Turn.ne_failed (h : Turn settings now .running b feed counted sent stage feed')
    (fault : Fault) : stage ≠ .polled (.error fault) := by
  cases h with
  | refused hstage hloop => exact absurd rfl hloop
  | _ => nofun

/-- A loop whose polls do not fail ends only when the feed is closed. -/
lemma Turn.of_ended {loop : HubLoop} (h : Turn settings now loop b feed counted sent stage feed')
    (hpolls : ∀ fault, b.stage ≠ .polled (.error fault)) {fault : Fault}
    (hended : stage = .ended fault) :
    fault = feedClosed ∧ feed'.isClosed = true ∧ b.looping = true := by
  cases h with
  | giveUp hstage => exact absurd hstage (hpolls _)
  | close hstage hlooping hnone hclosed =>
      cases hended
      exact ⟨rfl, hclosed, hlooping⟩
  | _ => cases hended

end Turn

end Bridge

/-- Whether an action leaves the loop of the bridge alone: nobody takes the bridge away or puts
another in the place of one that polls or loops, and nothing comes from a far end that is gone. -/
def Action.sparesLoop (action : Action) (s : System) : Bool :=
  match action with
  | .inject _ => !s.subscription.lost
  | .detach => false
  | .newBridge => !s.bridge.looping && !s.bridge.isPolling
  | _ => true

lemma Action.of_not_touchesFeed (action : Action) (h : action.touchesFeed = false) :
    action.fragment? = none ∧ action.sender ≠ .bridge := by
  cases action with
  | inject | loseFeed | detach | newBridge | pollOnce | runBridge | bridge =>
      exact Bool.noConfusion h
  | _ => exact ⟨rfl, Sender.noConfusion⟩

namespace System

/-- What the bridge has made of the fragments that have arrived, when it has sent some requests. -/
structure Sifted (arrived : List Bytes) (sent : List Command) (s : System) : Prop where
  /-- Some fragments were dealt with, each counted once, and their records were sent; the others
  wait. -/
  dealt : ∃ dealt, arrived = dealt ++ s.bridge.stage.batch ++ s.subscription.pending
    ∧ ({} : FragmentCounts).Tallied dealt s.hub.metrics.fragments
    ∧ (Fragment.events dealt).map Command.broadcast
      = sent ++ s.bridge.stage.outgoing.map Command.broadcast
  honest : s.subscription.Honest
  polls : ∀ fault, s.bridge.stage ≠ .polled (.error fault)
  live : s.bridge.stage ≠ .absent → (∀ fault, s.bridge.stage ≠ .ended fault) →
    s.hub.metrics.feedConnected = 1
  ended : ∀ fault, s.bridge.stage = .ended fault → fault = Bridge.feedClosed
    ∧ s.subscription.isClosed = true ∧ s.bridge.looping = true ∧ s.hub.metrics.feedConnected = 0

section Sifted

variable {s s' : System} {arrived : List Bytes} {sent : List Command}

/-- What is not about the feed changes nothing. -/
lemma Sifted.of_keepsFeed (h : s.Sifted arrived sent) (hkeeps : s.KeepsFeed s') :
    s'.Sifted arrived sent := by
  obtain ⟨-, hbridge, hsubscription, hfragments, hgauge, -⟩ := hkeeps
  constructor
  · rw [hbridge, hsubscription, hfragments]
    exact h.dealt
  · rw [hsubscription]
    exact h.honest
  · rw [hbridge]
    exact h.polls
  · rw [hbridge, hgauge]
    exact h.live
  · rw [hbridge, hsubscription, hgauge]
    exact h.ended

/-- A fragment arrives at the end of the line. -/
lemma Sifted.inject (h : s.Sifted arrived sent) (hthere : s.subscription.lost = false)
    (fragment : Bytes) :
    ({ s with subscription := s.subscription.push fragment } : System).Sifted
      (arrived ++ [fragment]) sent := by
  obtain ⟨dealt, harrived, hcounts, hsent⟩ := h.dealt
  refine ⟨⟨dealt, ?_, hcounts, hsent⟩, ?_, h.polls, h.live, ?_⟩
  · rw [harrived, List.append_assoc, Subscription.push]
  · intro hnoticed
    rw [(h.honest hnoticed).1] at hthere
    cases hthere
  · intro fault hended
    have hclosed := (h.ended fault hended).2.1
    rw [(h.honest.of_isClosed hclosed).1] at hthere
    cases hthere

lemma Sifted.lose (h : s.Sifted arrived sent) :
    ({ s with subscription := s.subscription.lose } : System).Sifted arrived sent := by
  refine ⟨h.dealt, fun hnoticed => ⟨rfl, (h.honest hnoticed).2⟩, h.polls, h.live, ?_⟩
  intro fault hended
  obtain ⟨hfault, hclosed, hrest⟩ := h.ended fault hended
  exact ⟨hfault, Subscription.isClosed_lose hclosed, hrest⟩

/-- A new bridge takes the feed to be live. -/
lemma Sifted.newBridge (h : s.Sifted arrived sent) (hidle : s.bridge.isPolling = false) :
    s.newBridge.Sifted arrived sent := by
  obtain ⟨dealt, harrived, hcounts, hsent⟩ := h.dealt
  obtain ⟨hbatch, houtgoing⟩ := Bridge.batch_of_not_isPolling hidle
  rw [hbatch] at harrived
  rw [houtgoing] at hsent
  exact ⟨⟨dealt, harrived, hcounts, hsent⟩, h.honest, nofun, fun _ _ => rfl, nofun⟩

lemma Sifted.of_started (h : s.Sifted arrived sent) {looping : Bool}
    (hstart : s.startBridge? looping = some s') : s'.Sifted arrived sent := by
  unfold startBridge? at hstart
  split at hstart
  · next hready =>
      cases hstart
      obtain ⟨dealt, harrived, hcounts, hsent⟩ := h.dealt
      have hlive := h.live (by rw [hready]; nofun) (by rw [hready]; nofun)
      rw [hready] at harrived hsent
      cases looping with
      | false =>
          exact ⟨⟨dealt, harrived, hcounts, hsent⟩, h.honest, nofun, fun _ _ => hlive, nofun⟩
      | true =>
          exact ⟨⟨dealt, harrived, hcounts, hsent⟩, h.honest, nofun, fun _ _ => hlive, nofun⟩
  · cases hstart

/-- The bridge deals with fragments in their order, and says that the feed is gone when its loop
ends. -/
lemma Sifted.of_bridgeStep? (h : s.Sifted arrived sent) (hloop : s.loop = .running)
    (hstep : s.bridgeStep? = some s') :
    s'.Sifted arrived (sent ++ s'.mailbox.drop s.mailbox.length) := by
  obtain ⟨counted, records, hbridged⟩ := System.of_bridgeStep? hstep
  have hturn := hbridged.turn
  rw [hloop] at hturn
  obtain ⟨dealt, harrived, hcounts, hsent⟩ := h.dealt
  constructor
  · refine ⟨dealt ++ counted, ?_, ?_, ?_⟩
    · rw [harrived, List.append_assoc, hturn.fragments]
      simp only [List.append_assoc]
    · rw [hbridged.fragments]
      exact hcounts.append (FragmentCounts.tallied_foldl _ counted)
    · rw [hbridged.mailbox, List.drop_left, Fragment.events_append, List.map_append, hsent,
        List.append_assoc, List.append_assoc, ← List.map_append, ← List.map_append, hturn.records]
  · exact hturn.honest h.honest
  · exact hturn.ne_failed
  all_goals
    obtain ⟨bridge, feed, fragments, gauge, mailbox, notices, rfl, hgauge⟩ := bridgeStep?_eq hstep
  · intro _ hgoes
    rcases hgauge with ⟨hsame, -⟩ | ⟨-, hended⟩
    · exact hsame.trans (h.live hturn.ne_absent hturn.ne_ended)
    · exact absurd hended (hgoes _)
  · intro fault hended
    obtain ⟨hfault, hclosed, hlooping⟩ := hturn.of_ended h.polls hended
    refine ⟨hfault, hclosed, hbridged.looping.trans hlooping, ?_⟩
    rcases hgauge with ⟨-, hfailed⟩ | ⟨hzero, -⟩
    · exact absurd (hfailed fault hended) (h.polls fault)
    · exact hzero

/-- **No step of a gateway leaves a fragment behind**, as long as the loop is left alone. -/
theorem Sifted.step (h : s.Sifted arrived sent) {action : Action}
    (hspares : action.sparesLoop s = true) (hstep : s.step? action = some s')
    (hloop : s.loop = .running) :
    s'.Sifted (arrived ++ action.fragment?.toList)
      (sent ++ if action.sender = .bridge then s'.mailbox.drop s.mailbox.length else []) := by
  -- a step in which nothing arrives and the bridge sends nothing
  have same {s₁ : System} (hs₁ : s₁.Sifted arrived sent) :
      s₁.Sifted (arrived ++ (none : Option Bytes).toList) (sent ++ []) := by
    rw [Option.toList_none, List.append_nil, List.append_nil]
    exact hs₁
  cases hfeed : action.touchesFeed with
  | false =>
      have hkept := h.of_keepsFeed (keepsFeed_step? hfeed hstep)
      obtain ⟨hnothing, hother⟩ := action.of_not_touchesFeed hfeed
      rw [hnothing, if_neg hother]
      exact same hkept
  | true =>
      cases action with
      | inject fragment =>
          cases hstep
          rw [Action.sparesLoop, Bool.not_eq_true'] at hspares
          have hinjected := h.inject hspares fragment
          rw [← List.append_nil sent] at hinjected
          exact hinjected
      | loseFeed =>
          cases hstep
          exact same h.lose
      | detach => exact Bool.noConfusion hspares
      | newBridge =>
          simp only [step?] at hstep
          split_ifs at hstep
          cases hstep
          rw [Action.sparesLoop, Bool.and_eq_true, Bool.not_eq_true', Bool.not_eq_true'] at hspares
          exact same (h.newBridge hspares.2)
      | pollOnce => exact same (h.of_started hstep)
      | runBridge => exact same (h.of_started hstep)
      | bridge =>
          have hsifted := h.of_bridgeStep? hloop hstep
          rw [← List.append_nil arrived] at hsifted
          exact hsifted
      | _ => exact Bool.noConfusion hfeed

end Sifted

section Run

variable {settings : Settings} {kind : Subscription.Kind} {forwarder : Forwarder}
  {actions : List Action} {t : System}

/-- In the course of a run no fragment is left behind. -/
lemma sifted_of_run
    (hspares : follows Action.sparesLoop actions (startOn settings kind forwarder) = true)
    (hrun : run? actions (startOn settings kind forwarder) = some t)
    (hloop : t.loop = .running) :
    t.Sifted (arrivals actions) (sentBy .bridge actions (startOn settings kind forwarder)) := by
  refine run_induction (P := fun past u =>
    follows Action.sparesLoop past (startOn settings kind forwarder) = true → u.loop = .running →
      u.Sifted (arrivals past) (sentBy .bridge past (startOn settings kind forwarder)))
    ?_ ?_ hrun hspares hloop
  · intro _ _
    exact ⟨⟨[], rfl, FragmentCounts.tallied_nil _, rfl⟩, nofun, nofun,
      fun habsent => absurd rfl habsent, nofun⟩
  · intro past action u u' hpast ih hstep hfollows hloop'
    rw [follows_concat hpast, Bool.and_eq_true] at hfollows
    have hloop : u.loop = .running := running_step? hstep hloop'
    rw [arrivals_concat, sentBy_concat _ hpast hstep]
    exact (ih hfollows.1 hloop).step hfollows.2 hstep hloop

/-- **The loop of the bridge returns when the feed is closed, and leaves nothing behind.**  Take any
run of a gateway with a subscription of either kind in which the loop is left alone and the hub is
there in the end.  What the bridge has sent is a beginning of the event records that have arrived,
in the order of their arrival, and the gauge of the feed is 1 while the bridge is there and its loop
is not over.  If the loop is over, then with the fault that the subscription is closed, and the
gauge is 0.  By then the feed is closed, its far end is gone and nothing is in line, each fragment
that has arrived was counted once under its label, and all event records were sent. -/
theorem feedClosed_of_ended (settings : Settings) (kind : Subscription.Kind)
    (forwarder : Forwarder) (actions : List Action) (t : System)
    (hspares : follows Action.sparesLoop actions (startOn settings kind forwarder) = true)
    (hrun : run? actions (startOn settings kind forwarder) = some t)
    (hloop : t.loop = .running) :
    let records := (Fragment.events (arrivals actions)).map Command.broadcast
    let sent := sentBy .bridge actions (startOn settings kind forwarder)
    sent <+: records
      ∧ (t.bridge.stage ≠ .absent → (∀ fault, t.bridge.stage ≠ .ended fault) →
        t.hub.metrics.feedConnected = 1)
      ∧ ∀ fault, t.bridge.stage = .ended fault →
        fault = .feedUnavailable "feed subscription closed" ∧ t.hub.metrics.feedConnected = 0
          ∧ t.subscription.isClosed = true ∧ t.subscription.lost = true
          ∧ t.subscription.pending = []
          ∧ ({} : FragmentCounts).Tallied (arrivals actions) t.hub.metrics.fragments
          ∧ sent = records := by
  intro records sent
  have hsifted : t.Sifted (arrivals actions) sent := sifted_of_run hspares hrun hloop
  obtain ⟨dealt, harrived, hcounts, hsent⟩ := hsifted.dealt
  refine ⟨?_, hsifted.live, ?_⟩
  · have hdealt : (Fragment.events dealt).map Command.broadcast <+: records := by
      simp only [records, harrived, List.append_assoc, Fragment.events_append, List.map_append]
      exact List.prefix_append _ _
    rw [hsent] at hdealt
    exact (List.prefix_append _ _).trans hdealt
  · intro fault hended
    obtain ⟨hfault, hclosed, -, hgauge⟩ := hsifted.ended fault hended
    obtain ⟨hlost, hnothing⟩ := hsifted.honest.of_isClosed hclosed
    rw [hended, hnothing] at harrived
    have hall : arrivals actions = dealt := by
      simpa only [Bridge.Stage.batch, List.append_nil] using harrived
    refine ⟨hfault, hgauge, hclosed, hlost, hnothing, ?_, ?_⟩
    · rw [hall]
      exact hcounts
    · rw [hended] at hsent
      have hrecords : records = sent ++ [] := by
        rw [← hall] at hsent
        exact hsent
      rw [hrecords, List.append_nil]

/-- The far end goes away in the middle of a batch that is not full, behind a buffer. -/
theorem feedClosed_of_loss_in_batch :
    let settings : Settings :=
      { route := .relay, queueCapacity := 4, writeWait := 10, pongWait := 60, pingPeriod := 50,
        pollBatch := 3, idleBackoff := { nanos := 5 } }
    let s := startOn settings .buffered {}
    let actions : List Action :=
      [.newBridge, .runBridge, .bridge, .bridge, .bridge, .bridge, .inject [0, 2, 65, 1],
        .inject [0, 1, 88], .advance 5, .bridge, .bridge, .inject [0, 1, 69], .loseFeed, .bridge,
        .bridge, .bridge, .bridge, .bridge, .bridge, .bridge, .bridge, .bridge, .bridge, .bridge,
        .bridge, .bridge]
    ∃ t, run? actions s = some t
      ∧ t.bridge.stage = .ended (.feedUnavailable "feed subscription closed")
      ∧ t.hub.metrics.feedConnected = 0
      ∧ sentBy .bridge actions s = [.broadcast [65, 1], .broadcast [69]]
      ∧ t.hub.metrics.fragments.unknown = 1 := by
  intro settings s actions
  obtain ⟨-, -, hended⟩ := feedClosed_of_ended settings .buffered {} actions _ (by decide) rfl rfl
  obtain ⟨-, hgauge, -, -, -, hcounts, hsent⟩ := hended _ rfl
  exact ⟨_, rfl, rfl, hgauge, hsent, hcounts.unknown⟩

end Run

end System

end MarketGate
