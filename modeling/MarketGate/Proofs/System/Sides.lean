import MarketGate.Proofs.Hub.Counters
import MarketGate.Proofs.System.Run

/-!
# The two sides of a gateway

A gateway has two sides besides its clients: the feed, with the bridge and the counters that go with
it, and the orders, with the publication that they go to and their counters.  Each action touches
one of the sides at most, and most touch neither.  Whoever follows one side through a run has to
look only at the actions that touch it.

* `Metrics.outsideHub` are the metrics that are none of the hub's business;
  **`Hub.outsideHub_apply`**: no command changes them.
* `System.KeepsFeed` and `System.KeepsOrders` say that a side is as it was.
* `System.bridgeStep?_eq` is what a step of the bridge changes at all, and when it sets the gauge of
  the feed.
* `System.Reads` sorts the moves of a reader by what becomes of the message that it has at hand.
  **`System.reads_of_read?`**: there are no other moves.
* **`System.keepsFeed_step?`** and **`System.keepsOrders_step?`**: which actions leave a side alone.
-/

namespace MarketGate

/-- The metrics without those that the hub itself keeps. -/
def Metrics.outsideHub (m : Metrics) : Metrics :=
  { m with
    activeConnections := 0, registrations := 0, backpressureDisconnects := 0, broadcasts := 0 }

namespace Hub

section Metrics

variable (h : Hub)

lemma outsideHub_register (r : Registration) :
    (h.register r).metrics.outsideHub = h.metrics.outsideHub := by
  unfold register
  split
  · rfl
  · split_ifs <;> rfl

lemma outsideHub_unregister (id : Nat) :
    (h.unregister id).metrics.outsideHub = h.metrics.outsideHub := by
  unfold unregister
  split <;> rfl

lemma outsideHub_broadcast (payload : Bytes) :
    (h.broadcast payload).metrics.outsideHub = h.metrics.outsideHub :=
  foldl_unregister (P := fun k => k.metrics.outsideHub = h.metrics.outsideHub)
    (fun k id hk => (outsideHub_unregister k id).trans hk) (h.fanOut payload).refused rfl

/-- **No command changes what is none of the hub's business.** -/
theorem outsideHub_apply (command : Command) :
    (h.apply command).metrics.outsideHub = h.metrics.outsideHub := by
  cases command with
  | register r => exact outsideHub_register h r
  | unregister id => exact outsideHub_unregister h id
  | broadcast payload => exact outsideHub_broadcast h payload
  | count ticket => rfl

lemma outsideHub_stop : h.stop.metrics.outsideHub = h.metrics.outsideHub := by
  rw [metrics_stop]
  rfl

lemma metrics_discard (command : Command) : (h.discard command).metrics = h.metrics := by
  cases command <;> rfl

/-- A hub that is lost leaves its metrics as they were. -/
lemma metrics_lose (mailbox : List Command) : (h.lose mailbox).metrics = h.metrics := by
  have hdiscard := metrics_foldl h (fun h c => h.discard c) metrics_discard mailbox
  exact (metrics_foldl _ (fun h (e : Nat × Registration) => h.onQueue e.2.queue Queue.dropSender)
    (fun _ _ => rfl) _).trans hdiscard

end Metrics

end Hub

/-- Whether an action is about the feed. -/
def Action.touchesFeed : Action → Bool
  | .inject _ | .loseFeed | .detach | .newBridge | .pollOnce | .runBridge | .bridge => true
  | _ => false

/-- Whether an action may be about orders. -/
def Action.touchesOrders : Action → Bool
  | .setConnected _ | .setBackPressured _ | .drain | .read .. => true
  | _ => false

namespace System

/-- A gateway that has just been started, with a subscription of a kind and a publication. -/
def startOn (settings : Settings) (kind : Subscription.Kind) (forwarder : Forwarder) : System :=
  { start settings with subscription := { kind }, forwarder }

lemma wired_startOn (settings : Settings) (kind : Subscription.Kind) (forwarder : Forwarder) :
    (startOn settings kind forwarder).Wired :=
  let h := wired_start settings
  ⟨h.hub, h.nextId, h.pump, h.mailbox, h.gone⟩

/-- The side of the feed is as it was, and if the hub is there, it was there. -/
structure KeepsFeed (s s' : System) : Prop where
  settings : s'.settings = s.settings
  bridge : s'.bridge = s.bridge
  subscription : s'.subscription = s.subscription
  fragments : s'.hub.metrics.fragments = s.hub.metrics.fragments
  feedConnected : s'.hub.metrics.feedConnected = s.hub.metrics.feedConnected
  running : s'.loop = .running → s.loop = .running

/-- The side of the orders is as it was. -/
structure KeepsOrders (s s' : System) : Prop where
  settings : s'.settings = s.settings
  forwarder : s'.forwarder = s.forwarder
  outcomes : s'.hub.metrics.outcomes = s.hub.metrics.outcomes
  malformed : s'.hub.metrics.malformed = s.hub.metrics.malformed

/-- Both sides are as they were. -/
structure KeepsSides (s s' : System) : Prop extends s.KeepsFeed s', s.KeepsOrders s'

section Sides

variable {s s' : System}

lemma KeepsSides.of_outsideHub (hsettings : s'.settings = s.settings)
    (hbridge : s'.bridge = s.bridge) (hsubscription : s'.subscription = s.subscription)
    (hforwarder : s'.forwarder = s.forwarder)
    (hmetrics : s'.hub.metrics.outsideHub = s.hub.metrics.outsideHub)
    (hrunning : s'.loop = .running → s.loop = .running) : s.KeepsSides s' where
  settings := hsettings
  bridge := hbridge
  subscription := hsubscription
  fragments := (congrArg Metrics.fragments hmetrics :)
  feedConnected := (congrArg Metrics.feedConnected hmetrics :)
  running := hrunning
  forwarder := hforwarder
  outcomes := (congrArg Metrics.outcomes hmetrics :)
  malformed := (congrArg Metrics.malformed hmetrics :)

lemma KeepsSides.trans {s'' : System} (h : s.KeepsSides s') (h' : s'.KeepsSides s'') :
    s.KeepsSides s'' where
  settings := h'.settings.trans h.settings
  bridge := h'.bridge.trans h.bridge
  subscription := h'.subscription.trans h.subscription
  fragments := h'.fragments.trans h.fragments
  feedConnected := h'.feedConnected.trans h.feedConnected
  running hloop := h.running (h'.running hloop)
  forwarder := h'.forwarder.trans h.forwarder
  outcomes := h'.outcomes.trans h.outcomes
  malformed := h'.malformed.trans h.malformed

/-- A request to the hub touches neither side. -/
lemma keepsSides_send? {command : Command} {taken : Bool}
    (h : s.send? command = some (taken, s')) : s.KeepsSides s' := by
  rcases send?_eq_some h with ⟨-, -, -, rfl⟩ | ⟨-, -, rfl⟩
  · exact .of_outsideHub rfl rfl rfl rfl rfl id
  · exact .of_outsideHub rfl rfl rfl rfl
      (congrArg Metrics.outsideHub (Hub.metrics_discard s.hub command)) id

/-- Most actions touch neither side. -/
theorem keepsSides_step? {action : Action} (hfeed : action.touchesFeed = false)
    (horders : action.touchesOrders = false) (hstep : s.step? action = some s') :
    s.KeepsSides s' := by
  cases action with
  | advance nanos =>
      cases hstep
      exact .of_outsideHub rfl rfl rfl rfl rfl id
  | connect peer =>
      simp only [step?] at hstep
      split_ifs at hstep
      cases hstep
      exact .of_outsideHub rfl rfl rfl rfl rfl id
  | request command =>
      simp only [step?] at hstep
      split_ifs at hstep
      obtain ⟨⟨taken, s₁⟩, hsend, rfl⟩ := Option.map_eq_some_iff.1 hstep
      exact keepsSides_send? hsend
  | loseHub =>
      cases hstep
      unfold loseHub
      split
      · exact .of_outsideHub rfl rfl rfl rfl
          (congrArg Metrics.outsideHub (Hub.metrics_lose s.hub s.mailbox)) (by simp)
      · exact .of_outsideHub rfl rfl rfl rfl rfl id
      · exact .of_outsideHub rfl rfl rfl rfl rfl id
  | serve =>
      simp only [step?, serve?] at hstep
      split at hstep
      · next command rest hloop hmailbox =>
          cases hstep
          exact .of_outsideHub rfl rfl rfl rfl (Hub.outsideHub_apply s.hub command) id
      · cases hstep
  | stopHub =>
      simp only [step?, stopHub?] at hstep
      split_ifs at hstep with hcond
      cases hstep
      exact .of_outsideHub rfl rfl rfl rfl (Hub.outsideHub_stop s.hub) fun _ => hcond.1
  | enter p =>
      simp only [step?, enter?, Option.bind_eq_bind, Option.bind_eq_some_iff] at hstep
      obtain ⟨pump, -, conn, -, h⟩ := hstep
      split_ifs at h
      obtain ⟨⟨taken, s₁⟩, hsend, h⟩ := Option.bind_eq_some_iff.1 h
      have hsent := keepsSides_send? hsend
      cases taken with
      | false =>
          cases h
          exact hsent.trans (.of_outsideHub rfl rfl rfl rfl rfl id)
      | true =>
          cases h
          exact hsent.trans (.of_outsideHub rfl rfl rfl rfl rfl id)
  | leave p =>
      simp only [step?, leave?, Option.bind_eq_bind, Option.bind_eq_some_iff] at hstep
      obtain ⟨pump, -, h⟩ := hstep
      split_ifs at h
      cases h
      exact .of_outsideHub rfl rfl rfl rfl rfl id
  | write p move =>
      simp only [step?, write?, Option.bind_eq_bind, Option.bind_eq_some_iff] at hstep
      obtain ⟨pump, -, conn, -, queue, -, after, -, h⟩ := hstep
      cases h
      exact .of_outsideHub rfl rfl rfl rfl rfl id
  | setConnected value | setBackPressured value | drain | read p move =>
      exact Bool.noConfusion horders
  | inject fragment | loseFeed | detach | newBridge | pollOnce | runBridge | bridge =>
      exact Bool.noConfusion hfeed

/-- What a step of the bridge changes, and when it sets the gauge of the feed. -/
lemma bridgeStep?_eq (h : s.bridgeStep? = some s') :
    ∃ (bridge : Bridge) (subscription : Subscription) (fragments : FragmentCounts)
      (feedConnected : Int) (mailbox : List Command) (notices : List Notice),
      s' = { s with
        hub := { s.hub with metrics := { s.hub.metrics with fragments, feedConnected } }
        mailbox
        bridge
        subscription
        notices }
      ∧ (feedConnected = s.hub.metrics.feedConnected
          ∧ (∀ fault, bridge.stage = .ended fault → s.bridge.stage = .polled (.error fault))
        ∨ feedConnected = 0 ∧ bridge.stage = .ended Bridge.feedClosed) := by
  unfold bridgeStep? at h
  split at h
  · cases h
  · cases h
  · cases h
  · cases h
    exact ⟨_, _, _, _, _, _, rfl, Or.inl ⟨rfl, nofun⟩⟩
  · cases h
    exact ⟨_, _, _, _, _, _, rfl, Or.inl ⟨rfl, nofun⟩⟩
  · split at h
    · cases h
      exact ⟨_, _, _, _, _, _, rfl, Or.inl ⟨rfl, nofun⟩⟩
    · cases h
      exact ⟨_, _, _, _, _, _, rfl, Or.inl ⟨rfl, nofun⟩⟩
  · cases h
    exact ⟨_, _, _, _, _, _, rfl, Or.inl ⟨rfl, nofun⟩⟩
  · next fragment rest summary hstage =>
      cases h
      refine ⟨_, _, _, _, _, _, rfl, Or.inl ⟨rfl, ?_⟩⟩
      cases hrecord : Fragment.record? fragment <;> exact nofun
  · simp only [Option.bind_eq_bind, Option.bind_eq_some_iff] at h
    obtain ⟨⟨taken, s₁⟩, hsend, h⟩ := h
    cases h
    rcases send?_eq_some hsend with ⟨-, -, rfl, rfl⟩ | ⟨-, rfl, rfl⟩
    · exact ⟨_, _, _, _, _, _, rfl, Or.inl ⟨rfl, nofun⟩⟩
    · exact ⟨_, _, _, _, _, _, rfl, Or.inl ⟨rfl, nofun⟩⟩
  · next result hstage =>
      cases result with
      | error fault =>
          dsimp only at h
          split_ifs at h
          cases h
          refine ⟨_, _, _, _, _, _, rfl, Or.inl ⟨rfl, ?_⟩⟩
          intro fault' hended
          cases hended
          exact hstage
      | ok summary =>
          dsimp only at h
          split_ifs at h
          · cases h
            exact ⟨_, _, _, _, _, _, rfl, Or.inl ⟨rfl, nofun⟩⟩
          · cases h
            exact ⟨_, _, _, _, _, _, rfl, Or.inr ⟨rfl, rfl⟩⟩
          · cases h
            exact ⟨_, _, _, _, _, _, rfl, Or.inl ⟨rfl, nofun⟩⟩
  · split_ifs at h
    cases h
    exact ⟨_, _, _, _, _, _, rfl, Or.inl ⟨rfl, nofun⟩⟩

end Sides

end System

/-! ## Readers -/

namespace Reader

/-- The message that a reader has at hand. -/
def Stage.message? : Stage → Option Bytes
  | .relaying data _ | .publishing data _ => some data
  | _ => none

/-- The message that a move brings. -/
def Move.message? : Move → Option Bytes
  | .receive (.binary data) => some data
  | _ => none

/-- Whether readers get into a stage on a route. -/
def Stage.goesBy (route : Route) : Stage → Bool
  | .relaying .. => route = .relay
  | .publishing .. => route = .orderEntry
  | _ => true

section Receiving

variable (route : Route) (pongWait now deadline : Nat) (incoming : Incoming)

lemma Stage.message?_afterReceiving :
    (afterReceiving route pongWait now deadline incoming).message?
      = (Move.receive incoming).message? := by
  cases incoming with
  | binary data => cases route <;> rfl
  | _ => rfl

lemma Stage.goesBy_afterReceiving :
    (afterReceiving route pongWait now deadline incoming).goesBy route = true := by
  cases incoming with
  | binary data => cases route <;> rfl
  | _ => rfl

end Receiving

end Reader

namespace System

/-- The moves of the reader at a position, by what becomes of the message that it has at hand. -/
inductive Reads (s : System) (p : Nat) (stage : Reader.Stage) : Reader.Move → System → Prop
  /-- The message is sent on to the hub. -/
  | relay {data : Bytes} {deadline : Nat} (hstage : stage = .relaying data deadline)
      (hloop : s.loop = .running) :
      Reads s p stage .proceed
        (({ s with mailbox := s.mailbox ++ [.broadcast data] } : System).setReader p
          (.waiting deadline))
  | relayRefused {data : Bytes} {deadline : Nat} (hstage : stage = .relaying data deadline)
      (hloop : s.loop ≠ .running) :
      Reads s p stage .proceed (s.setReader p (.claiming .hubUnavailable))
  /-- The message is dealt with as an order. -/
  | publish {data : Bytes} {deadline : Nat} (number : Nat)
      (hstage : stage = .publishing data deadline) :
      Reads s p stage .proceed ((s.publishOrder number data).setReader p (.waiting deadline))
  /-- There was no message, and there is one afterwards if the move brings it. -/
  | turn {move : Reader.Move} {stage' : Reader.Stage} {s' : System} (hidle : stage ≠ .idle)
      (hbefore : stage.message? = none) (hafter : stage'.message? = move.message?)
      (hroute : stage'.goesBy s.settings.route = true)
      (hpumps : s'.pumps = s.pumps.modify p fun pump => { pump with reader := ⟨stage'⟩ })
      (hsides : s.KeepsSides s')
      (hmailbox : s'.mailbox = s.mailbox ∨ ∃ id, s'.mailbox = s.mailbox ++ [.unregister id]) :
      Reads s p stage move s'

section Reads

variable {s s' : System} {p : Nat}

/-- **A reader makes no other moves.** -/
theorem reads_of_read? {move : Reader.Move} (h : s.read? p move = some s') :
    ∃ pump, s.pumps[p]? = some pump ∧ s.Reads p pump.reader.stage move s' := by
  simp only [read?, Option.bind_eq_bind, Option.bind_eq_some_iff] at h
  obtain ⟨pump, hpump, conn, -, h⟩ := h
  refine ⟨pump, hpump, ?_⟩
  -- a move that reaches neither the hub nor the feed
  have turn {before stage : Reader.Stage} {s₁ : System} (hstage : pump.reader.stage = before)
      (hidle : before ≠ .idle) (hbefore : before.message? = none)
      (hafter : stage.message? = move.message?)
      (hroute : stage.goesBy s.settings.route = true)
      (hpumps : s₁.pumps = s.pumps.modify p fun pump => { pump with reader := ⟨stage⟩ })
      (hmailbox : s₁.mailbox = s.mailbox) (hsides : s.KeepsSides s₁) :
      s.Reads p pump.reader.stage move s₁ :=
    .turn (hstage ▸ hidle) (hstage ▸ hbefore) hafter hroute hpumps hsides (Or.inl hmailbox)
  split at h
  · next hstage =>
      cases h
      exact turn hstage Reader.Stage.noConfusion rfl rfl rfl rfl rfl
        (.of_outsideHub rfl rfl rfl rfl rfl id)
  · next deadline incoming hstage =>
      have hafter := Reader.Stage.message?_afterReceiving s.settings.route s.settings.pongWait s.now
        deadline incoming
      have hroute := Reader.Stage.goesBy_afterReceiving s.settings.route s.settings.pongWait s.now
        deadline incoming
      split_ifs at h
      · cases h
        exact turn hstage Reader.Stage.noConfusion rfl hafter hroute rfl rfl
          (.of_outsideHub rfl rfl rfl rfl rfl id)
      · cases h
        exact turn hstage Reader.Stage.noConfusion rfl hafter hroute rfl rfl
          (.of_outsideHub rfl rfl rfl rfl rfl id)
  · next deadline hstage =>
      split_ifs at h
      cases h
      exact turn hstage Reader.Stage.noConfusion rfl rfl rfl rfl rfl
        (.of_outsideHub rfl rfl rfl rfl rfl id)
  · next deadline hstage =>
      split_ifs at h
      cases h
      exact turn hstage Reader.Stage.noConfusion rfl rfl rfl rfl rfl
        (.of_outsideHub rfl rfl rfl rfl rfl id)
  · next data deadline hstage =>
      obtain ⟨⟨taken, s₁⟩, hsend, h⟩ := Option.bind_eq_some_iff.1 h
      cases h
      rcases send?_eq_some hsend with ⟨hrun, -, rfl, rfl⟩ | ⟨hgone, rfl, rfl⟩
      · exact .relay hstage hrun
      · exact .relayRefused hstage hgone
  · next data deadline hstage =>
      cases h
      exact .publish conn.id hstage
  · next reason hstage =>
      cases h
      refine turn hstage Reader.Stage.noConfusion rfl ?_ ?_ rfl rfl
        (.of_outsideHub rfl rfl rfl rfl rfl id) <;> (split_ifs <;> rfl)
  · next reason hstage =>
      cases h
      refine turn hstage Reader.Stage.noConfusion rfl ?_ ?_ rfl rfl
        (.of_outsideHub rfl rfl rfl rfl rfl id) <;> (split_ifs <;> rfl)
  · next reason hstage =>
      cases h
      exact turn hstage Reader.Stage.noConfusion rfl rfl rfl rfl rfl
        (.of_outsideHub rfl rfl rfl rfl rfl id)
  · next reason hstage =>
      cases h
      exact turn hstage Reader.Stage.noConfusion rfl rfl rfl rfl rfl
        (.of_outsideHub rfl rfl rfl rfl rfl id)
  · next reason hstage =>
      obtain ⟨⟨taken, s₁⟩, hsend, h⟩ := Option.bind_eq_some_iff.1 h
      rcases send?_eq_some hsend with ⟨-, -, rfl, rfl⟩ | ⟨-, rfl, rfl⟩
      · cases h
        exact .turn (hstage ▸ Reader.Stage.noConfusion) (hstage ▸ rfl) rfl rfl rfl
          (.of_outsideHub rfl rfl rfl rfl rfl id) (Or.inr ⟨conn.id, rfl⟩)
      · cases h
        exact turn hstage Reader.Stage.noConfusion rfl rfl rfl rfl rfl
          (.of_outsideHub rfl rfl rfl rfl rfl id)
  · cases h

/-- A reader leaves the side of the feed alone. -/
lemma Reads.keepsFeed {stage : Reader.Stage} {move : Reader.Move} (h : s.Reads p stage move s') :
    s.KeepsFeed s' := by
  cases h with
  | relay | relayRefused => exact ⟨rfl, rfl, rfl, rfl, rfl, id⟩
  | @publish data _ number =>
      obtain ⟨outcomes, malformed, forwarder, notices, heq⟩ := publishOrder_eq number data s
      rw [heq]
      exact ⟨rfl, rfl, rfl, rfl, rfl, id⟩
  | turn hidle hbefore hafter hroute hpumps hsides => exact hsides.toKeepsFeed

/-- Actions that are not about the feed leave its side alone. -/
theorem keepsFeed_step? {action : Action} (hfeed : action.touchesFeed = false)
    (hstep : s.step? action = some s') : s.KeepsFeed s' := by
  cases horders : action.touchesOrders with
  | false => exact (keepsSides_step? hfeed horders hstep).toKeepsFeed
  | true =>
      cases action with
      | read p move =>
          obtain ⟨pump, -, hreads⟩ := reads_of_read? hstep
          exact hreads.keepsFeed
      | setConnected value | setBackPressured value | drain =>
          cases hstep
          exact ⟨rfl, rfl, rfl, rfl, rfl, id⟩
      | _ => exact Bool.noConfusion horders

/-- Actions that are not about orders leave their side alone. -/
theorem keepsOrders_step? {action : Action} (horders : action.touchesOrders = false)
    (hstep : s.step? action = some s') : s.KeepsOrders s' := by
  cases hfeed : action.touchesFeed with
  | false => exact (keepsSides_step? hfeed horders hstep).toKeepsOrders
  | true =>
      cases action with
      | inject fragment | loseFeed | detach =>
          cases hstep
          exact ⟨rfl, rfl, rfl, rfl⟩
      | newBridge =>
          simp only [step?] at hstep
          split_ifs at hstep
          cases hstep
          exact ⟨rfl, rfl, rfl, rfl⟩
      | pollOnce | runBridge =>
          simp only [step?, startBridge?] at hstep
          split at hstep
          · cases hstep
            exact ⟨rfl, rfl, rfl, rfl⟩
          · cases hstep
      | bridge =>
          obtain ⟨bridge, subscription, fragments, feedConnected, mailbox, notices, rfl, -⟩ :=
            bridgeStep?_eq hstep
          exact ⟨rfl, rfl, rfl, rfl⟩
      | _ => exact Bool.noConfusion hfeed

/-- A hub that is gone does not come back. -/
lemma running_step? {action : Action} (hstep : s.step? action = some s')
    (hloop : s'.loop = .running) : s.loop = .running := by
  cases hfeed : action.touchesFeed with
  | false => exact (keepsFeed_step? hfeed hstep).running hloop
  | true =>
      cases action with
      | inject fragment | loseFeed | detach =>
          cases hstep
          exact hloop
      | newBridge =>
          simp only [step?] at hstep
          split_ifs at hstep
          cases hstep
          exact hloop
      | pollOnce | runBridge =>
          simp only [step?, startBridge?] at hstep
          split at hstep
          · cases hstep
            exact hloop
          · cases hstep
      | bridge =>
          obtain ⟨counted, sent, hbridged⟩ := of_bridgeStep? hstep
          exact hbridged.loop ▸ hloop
      | _ => exact Bool.noConfusion hfeed

end Reads

end System

end MarketGate
