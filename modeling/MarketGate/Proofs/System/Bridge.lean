import MarketGate.Proofs.Feed.Pull
import MarketGate.Proofs.Hub.Event
import MarketGate.System

/-!
# The steps of the feed bridge

The bridge moves fragments from the feed to the hub in three places: it collects a batch, deals with
the batch fragment by fragment, and sends the records in it.  What it does in one step depends only
on its own state, on the feed and on whether the hub runs.

* `Bridge.Turn` lists the steps of the bridge by what they need and do, with the fragments that are
  counted in them and the records that are sent.
* `System.Bridged` says what such a step is in a gateway.
* **`System.of_bridgeStep?`**: the bridge of a gateway takes no other steps.
* **`System.run?_collecting`**: undisturbed, it collects what a pull on its subscription collects.
-/

namespace MarketGate

/-- The steps of a bridge: what was counted, what was sent, and where the bridge and the feed stand
afterwards. -/
inductive Bridge.Turn (settings : Settings) (now : Nat) (loop : HubLoop) (b : Bridge)
    (feed : Subscription) : List Bytes → List Bytes → Bridge.Stage → Subscription → Prop
  | start (hstage : b.stage = .starting) :
      Turn settings now loop b feed [] [] (.collecting [] settings.pollBatch) feed
  | full {taken : List Bytes} (hstage : b.stage = .collecting taken 0) :
      Turn settings now loop b feed [] [] (.forwarding taken { fragments := taken.length }) feed
  | collect {taken rest : List Bytes} {fragment : Bytes} {budget : Nat}
      (hstage : b.stage = .collecting taken (budget + 1))
      (hpending : feed.pending = fragment :: rest) :
      Turn settings now loop b feed [] [] (.collecting (taken ++ [fragment]) budget) feed.poll.2
  | dry {taken : List Bytes} {budget : Nat} (hstage : b.stage = .collecting taken (budget + 1))
      (hpending : feed.pending = []) :
      Turn settings now loop b feed [] [] (.forwarding taken { fragments := taken.length })
        feed.poll.2
  | finish {summary : PollSummary} (hstage : b.stage = .forwarding [] summary) :
      Turn settings now loop b feed [] [] (.polled (.ok summary)) feed
  | pick {fragment record : Bytes} {rest : List Bytes} {summary : PollSummary}
      (hstage : b.stage = .forwarding (fragment :: rest) summary)
      (hrecord : Fragment.record? fragment = some record) :
      Turn settings now loop b feed [fragment] [] (.sending record rest summary) feed
  | drop {fragment : Bytes} {rest : List Bytes} {summary : PollSummary}
      (hstage : b.stage = .forwarding (fragment :: rest) summary)
      (hrecord : Fragment.record? fragment = none) :
      Turn settings now loop b feed [fragment] []
        (.forwarding rest { summary with dropped := summary.dropped + 1 }) feed
  | send {record : Bytes} {rest : List Bytes} {summary : PollSummary}
      (hstage : b.stage = .sending record rest summary) (hloop : loop = .running) :
      Turn settings now loop b feed [] [record]
        (.forwarding rest { summary with broadcast := summary.broadcast + 1 }) feed
  | refused {record : Bytes} {rest : List Bytes} {summary : PollSummary}
      (hstage : b.stage = .sending record rest summary) (hloop : loop ≠ .running) :
      Turn settings now loop b feed [] [] (.polled (.error .hubUnavailable)) feed
  | again {summary : PollSummary} (hstage : b.stage = .polled (.ok summary))
      (hlooping : b.looping = true) (hsome : summary.fragments ≠ 0) :
      Turn settings now loop b feed [] [] (.collecting [] settings.pollBatch) feed
  | giveUp {fault : Fault} (hstage : b.stage = .polled (.error fault))
      (hlooping : b.looping = true) :
      Turn settings now loop b feed [] [] (.ended fault) feed
  | close {summary : PollSummary} (hstage : b.stage = .polled (.ok summary))
      (hlooping : b.looping = true) (hnone : summary.fragments = 0)
      (hclosed : feed.isClosed = true) :
      Turn settings now loop b feed [] [] (.ended Bridge.feedClosed) feed
  | rest {summary : PollSummary} (hstage : b.stage = .polled (.ok summary))
      (hlooping : b.looping = true) (hnone : summary.fragments = 0)
      (hclosed : feed.isClosed = false) :
      Turn settings now loop b feed [] [] (.resting (now + settings.idleBackoff.nanos)) feed
  | wake {time : Nat} (hstage : b.stage = .resting time) (hdue : time ≤ now) :
      Turn settings now loop b feed [] [] (.collecting [] settings.pollBatch) feed

/-- A bridge sends one record at a time, and only to a running hub. -/
lemma Bridge.Turn.sent_cases {settings : Settings} {now : Nat} {loop : HubLoop} {b : Bridge}
    {feed feed' : Subscription} {counted sent : List Bytes} {stage : Bridge.Stage}
    (h : Turn settings now loop b feed counted sent stage feed') :
    sent = [] ∨ ∃ record, sent = [record] ∧ loop = .running := by
  cases h with
  | send hstage hloop => exact Or.inr ⟨_, rfl, hloop⟩
  | _ => exact Or.inl rfl

namespace System

/-- Nothing has changed for pumps and their clients but the mailbox. -/
structure Still (s s' : System) : Prop where
  settings : s'.settings = s.settings
  loop : s'.loop = s.loop
  nextId : s'.nextId = s.nextId
  pumps : s'.pumps = s.pumps
  registry : s'.hub.registry = s.hub.registry
  connections : s'.hub.connections = s.hub.connections
  queues : s'.hub.queues = s.hub.queues
  activeConnections : s'.hub.metrics.activeConnections = s.hub.metrics.activeConnections
  broadcasts : s'.hub.metrics.broadcasts = s.hub.metrics.broadcasts

/-- A request is taken while the hub runs and has room, and discarded once it is gone. -/
lemma send?_eq_some {s s' : System} {command : Command} {taken : Bool}
    (h : s.send? command = some (taken, s')) :
    (s.loop = .running ∧ s.mailbox.length < mailboxCapacity ∧ taken = true
        ∧ s' = { s with mailbox := s.mailbox ++ [command] })
      ∨ (s.loop ≠ .running ∧ taken = false ∧ s' = s.onHub (Hub.discard command)) := by
  unfold send? at h
  split at h
  · next hloop =>
      split_ifs at h with hroom
      cases h
      exact Or.inl ⟨hloop, hroom, rfl, rfl⟩
  · next hloop =>
      cases h
      exact Or.inr ⟨by simp [hloop], rfl, rfl⟩
  · next hloop =>
      cases h
      exact Or.inr ⟨by simp [hloop], rfl, rfl⟩

/-- What a step of the bridge is in a gateway. -/
structure Bridged (s s' : System) (counted sent : List Bytes) : Prop extends s.Still s' where
  turn : Bridge.Turn s.settings s.now s.loop s.bridge s.subscription counted sent s'.bridge.stage
    s'.subscription
  looping : s'.bridge.looping = s.bridge.looping
  attached : s'.attached = s.attached
  mailbox : s'.mailbox = s.mailbox ++ sent.map Command.broadcast
  room : sent ≠ [] → s.mailbox.length < mailboxCapacity
  fragments : s'.hub.metrics.fragments
    = counted.foldl (fun m f => m.increment (EventKind.ofFragment f)) s.hub.metrics.fragments

/-- **The bridge of a gateway takes no other steps.** -/
theorem of_bridgeStep? {s s' : System} (h : s.bridgeStep? = some s') :
    ∃ counted sent, s.Bridged s' counted sent := by
  -- a step that sends nothing
  have quiet {counted : List Bytes} {s₁ : System}
      (hturn : Bridge.Turn s.settings s.now s.loop s.bridge s.subscription counted []
        s₁.bridge.stage s₁.subscription)
      (hstill : s.Still s₁) (hlooping : s₁.bridge.looping = s.bridge.looping)
      (hattached : s₁.attached = s.attached) (hmailbox : s₁.mailbox = s.mailbox)
      (hfragments : s₁.hub.metrics.fragments
        = counted.foldl (fun m f => m.increment (EventKind.ofFragment f)) s.hub.metrics.fragments) :
      ∃ counted sent, s.Bridged s₁ counted sent :=
    ⟨counted, [], hstill, hturn, hlooping, hattached, by simpa using hmailbox, nofun, hfragments⟩
  unfold bridgeStep? at h
  split at h
  · cases h
  · cases h
  · cases h
  · next hstage =>
      cases h
      exact quiet (.start hstage) (by constructor <;> rfl) rfl rfl rfl rfl
  · next taken hstage =>
      cases h
      exact quiet (.full hstage) (by constructor <;> rfl) rfl rfl rfl rfl
  · next taken budget hstage =>
      cases hpending : s.subscription.pending with
      | nil =>
          have hpoll : s.subscription.poll = (none, s.subscription.poll.2) := by
            simp [Subscription.poll, hpending]
          rw [hpoll] at h
          cases h
          exact quiet (.dry hstage hpending) (by constructor <;> rfl) rfl rfl rfl rfl
      | cons fragment rest =>
          have hpoll : s.subscription.poll = (some fragment, s.subscription.poll.2) := by
            simp [Subscription.poll, hpending]
          rw [hpoll] at h
          cases h
          exact quiet (.collect hstage hpending) (by constructor <;> rfl) rfl rfl rfl rfl
  · next summary hstage =>
      cases h
      exact quiet (.finish hstage) (by constructor <;> rfl) rfl rfl rfl rfl
  · next fragment rest summary hstage =>
      cases h
      cases hrecord : Fragment.record? fragment with
      | none => exact quiet (.drop hstage hrecord) (by constructor <;> rfl) rfl rfl rfl rfl
      | some record => exact quiet (.pick hstage hrecord) (by constructor <;> rfl) rfl rfl rfl rfl
  · next record rest summary hstage =>
      simp only [Option.bind_eq_bind, Option.bind_eq_some_iff] at h
      obtain ⟨⟨taken, s₁⟩, hsend, h⟩ := h
      cases h
      rcases send?_eq_some hsend with ⟨hrun, hroom, rfl, rfl⟩ | ⟨hgone, rfl, rfl⟩
      · exact ⟨[], [record], by constructor <;> rfl, .send hstage hrun, rfl, rfl, rfl,
          fun _ => hroom, rfl⟩
      · exact quiet (.refused hstage hgone) (by constructor <;> rfl) rfl rfl rfl rfl
  · next result hstage =>
      by_cases hlooping : s.bridge.looping = true
      · simp only [hlooping, Bool.not_true, Bool.false_eq_true, if_false] at h
        cases result with
        | error fault =>
            cases h
            exact quiet (.giveUp hstage hlooping) (by constructor <;> rfl) rfl rfl rfl rfl
        | ok summary =>
            by_cases hnone : summary.fragments = 0
            · simp only [hnone, ne_eq, not_true_eq_false, if_false] at h
              split at h
              · next hclosed =>
                  cases h
                  exact quiet (.close hstage hlooping hnone hclosed) (by constructor <;> rfl) rfl
                    rfl rfl rfl
              · next hclosed =>
                  cases h
                  exact quiet (.rest hstage hlooping hnone (by simpa using hclosed))
                    (by constructor <;> rfl) rfl rfl rfl rfl
            · simp only [hnone, ne_eq, not_false_eq_true, if_true] at h
              cases h
              exact quiet (.again hstage hlooping hnone) (by constructor <;> rfl) rfl rfl rfl rfl
      · simp [hlooping] at h
  · next time hstage =>
      split_ifs at h with hdue
      cases h
      exact quiet (.wake hstage hdue) (by constructor <;> rfl) rfl rfl rfl rfl

section Collecting

variable {s : System} {taken : List Bytes} {budget : Nat}

/-- A step of a bridge that collects is a call to a pull on its subscription. -/
lemma bridgeStep?_collecting (hstage : s.bridge.stage = .collecting taken budget) :
    s.bridgeStep? = some
      (match (s.subscription.fragments budget).next with
      | (some fragment, f) =>
        { s with subscription := f.source }.setBridge
          (.collecting (taken ++ [fragment]) f.remaining)
      | (none, f) =>
        { s with subscription := f.source }.setBridge
          (.forwarding taken { fragments := taken.length })) := by
  cases budget with
  | zero => simp only [bridgeStep?, hstage, Subscription.fragments, Fragments.next]
  | succ budget =>
      cases hpending : s.subscription.pending <;>
        simp [bridgeStep?, hstage, Subscription.fragments, Fragments.next, Subscription.poll_eq,
          hpending]

/-- **A bridge collects by a pull.**  If nothing comes in between then its batch is what a pull on
its subscription with the same budget collects, and the subscription is left as the pull leaves
it. -/
theorem run?_collecting (hstage : s.bridge.stage = .collecting taken budget) :
    let pull := (s.subscription.fragments budget).collect
    let batch := taken ++ pull.1
    run? (List.replicate (pull.1.length + 1) .bridge) s
      = some ({ s with subscription := pull.2.source }.setBridge
          (.forwarding batch { fragments := batch.length })) := by
  intro pull batch
  induction budget using Nat.strongRecOn generalizing s taken with
  | ind budget ih =>
      have hstep : s.step? .bridge = s.bridgeStep? := rfl
      rw [bridgeStep?_collecting hstage] at hstep
      generalize hnext : (s.subscription.fragments budget).next = called at hstep
      obtain ⟨result, f⟩ := called
      cases result with
      | none =>
          have hpull : pull = ([], f) := Fragments.collect_of_none hnext
          simp [batch, hpull, run?, hstep]
      | some fragment =>
          have hpull : pull = (fragment :: f.collect.1, f.collect.2) :=
            Fragments.collect_of_some hnext
          have hless : f.remaining < budget :=
            Nat.lt_of_succ_le (Nat.le_of_eq (Fragments.remaining_of_next hnext).symm)
          have hbatch : batch = taken ++ [fragment] ++ f.collect.1 := by simp [batch, hpull]
          rw [hbatch, hpull, List.length_cons, List.replicate_succ, run?, hstep, Option.bind_some]
          exact ih f.remaining hless rfl

end Collecting

end System

end MarketGate
