import MarketGate.Proofs.System.Poll

/-!
# A poll without a hub

A bridge whose hub is gone can still be polled.  It takes its batch as ever, and as long as it comes
upon nothing that clients should see it goes on.  The first record that it would send ends the poll
with a fault; that record was counted by then, and what comes behind it in the batch is lost without
having been counted.

* `System.FeedOnly` says that a step touches the feed alone; `System.feedOnly_of_bridgeStep?` says
  so of the steps of a poll without a hub.
* `Bridge.Poll.of_unsent`: what a poll has come to that has sent nothing.
* **`System.poll_without_hub`**: what such a poll gives, takes, counts and leaves alone.
-/

namespace MarketGate

/-- Where there is no event record there is none to be found. -/
lemma Fragment.events_eq_nil_iff {fragments : List Bytes} :
    events fragments = [] ↔ ∀ f ∈ fragments, (event? f).isSome = false := by
  simp only [events, List.filterMap_eq_nil_iff, Option.isSome_eq_false_iff,
    Option.isNone_iff_eq_none]

/-- A poll that has sent nothing and is over has dealt with its batch up to the first fragment with
an event record, and if there is one it has failed. -/
lemma Bridge.Poll.of_unsent {b : Nat} {line late pending counted : List Bytes} {bridge : Bridge}
    (h : Poll b line late bridge.stage pending counted []) (hdone : bridge.isPolling = false) :
    let known := fun f => (Fragment.event? f).isSome
    let taken := line.take b
    bridge.stage = .polled (if taken.any known then .error .hubUnavailable
        else .ok { fragments := taken.length, broadcast := 0, dropped := taken.length })
      ∧ pending = line.drop b ++ late
      ∧ counted = taken.take (taken.findIdx known + 1) := by
  intro known taken
  unfold isPolling at hdone
  generalize hstage : bridge.stage = stage at h hdone
  generalize hsent : ([] : List Bytes) = sent at h
  cases h with
  | collecting | forwarding | sending => cases hdone
  | done =>
      have hnone : ∀ f ∈ taken, known f = false := Fragment.events_eq_nil_iff.1 hsent.symm
      have hany : taken.any known = false := by
        rw [List.any_eq_false]
        intro f hf
        simp [hnone f hf]
      have hlength : taken.findIdx known = taken.length := List.findIdx_eq_length.2 hnone
      have hdropped := Fragment.length_eq_countP taken
      rw [← Fragment.length_events, ← hsent, List.length_nil, Nat.zero_add] at hdropped
      refine ⟨?_, rfl, ?_⟩
      · rw [hany, if_neg Bool.false_ne_true, PollSummary.after, ← hsent, ← hdropped]
        rfl
      · rw [hlength, List.take_of_length_le (Nat.le_succ _)]
  | @failed _ dealt rest fragment record hbatch hevent =>
      have hnone : ∀ f ∈ dealt, known f = false := Fragment.events_eq_nil_iff.1 hsent.symm
      have hknown : known fragment = true := Option.isSome_of_eq_some hevent
      have hbatch' : taken = dealt ++ fragment :: rest := hbatch.symm
      have hany : taken.any known = true := by simp [hbatch', hknown]
      have hlength : dealt.findIdx known = dealt.length := List.findIdx_eq_length.2 hnone
      have hfirst : taken.findIdx known = dealt.length := by
        rw [hbatch', List.findIdx_append, if_neg, List.findIdx_cons, hknown]
        · exact Nat.zero_add _
        · rw [hlength]
          exact Nat.lt_irrefl _
      refine ⟨?_, rfl, ?_⟩
      · rw [hany, if_pos rfl]
      · rw [hfirst, hbatch', List.take_length_add_append]
        rfl

namespace System

/-- Nothing has changed but the bridge, its subscription and the counters of the feed: not the
registry, nor a connection or a queue, nor what the hub counts. -/
def FeedOnly (s s' : System) : Prop :=
  s' = { s with
    bridge := s'.bridge
    subscription := s'.subscription
    hub := { s.hub with
      metrics := { s.hub.metrics with fragments := s'.hub.metrics.fragments } } }

section FeedOnly

variable {s s₁ t : System} {actions : List Action}

/-- A poll without a hub touches the feed alone. -/
lemma feedOnly_of_bridgeStep? (hpolling : s.bridge.isPolling = true) (hgone : s.loop ≠ .running)
    (hstep : s.bridgeStep? = some t) : s.FeedOnly t := by
  unfold Bridge.isPolling at hpolling
  unfold bridgeStep? at hstep
  cases hstage : s.bridge.stage with
  | collecting taken budget =>
      rw [hstage] at hstep
      cases budget with
      | zero =>
          cases hstep
          rfl
      | succ budget =>
          dsimp only at hstep
          split at hstep
          · cases hstep
            rfl
          · cases hstep
            rfl
  | forwarding rest summary =>
      rw [hstage] at hstep
      cases rest with
      | nil =>
          cases hstep
          rfl
      | cons fragment rest =>
          cases hstep
          rfl
  | sending record rest summary =>
      rw [hstage] at hstep
      simp only [Option.bind_eq_bind, Option.bind_eq_some_iff] at hstep
      obtain ⟨⟨taken, s₁⟩, hsend, h⟩ := hstep
      rcases send?_eq_some hsend with ⟨hrun, -⟩ | ⟨-, rfl, rfl⟩
      · exact absurd hrun hgone
      · cases h
        rfl
  | _ =>
      rw [hstage] at hpolling
      cases hpolling

/-- A bridge sends nothing to a hub that is gone. -/
lemma sentBy_bridge_of_gone (hgone : s.loop ≠ .running) (hrun : run? actions s = some t) :
    sentBy .bridge actions s = [] := by
  refine run_induction (P := fun past _ => sentBy .bridge past s = []) rfl ?_ hrun
  intro past action u u' hpast hnothing hstep
  rw [sentBy_concat _ hpast hstep, hnothing, List.nil_append]
  cases action with
  | bridge =>
      obtain ⟨counted, sent, hbridged⟩ := of_bridgeStep? hstep
      rcases hbridged.turn.sent_cases with rfl | ⟨record, rfl, hloop⟩
      · simp [hbridged.mailbox]
      · exact absurd (running_run? hpast hloop) hgone
  | _ => rfl

/-- **A poll without a hub.**  The hub is gone when a bridge is polled by hand, and anything may
happen that leaves the bridge where it is.  Then the poll comes to its end by itself, from wherever
it stands, with no more than three steps for each fragment that it may take, and two.

When it is over it has failed if there is an event record in one of the fragments that it took, and
otherwise it has dropped them all.  Either way it took the first fragments in line, as many as
it may or as there were before its batch was complete; the others are left in their order, and what
came too late is behind them.  Counted are the fragments up to the first one with an event record,
with that one, or all of them.  And neither its start nor a step of it touches anything but the
bridge, its subscription and the counters of the feed. -/
theorem poll_without_hub (hgone : s.loop ≠ .running) (hstart : s.step? .pollOnce = some s₁)
    (hleaves : ∀ action ∈ actions, action.leavesBridge = true)
    (hrun : run? actions s₁ = some t) :
    let b := s.settings.pollBatch
    let available := s.subscription.pending ++ inTime actions s₁
    let taken := available.take b
    let known := fun f => (Fragment.event? f).isSome
    ((∃ n u, run? (List.replicate n .bridge) t = some u ∧ u.bridge.isPolling = false)
        ∧ actions.countP Action.isBridge ≤ 3 * b + 2)
      ∧ (t.bridge.isPolling = false →
        t.bridge.stage = .polled (if taken.any known then .error .hubUnavailable
            else .ok { fragments := taken.length, broadcast := 0, dropped := taken.length })
          ∧ t.subscription.pending = available.drop b ++ late actions s₁
          ∧ s.hub.metrics.fragments.Tallied (taken.take (taken.findIdx known + 1))
            t.hub.metrics.fragments)
      ∧ s.FeedOnly s₁
      ∧ ∀ past later u u', actions = past ++ .bridge :: later → run? past s₁ = some u →
          u.step? .bridge = some u' → u.FeedOnly u' := by
  intro b available taken known
  have hgone₁ : s₁.loop ≠ .running := fun h => hgone (running_step? hstart h)
  have hpoll := polls_of_run hstart hleaves hrun
  refine ⟨⟨?_, (Nat.le_add_right _ _).trans hpoll.effort⟩, fun hdone => ?_, ?_, ?_⟩
  · obtain ⟨later, u, hlater, hrest, hdone, -⟩ := exists_return t
    have hall : later = List.replicate later.length .bridge :=
      List.eq_replicate_iff.2 ⟨rfl, fun a ha => (hlater a ha).resolve_right fun hserve =>
        hgone₁ (running_run? hrun hserve.2)⟩
    exact ⟨later.length, u, hall ▸ hrest, hdone⟩
  · obtain ⟨counted, records, h, hfragments, hsent⟩ := hpoll.poll
    obtain rfl : records = [] := by
      rw [sentBy_bridge_of_gone hgone₁ hrun] at hsent
      exact List.map_eq_nil_iff.1 hsent.symm
    obtain ⟨hresult, hpending, rfl⟩ := h.of_unsent hdone
    refine ⟨hresult, hpending, ?_⟩
    rw [hfragments]
    exact FragmentCounts.tallied_foldl _ _
  · simp only [step?, startBridge?] at hstart
    split at hstart
    · cases hstart
      rfl
    · cases hstart
  · intro past later u u' hactions hpast hstep
    have hleaves' : ∀ action ∈ past, action.leavesBridge = true := fun a ha =>
      hleaves a (hactions ▸ List.mem_append_left _ ha)
    have hbefore := polls_of_run hstart hleaves' hpast
    obtain ⟨counted, records, h, -⟩ := hbefore.poll
    obtain ⟨counted', sent', hbridged⟩ := of_bridgeStep? hstep
    exact feedOnly_of_bridgeStep? (h.isPolling_of_turn hbefore.looping hbridged.turn)
      (fun hloop => hgone₁ (running_run? hpast hloop)) hstep

/-- A poll of three that comes upon an event in the middle of its batch.  Two fragments are counted,
the third one is lost uncounted, and what arrived too late is still there. -/
theorem poll_without_hub_of_event_amid :
    let s : System :=
      { settings :=
          { route := .relay, queueCapacity := 4, writeWait := 10, pongWait := 60, pingPeriod := 50,
            pollBatch := 3, idleBackoff := { nanos := 5 } }
        loop := .lost
        bridge := ⟨.ready, false⟩
        subscription := { pending := [[0, 1, 90], [0, 2, 65, 1]] } }
    let actions : List Action :=
      [.bridge, .inject [0, 0], .bridge, .bridge, .inject [0, 1, 69], .bridge, .bridge, .bridge,
        .bridge]
    s.loop ≠ .running ∧ ∃ s₁ t, s.step? .pollOnce = some s₁ ∧ run? actions s₁ = some t
      ∧ t.bridge.stage = .polled (.error .hubUnavailable)
      ∧ t.subscription.pending = [[0, 1, 69]]
      ∧ t.hub.metrics.fragments.unknown = 1
      ∧ t.hub.metrics.fragments.accepted = 1 := by
  intro s actions
  have hgone : s.loop ≠ .running := nofun
  have hleaves : ∀ action ∈ actions, action.leavesBridge = true := by decide
  obtain ⟨-, hpoll, -⟩ := poll_without_hub (s := s) hgone rfl hleaves rfl
  obtain ⟨hresult, hpending, hcounted⟩ := hpoll rfl
  exact ⟨hgone, _, _, rfl, rfl, hresult, hpending, hcounted.unknown, hcounted.accepted⟩

end FeedOnly

end System

end MarketGate
