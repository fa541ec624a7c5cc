import Mathlib.Algebra.GroupWithZero.Nat
import MarketGate.Proofs.System.Census
import MarketGate.Proofs.System.FeedLoop
import MarketGate.Proofs.System.Progress

/-!
# One poll of the feed

A poll first takes its batch and then deals with it, fragment by fragment, while the rest of the
gateway goes on.  What it takes depends on nothing but the line: fragments that arrive before the
batch is complete are still in time, later ones wait for the next poll.  What it does with a
fragment depends on nothing but the fragment.  So a poll accounts for a beginning of the line, and
several polls account for what one larger poll would have taken.

* `Bridge.Poll` says for each stage of a poll what it has made of the line so far.
  **`Bridge.Poll.turn`**: the steps of the bridge keep it.
* `Bridge.Stage.effort` bounds how many steps are left; **`System.exists_return`**: a poll
  that is in progress can always be brought to its end.
* `System.Polls` is what holds in the course of a run, and **`System.polls_of_run`** says that it
  does.
* **`System.accounts_of_poll`**: what one poll does, and what several do.
-/

namespace MarketGate

/-- What a poll that has taken `n` fragments says when it has dealt with some of them. -/
def PollSummary.after (n : Nat) (dealt : List Bytes) : PollSummary :=
  { fragments := n
    broadcast := (Fragment.events dealt).length
    dropped := dealt.countP fun f => (Fragment.event? f).isNone }

/-- What several polls say, added up. -/
def PollSummary.total (summaries : List PollSummary) : PollSummary :=
  { fragments := (summaries.map PollSummary.fragments).sum
    broadcast := (summaries.map PollSummary.broadcast).sum
    dropped := (summaries.map PollSummary.dropped).sum }

lemma Fragment.length_events (fragments : List Bytes) :
    (events fragments).length = fragments.countP fun f => (event? f).isSome :=
  List.length_filterMap_eq_countP

/-- There is an event record in a fragment or there is none. -/
lemma Fragment.length_eq_countP (fragments : List Bytes) :
    fragments.length = (fragments.countP fun f => (event? f).isSome)
      + fragments.countP fun f => (event? f).isNone := by
  rw [List.length_eq_countP_add_countP fun f => (event? f).isSome]
  congr 2
  funext fragment
  cases event? fragment <;> rfl

/-- Whether an action leaves the bridge where it is. -/
def Action.leavesBridge : Action → Bool
  | .detach | .newBridge => false
  | _ => true

/-- Whether an action is a step of the bridge. -/
def Action.isBridge : Action → Bool
  | .bridge => true
  | _ => false

namespace Bridge

/-- Whether a batch is being taken. -/
def isCollecting (b : Bridge) : Bool :=
  match b.stage with
  | .collecting .. => true
  | _ => false

/-- The most steps that a poll has still to make. -/
def Stage.effort : Stage → Nat
  | .collecting taken budget => 2 * taken.length + 3 * budget + 2
  | .forwarding rest _ => 2 * rest.length + 1
  | .sending _ rest _ => 2 * rest.length + 2
  | _ => 0

/-- Where a poll stands that may take `b` fragments.  In line were the fragments `line` before the
batch was complete, and `late` came after that.  Given are the stage, what is left in line, the
fragments that were counted, and the records that were sent. -/
inductive Poll (b : Nat) (line : List Bytes) :
    (late : List Bytes) → Stage → (pending counted sent : List Bytes) → Prop
  | collecting {taken pending : List Bytes} {budget : Nat} (hline : taken ++ pending = line)
      (hbudget : taken.length + budget = b) :
      Poll b line [] (.collecting taken budget) pending [] []
  | forwarding {late dealt rest : List Bytes} (hbatch : dealt ++ rest = line.take b) :
      Poll b line late (.forwarding rest (.after (line.take b).length dealt)) (line.drop b ++ late)
        dealt (Fragment.events dealt)
  | sending {late dealt rest : List Bytes} {fragment record : Bytes}
      (hbatch : dealt ++ fragment :: rest = line.take b)
      (hevent : Fragment.event? fragment = some record) :
      Poll b line late (.sending record rest (.after (line.take b).length dealt))
        (line.drop b ++ late) (dealt ++ [fragment]) (Fragment.events dealt)
  | done {late : List Bytes} :
      Poll b line late (.polled (.ok (.after (line.take b).length (line.take b))))
        (line.drop b ++ late) (line.take b) (Fragment.events (line.take b))
  | failed {late dealt rest : List Bytes} {fragment record : Bytes}
      (hbatch : dealt ++ fragment :: rest = line.take b)
      (hevent : Fragment.event? fragment = some record) :
      Poll b line late (.polled (.error .hubUnavailable)) (line.drop b ++ late)
        (dealt ++ [fragment]) (Fragment.events dealt)

section Poll

variable {settings : Settings} {now b : Nat} {loop : HubLoop} {bridge : Bridge}
  {feed feed' : Subscription} {stage : Stage}
  {line late pending counted counted' sent sent' : List Bytes}

/-- A poll that has taken all that it may, or all that there is, goes on to deal with it. -/
lemma Poll.of_batch {taken : List Bytes} (hbatch : taken = line.take b)
    (hpending : pending = line.drop b) :
    Poll b line [] (.forwarding taken { fragments := taken.length }) pending [] [] := by
  have h : Poll b line [] (.forwarding taken (.after (line.take b).length [])) (line.drop b ++ [])
      [] (Fragment.events []) := .forwarding (by rw [List.nil_append, hbatch])
  rw [List.append_nil, ← hpending, ← hbatch] at h
  exact h

/-- **The steps of the bridge keep account of the line.** -/
theorem Poll.turn (h : Poll b line late bridge.stage feed.pending counted sent)
    (hlooping : bridge.looping = false)
    (hturn : Turn settings now loop bridge feed counted' sent' stage feed') :
    Poll b line late stage feed'.pending (counted ++ counted') (sent ++ sent') := by
  cases hturn with
  | full hstage =>
      rw [hstage] at h
      generalize feed.pending = pending at h ⊢
      cases h with
      | collecting hline hbudget =>
          rw [Nat.add_zero] at hbudget
          refine .of_batch ?_ ?_
          · rw [← hline, ← hbudget, List.take_left]
          · rw [← hline, ← hbudget, List.drop_left]
  | @collect taken rest fragment budget hstage hpending =>
      rw [hstage, hpending] at h
      have hrest : feed.poll.2.pending = rest := by simp [Subscription.poll, hpending]
      rw [hrest]
      cases h with
      | collecting hline hbudget =>
          refine .collecting ?_ ?_
          · rw [List.append_assoc]
            exact hline
          · rw [List.length_append, List.length_singleton]
            omega
  | @dry taken budget hstage hpending =>
      rw [hstage, hpending] at h
      have hrest : feed.poll.2.pending = [] := by simp [Subscription.poll, hpending]
      rw [hrest]
      cases h with
      | collecting hline hbudget =>
          rw [List.append_nil] at hline
          subst hline
          refine .of_batch (List.take_of_length_le ?_).symm (List.drop_of_length_le ?_).symm <;>
            omega
  | finish hstage =>
      rw [hstage] at h
      generalize feed.pending = pending at h ⊢
      cases h with
      | forwarding hbatch =>
          rw [List.append_nil] at hbatch
          subst hbatch
          simpa using Poll.done
  | pick hstage hrecord =>
      rw [hstage] at h
      rw [Fragment.record?_eq] at hrecord
      generalize feed.pending = pending at h ⊢
      cases h with
      | forwarding hbatch =>
          rw [List.append_nil]
          exact .sending hbatch hrecord
  | @drop fragment rest summary hstage hrecord =>
      rw [hstage] at h
      rw [Fragment.record?_eq] at hrecord
      generalize feed.pending = pending at h ⊢
      cases h with
      | forwarding hbatch =>
          have hnext : Poll b line late (.forwarding rest (.after (line.take b).length
              (counted ++ [fragment]))) (line.drop b ++ late) (counted ++ [fragment])
              (Fragment.events (counted ++ [fragment])) :=
            .forwarding (by rw [List.append_assoc]; exact hbatch)
          simpa [PollSummary.after, Fragment.events, hrecord] using hnext
  | @send record rest summary hstage hloop =>
      rw [hstage] at h
      generalize feed.pending = pending at h ⊢
      cases h with
      | @sending _ dealt _ fragment _ hbatch hevent =>
          have hnext : Poll b line late (.forwarding rest (.after (line.take b).length
              (dealt ++ [fragment]))) (line.drop b ++ late) (dealt ++ [fragment])
              (Fragment.events (dealt ++ [fragment])) :=
            .forwarding (by rw [List.append_assoc]; exact hbatch)
          simpa [PollSummary.after, Fragment.events, hevent] using hnext
  | refused hstage hloop =>
      rw [hstage] at h
      generalize feed.pending = pending at h ⊢
      cases h with
      | sending hbatch hevent =>
          rw [List.append_nil, List.append_nil]
          exact .failed hbatch hevent
  | start hstage | wake hstage =>
      rw [hstage] at h
      cases h
  | again hstage hloops | giveUp hstage hloops | close hstage hloops | rest hstage hloops =>
      rw [hlooping] at hloops
      cases hloops

/-- A fragment that arrives is in time as long as the batch is being taken. -/
lemma Poll.push (h : Poll b line late bridge.stage pending counted sent) (fragment : Bytes) :
    Poll b (line ++ if bridge.isCollecting then [fragment] else [])
      (late ++ if bridge.isCollecting then [] else [fragment])
      bridge.stage (pending ++ [fragment]) counted sent := by
  unfold isCollecting
  generalize bridge.stage = stage at h ⊢
  cases h with
  | collecting hline hbudget =>
      refine .collecting ?_ hbudget
      rw [← List.append_assoc, hline]
      rfl
  | forwarding hbatch =>
      simp only [Bool.false_eq_true, if_false, List.append_nil, List.append_assoc]
      exact .forwarding hbatch
  | sending hbatch hevent =>
      simp only [Bool.false_eq_true, if_false, List.append_nil, List.append_assoc]
      exact .sending hbatch hevent
  | done =>
      simp only [Bool.false_eq_true, if_false, List.append_nil, List.append_assoc]
      exact .done
  | failed hbatch hevent =>
      simp only [Bool.false_eq_true, if_false, List.append_nil, List.append_assoc]
      exact .failed hbatch hevent

/-- Every step of a poll brings it nearer to its end. -/
lemma Turn.effort_lt (h : Turn settings now loop bridge feed counted sent stage feed')
    (hpolling : bridge.isPolling = true) : stage.effort < bridge.stage.effort := by
  unfold isPolling at hpolling
  cases h with
  | collect hstage =>
      rw [hstage]
      simp only [Stage.effort, List.length_append, List.length_singleton]
      omega
  | full hstage | dry hstage | finish hstage | pick hstage | drop hstage | send hstage
  | refused hstage =>
      rw [hstage]
      simp only [Stage.effort, List.length_cons]
      omega
  | start hstage | again hstage | giveUp hstage | close hstage | rest hstage | wake hstage =>
      rw [hstage] at hpolling
      cases hpolling

/-- A poll by hand makes a step only while it is in progress. -/
lemma Poll.isPolling_of_turn (h : Poll b line late bridge.stage pending counted sent)
    (hlooping : bridge.looping = false)
    (hturn : Turn settings now loop bridge feed counted' sent' stage feed') :
    bridge.isPolling = true := by
  unfold isPolling
  cases hturn with
  | start hstage | wake hstage =>
      rw [hstage] at h
      cases h
  | again hstage hloops | giveUp hstage hloops | close hstage hloops | rest hstage hloops =>
      rw [hlooping] at hloops
      cases hloops
  | full hstage | collect hstage | dry hstage | finish hstage | pick hstage | drop hstage
  | send hstage | refused hstage =>
      rw [hstage]

end Poll

end Bridge

/-! ## Polls of a gateway -/

namespace System

/-- The fragments that arrive in the course of a run in states of some kind, in their order. -/
def arrivedWhile (kind : System → Bool) : List Action → System → List Bytes :=
  trace fun action s _ => if kind s then action.fragment?.toList else []

/-- The fragments that arrive while the bridge is taking a batch. -/
def inTime : List Action → System → List Bytes := arrivedWhile fun s => s.bridge.isCollecting

/-- The fragments that arrive while it is not. -/
def late : List Action → System → List Bytes := arrivedWhile fun s => !s.bridge.isCollecting

/-- What holds of a gateway in the course of a poll that may take `b` fragments and began in `s₀`,
when the bridge has made some steps and sent some requests. -/
structure Polls (s : System) (b : Nat) (s₀ : System) (inTime late : List Bytes)
    (sent : List Command) (steps : Nat) : Prop where
  poll : ∃ counted records, Bridge.Poll b (s₀.subscription.pending ++ inTime) late s.bridge.stage
      s.subscription.pending counted records
    ∧ s.hub.metrics.fragments
      = counted.foldl (fun m f => m.increment (EventKind.ofFragment f)) s₀.hub.metrics.fragments
    ∧ sent = records.map Command.broadcast
  looping : s.bridge.looping = false
  effort : steps + s.bridge.stage.effort ≤ 3 * b + 2
  failed : ∀ fault, s.bridge.stage = .polled (.error fault) → s.loop ≠ .running

section Polls

variable {b steps : Nat} {s₀ s s₁ t : System} {before after : List Bytes} {sent : List Command}
  {actions : List Action}

/-- A poll begins with nothing in its hands. -/
lemma polls_of_start (hstart : s.step? .pollOnce = some s₁) :
    s₁.Polls s.settings.pollBatch s [] [] [] 0 := by
  simp only [step?, startBridge?] at hstart
  split at hstart
  · cases hstart
    refine ⟨⟨[], [], .collecting ?_ (Nat.zero_add _), rfl, rfl⟩, rfl, ?_,
      fun _ => Bridge.Stage.noConfusion⟩
    · rw [List.nil_append, List.append_nil]
    · simp [Bridge.Stage.effort]
  · cases hstart

/-- A step of the bridge. -/
lemma Polls.bridge (h : s.Polls b s₀ before after sent steps) (hstep : s.bridgeStep? = some t) :
    t.Polls b s₀ before after (sent ++ t.mailbox.drop s.mailbox.length) (steps + 1) := by
  obtain ⟨counted, records, hpoll, hfragments, hsent⟩ := h.poll
  obtain ⟨counted', records', hbridged⟩ := of_bridgeStep? hstep
  have hturn := hbridged.turn
  refine ⟨⟨counted ++ counted', records ++ records', hpoll.turn h.looping hturn, ?_, ?_⟩,
    hbridged.looping.trans h.looping, ?_, ?_⟩
  · rw [hbridged.fragments, hfragments, List.foldl_append]
  · rw [hbridged.mailbox, List.drop_left, hsent, List.map_append]
  · have hless := hturn.effort_lt (hpoll.isPolling_of_turn h.looping hturn)
    have := h.effort
    omega
  · intro fault hfault hrunning
    rw [hbridged.loop] at hrunning
    rw [hrunning] at hturn
    exact hturn.ne_failed fault hfault

/-- Whatever happens next, the poll goes on or stays where it is. -/
lemma Polls.step (h : s.Polls b s₀ before after sent steps) {action : Action}
    (hleaves : action.leavesBridge = true) (hstep : s.step? action = some t) :
    t.Polls b s₀
      (before ++ if s.bridge.isCollecting then action.fragment?.toList else [])
      (after ++ if !s.bridge.isCollecting then action.fragment?.toList else [])
      (sent ++ if action.sender = .bridge then t.mailbox.drop s.mailbox.length else [])
      (steps + if action.isBridge then 1 else 0) := by
  obtain ⟨counted, records, hpoll, hfragments, hsent⟩ := h.poll
  have gone (hrunning : t.loop = .running) : s.loop = .running := running_step? hstep hrunning
  cases hfeed : action.touchesFeed with
  | false =>
      obtain ⟨hnothing, hother⟩ := action.of_not_touchesFeed hfeed
      obtain ⟨-, hbridge, hsubscription, hsame, -, -⟩ := keepsFeed_step? hfeed hstep
      have hquiet : action.isBridge = false := by
        cases action with
        | bridge => exact Bool.noConfusion hfeed
        | _ => rfl
      simp only [hnothing, hother, hquiet, Option.toList_none, ite_self, if_false, List.append_nil,
        Bool.false_eq_true, Nat.add_zero]
      refine ⟨⟨counted, records, ?_, hsame.trans hfragments, hsent⟩, ?_, ?_, ?_⟩
      · rw [hbridge, hsubscription]
        exact hpoll
      · rw [hbridge]
        exact h.looping
      · rw [hbridge]
        exact h.effort
      · intro fault hfault hrunning
        rw [hbridge] at hfault
        exact h.failed fault hfault (gone hrunning)
  | true =>
      cases action with
      | inject fragment =>
          cases hstep
          have hpushed := hpoll.push fragment
          refine ⟨⟨counted, records, ?_, hfragments, ?_⟩, h.looping, h.effort, h.failed⟩
          · rw [← List.append_assoc]
            cases hcollecting : s.bridge.isCollecting <;>
              simpa [hcollecting, Action.fragment?, Subscription.push] using hpushed
          · rw [if_neg Sender.noConfusion, List.append_nil]
            exact hsent
      | loseFeed =>
          cases hstep
          simp only [Action.fragment?, Option.toList_none, ite_self, List.append_nil,
            Action.isBridge, Bool.false_eq_true, if_false, Nat.add_zero, Action.sender,
            reduceCtorEq]
          exact ⟨⟨counted, records, hpoll, hfragments, hsent⟩, h.looping, h.effort, h.failed⟩
      | pollOnce | runBridge =>
          simp only [step?, startBridge?] at hstep
          split at hstep
          · next hready =>
              rw [hready] at hpoll
              cases hpoll
          · cases hstep
      | bridge =>
          simp only [Action.fragment?, Option.toList_none, ite_self, List.append_nil,
            Action.isBridge, if_true]
          exact h.bridge hstep
      | detach | newBridge => exact Bool.noConfusion hleaves
      | _ => exact Bool.noConfusion hfeed

/-- **What a poll does in the course of a run.** -/
theorem polls_of_run (hstart : s.step? .pollOnce = some s₁)
    (hleaves : ∀ action ∈ actions, action.leavesBridge = true) (hrun : run? actions s₁ = some t) :
    t.Polls s.settings.pollBatch s (inTime actions s₁) (late actions s₁) (sentBy .bridge actions s₁)
      (actions.countP Action.isBridge) := by
  refine run_induction (P := fun past u => (∀ action ∈ past, action.leavesBridge = true) →
    u.Polls s.settings.pollBatch s (inTime past s₁) (late past s₁) (sentBy .bridge past s₁)
      (past.countP Action.isBridge)) ?_ ?_ hrun hleaves
  · intro _
    exact polls_of_start hstart
  · intro past action u u' hpast ih hstep hall
    have hnext := (ih fun a ha => hall a (List.mem_append_left _ ha)).step
      (hall action (List.mem_append_right _ (List.mem_singleton_self _))) hstep
    rw [inTime, late, arrivedWhile, arrivedWhile, trace_concat hpast hstep,
      trace_concat hpast hstep, sentBy_concat _ hpast hstep, List.countP_append,
      List.countP_singleton]
    exact hnext

/-! ## The end of a poll -/

/-- The hub deals with all that is in its mailbox, and leaves the bridge alone. -/
lemma exists_emptied (hloop : s.loop = .running) :
    ∃ later u, (∀ action ∈ later, action = .serve) ∧ run? later s = some u ∧ u.mailbox = []
      ∧ u.loop = .running ∧ u.bridge = s.bridge := by
  generalize hmailbox : s.mailbox = mailbox
  induction mailbox generalizing s with
  | nil => exact ⟨[], s, nofun, rfl, hmailbox, hloop, rfl⟩
  | cons command rest ih =>
      obtain ⟨s', hstep, hrest, hloop', hbridge'⟩ : ∃ s', s.step? .serve = some s'
          ∧ s'.mailbox = rest ∧ s'.loop = .running ∧ s'.bridge = s.bridge := by
        simp only [step?, serve?, hloop, hmailbox]
        exact ⟨_, rfl, rfl, rfl, rfl⟩
      obtain ⟨later, u, hall, hrun, hempty, hrunning, hbridge⟩ := ih hloop' hrest
      refine ⟨.serve :: later, u, ?_, ?_, hempty, hrunning, hbridge.trans hbridge'⟩
      · exact List.forall_mem_cons.2 ⟨rfl, hall⟩
      · rw [run?, hstep]
        exact hrun

/-- A poll in progress makes its next step, if there is room for what it may have to send. -/
lemma isSome_bridgeStep? (hpolling : s.bridge.isPolling = true)
    (hroom : s.loop = .running → s.mailbox.length < mailboxCapacity) :
    (s.step? .bridge).isSome = true := by
  unfold Bridge.isPolling at hpolling
  unfold step? bridgeStep?
  cases hstage : s.bridge.stage with
  | collecting taken budget =>
      cases budget with
      | zero => rfl
      | succ budget =>
          dsimp only
          split <;> rfl
  | forwarding rest summary => cases rest <;> rfl
  | sending record rest summary =>
      obtain ⟨⟨taken, s'⟩, hsend⟩ :=
        Option.isSome_iff_exists.1 (isSome_send? (.broadcast record) hroom)
      simp [hsend]
  | _ =>
      rw [hstage] at hpolling
      cases hpolling

/-- **A poll in progress can be brought to its end** by its own steps, and by the hub where the poll
has to wait for room. -/
theorem exists_return (s : System) :
    ∃ later u, (∀ action ∈ later, action = .bridge ∨ action = .serve ∧ s.loop = .running)
      ∧ run? later s = some u ∧ u.bridge.isPolling = false ∧ u.loop = s.loop := by
  generalize heffort : s.bridge.stage.effort = effort
  induction effort using Nat.strong_induction_on generalizing s with
  | _ effort ih =>
      by_cases hpolling : s.bridge.isPolling = true
      · -- the hub makes room first, if it is there
        obtain ⟨first, u, hfirst, hrun, hroom, hbridge, hloop⟩ : ∃ first u,
            (∀ action ∈ first, action = .serve ∧ s.loop = .running) ∧ run? first s = some u
              ∧ (u.loop = .running → u.mailbox.length < mailboxCapacity)
              ∧ u.bridge = s.bridge ∧ u.loop = s.loop := by
          by_cases hrunning : s.loop = .running
          · obtain ⟨first, u, hall, hrun, hempty, hloop, hbridge⟩ := exists_emptied hrunning
            refine ⟨first, u, fun a ha => ⟨hall a ha, hrunning⟩, hrun, fun _ => ?_, hbridge,
              hloop.trans hrunning.symm⟩
            rw [hempty]
            decide
          · exact ⟨[], s, nofun, rfl, fun h => absurd h hrunning, rfl, rfl⟩
        obtain ⟨u', hstep⟩ :=
          Option.isSome_iff_exists.1 (isSome_bridgeStep? (hbridge ▸ hpolling) hroom)
        obtain ⟨counted, sent, hbridged⟩ := of_bridgeStep? hstep
        have hless := hbridged.turn.effort_lt (hbridge ▸ hpolling)
        rw [hbridge, heffort] at hless
        have hloop' : u'.loop = s.loop := hbridged.loop.trans hloop
        obtain ⟨later, v, hlater, hrest, hdone, hend⟩ := ih _ hless u' rfl
        refine ⟨first ++ .bridge :: later, v, ?_, ?_, hdone, hend.trans hloop'⟩
        · intro action haction
          rcases List.mem_append.1 haction with hmem | hmem
          · exact Or.inr (hfirst action hmem)
          · rcases List.mem_cons.1 hmem with rfl | hmem
            · exact Or.inl rfl
            · exact hloop' ▸ hlater action hmem
        · rw [run?_append, hrun, Option.bind_some, run?, hstep]
          exact hrest
      · exact ⟨[], s, nofun, rfl, by simpa using hpolling, rfl⟩

end Polls

/-! ## What a poll does -/

/-- What a poll of the fragments `taken` comes to: what it says adds up, the event records were sent
and nothing else, and each fragment was counted once, under its label. -/
structure AccountsFor (s : System) (taken : List Bytes) (summary : PollSummary)
    (sent : List Command) (t : System) : Prop where
  fragments : summary.fragments = taken.length
  broadcast : summary.broadcast = taken.countP fun f => (Fragment.event? f).isSome
  total : summary.fragments = summary.broadcast + summary.dropped
  sent : sent = (Fragment.events taken).map Command.broadcast
  counted : s.hub.metrics.fragments.Tallied taken t.hub.metrics.fragments

/-- A gateway with a bridge at hand that takes `b` fragments at most. -/
def withBatch (b : Nat) (s : System) : System :=
  { s with settings := { s.settings with pollBatch := b } }.setBridge .ready

/-- Polls by hand, one after the other, each with a batch size of its own and with all that happens
until the next one: what each of them gave, what they sent, and the gateway in the end. -/
def pollAll? : List (Nat × List Action) → System →
    Option (List (Except Fault PollSummary) × List Command × System)
  | [], s => some ([], [], s)
  | (b, actions) :: rest, s => do
    let started ← (s.withBatch b).step? .pollOnce
    let t ← run? actions started
    match t.bridge.stage with
    | .polled result =>
      let (results, sent, u) ← pollAll? rest t
      return (result :: results, sentBy .bridge actions started ++ sent, u)
    | _ => none

section AccountsFor

variable {s s₁ t u : System} {actions : List Action} {b steps : Nat} {before after : List Bytes}
  {sent sent' : List Command}

/-- A poll that is over accounts for what it took. -/
lemma Polls.accountsFor (h : t.Polls b s before after sent steps)
    (hdone : t.bridge.isPolling = false) (hloop : t.loop = .running) :
    ∃ summary, t.bridge.stage = .polled (.ok summary)
      ∧ s.AccountsFor ((s.subscription.pending ++ before).take b) summary sent t
      ∧ t.subscription.pending = (s.subscription.pending ++ before).drop b ++ after := by
  obtain ⟨counted, records, hpoll, hfragments, hsent⟩ := h.poll
  have hnever := h.failed
  unfold Bridge.isPolling at hdone
  generalize t.bridge.stage = stage at hpoll hdone hnever
  generalize hpending : t.subscription.pending = pending at hpoll
  cases hpoll with
  | collecting | forwarding | sending => cases hdone
  | failed => exact absurd hloop (hnever _ rfl)
  | done =>
      refine ⟨_, rfl, ⟨rfl, Fragment.length_events _, ?_, hsent, ?_⟩, rfl⟩
      · simp only [PollSummary.after, Fragment.length_events]
        exact Fragment.length_eq_countP _
      · rw [hfragments]
        exact FragmentCounts.tallied_foldl _ _

lemma accountsFor_nil (s : System) : s.AccountsFor [] (.total []) [] s :=
  ⟨rfl, rfl, rfl, rfl, FragmentCounts.tallied_nil _⟩

/-- What is taken in portions is accounted for as if it had been taken at once. -/
lemma AccountsFor.append {taken taken' : List Bytes} {summary : PollSummary}
    {summaries : List PollSummary} (h : s.AccountsFor taken summary sent t)
    (h' : t.AccountsFor taken' (.total summaries) sent' u) :
    s.AccountsFor (taken ++ taken') (.total (summary :: summaries)) (sent ++ sent') u where
  fragments := by
    rw [List.length_append, ← h.fragments, ← h'.fragments]
    rfl
  broadcast := by
    rw [List.countP_append, ← h.broadcast, ← h'.broadcast]
    rfl
  total := by
    have hfirst := h.total
    have hrest := h'.total
    simp only [PollSummary.total, List.map_cons, List.sum_cons] at hrest ⊢
    omega
  sent := by rw [h.sent, h'.sent, Fragment.events_append, List.map_append]
  counted := h.counted.append h'.counted

/-- If nothing arrives then nothing arrives in time, and nothing late. -/
lemma arrivedWhile_eq_nil {kind : System → Bool}
    (hnothing : ∀ action ∈ actions, action.fragment? = none) :
    arrivedWhile kind actions s = [] := by
  induction actions generalizing s with
  | nil => rfl
  | cons action rest ih =>
      unfold arrivedWhile trace
      split
      · rw [hnothing action List.mem_cons_self, Option.toList_none, ite_self, List.nil_append]
        exact ih fun a ha => hnothing a (List.mem_cons_of_mem _ ha)
      · rfl

section PollAll

variable {polls : List (Nat × List Action)} {results : List (Except Fault PollSummary)}

/-- One poll, and then the others. -/
lemma pollAll?_cons (h : pollAll? ((b, actions) :: polls) s = some (results, sent, u)) :
    ∃ s₁ t result results' sent', (s.withBatch b).step? .pollOnce = some s₁
      ∧ run? actions s₁ = some t ∧ t.bridge.stage = .polled result
      ∧ pollAll? polls t = some (results', sent', u) ∧ results = result :: results'
      ∧ sent = sentBy .bridge actions s₁ ++ sent' := by
  simp only [pollAll?, Option.bind_eq_bind, Option.bind_eq_some_iff] at h
  obtain ⟨s₁, hstart, t, hrun, h⟩ := h
  split at h
  · next result hstage =>
      obtain ⟨⟨results', sent', u'⟩, hrest, h⟩ := Option.bind_eq_some_iff.1 h
      cases h
      exact ⟨s₁, t, result, results', sent', hstart, hrun, hstage, hrest, rfl, rfl⟩
  · cases h

/-- A hub that is there after some polls was there before them. -/
lemma running_of_pollAll? (hpolls : pollAll? polls s = some (results, sent, u))
    (hloop : u.loop = .running) : s.loop = .running := by
  induction polls generalizing s results sent with
  | nil =>
      cases hpolls
      exact hloop
  | cons poll polls ih =>
      obtain ⟨s₁, t, result, results', sent', hstart, hrun, -, hrest, -⟩ := pollAll?_cons hpolls
      have hready : (s.withBatch poll.1).loop = .running :=
        running_step? hstart (running_run? hrun (ih hrest))
      exact hready

/-- **Polls with several batch sizes do what one poll with their sum would do.** -/
theorem accountsFor_of_pollAll? (hpolls : pollAll? polls s = some (results, sent, u))
    (hloop : u.loop = .running)
    (hquiet : ∀ poll ∈ polls, ∀ action ∈ poll.2,
      action.leavesBridge = true ∧ action.fragment? = none) :
    ∃ summaries, results = summaries.map .ok
      ∧ s.AccountsFor (s.subscription.pending.take (polls.map Prod.fst).sum) (.total summaries)
        sent u
      ∧ u.subscription.pending = s.subscription.pending.drop (polls.map Prod.fst).sum := by
  induction polls generalizing s results sent with
  | nil =>
      cases hpolls
      exact ⟨[], rfl, accountsFor_nil _, rfl⟩
  | cons poll polls ih =>
      obtain ⟨b, actions⟩ := poll
      obtain ⟨s₁, t, result, results, sent, hstart, hrun, hstage, hrest, rfl, rfl⟩ :=
        pollAll?_cons hpolls
      obtain ⟨summaries, rfl, hlater, hpending⟩ :=
        ih hrest fun poll hpoll => hquiet poll (List.mem_cons_of_mem _ hpoll)
      have hmine : ∀ action ∈ actions, action.leavesBridge = true ∧ action.fragment? = none :=
        hquiet _ List.mem_cons_self
      have hpoll := polls_of_run hstart (fun a ha => (hmine a ha).1) hrun
      rw [inTime, late, arrivedWhile_eq_nil fun a ha => (hmine a ha).2,
        arrivedWhile_eq_nil fun a ha => (hmine a ha).2] at hpoll
      obtain ⟨summary, hok, hfirst, hleft⟩ :=
        hpoll.accountsFor (by rw [Bridge.isPolling, hstage]) (running_of_pollAll? hrest hloop)
      rw [List.append_nil] at hfirst hleft
      rw [List.append_nil] at hleft
      replace hfirst : s.AccountsFor (s.subscription.pending.take b) summary
          (sentBy .bridge actions s₁) t :=
        ⟨hfirst.fragments, hfirst.broadcast, hfirst.total, hfirst.sent, hfirst.counted⟩
      replace hleft : t.subscription.pending = s.subscription.pending.drop b := hleft
      rw [hleft] at hlater hpending
      refine ⟨summary :: summaries, ?_, ?_, ?_⟩
      · rw [List.map_cons, Bridge.Stage.polled.inj (hstage.symm.trans hok)]
      · rw [List.map_cons, List.sum_cons, List.take_add]
        exact hfirst.append hlater
      · rw [List.map_cons, List.sum_cons, hpending, List.drop_drop]

end PollAll

/-- **A poll accounts for every fragment.**  A bridge is polled by hand, while anything may happen
that leaves the bridge where it is, and the hub is there in the end.  Then the poll can be brought
to its end from wherever it stands, by its own steps and by those of the hub, and it makes no more
than three steps for each fragment that it may take, and two.

When it is over it has given a summary.  It took the first fragments in line, as many as it may or
as there were before its batch was complete; the others are left in their order, and what came too
late is behind them.  What the summary says adds up to these fragments, their event records were
sent in their order and nothing else, and each of them was counted once, under its label.

And a sequence of polls, with any batch sizes, comes to the same for what one poll with the sum of
these sizes would take, if nothing arrives in the meantime. -/
theorem accounts_of_poll (hstart : s.step? .pollOnce = some s₁)
    (hleaves : ∀ action ∈ actions, action.leavesBridge = true) (hrun : run? actions s₁ = some t)
    (hloop : t.loop = .running) :
    let b := s.settings.pollBatch
    let available := s.subscription.pending ++ inTime actions s₁
    ((∃ later u, (∀ action ∈ later, action = .bridge ∨ action = .serve)
          ∧ run? later t = some u ∧ u.loop = .running ∧ u.bridge.isPolling = false)
        ∧ actions.countP Action.isBridge ≤ 3 * b + 2)
      ∧ (t.bridge.isPolling = false → ∃ summary, t.bridge.stage = .polled (.ok summary)
          ∧ s.AccountsFor (available.take b) summary (sentBy .bridge actions s₁) t
          ∧ t.subscription.pending = available.drop b ++ late actions s₁)
      ∧ ∀ polls results sent u, pollAll? polls s = some (results, sent, u) → u.loop = .running →
          (∀ poll ∈ polls, ∀ action ∈ poll.2,
            action.leavesBridge = true ∧ action.fragment? = none) →
          let total := (polls.map Prod.fst).sum
          ∃ summaries, results = summaries.map .ok
            ∧ s.AccountsFor (s.subscription.pending.take total) (.total summaries) sent u
            ∧ u.subscription.pending = s.subscription.pending.drop total := by
  intro b available
  have hpoll := polls_of_run hstart hleaves hrun
  refine ⟨⟨?_, ?_⟩, fun hdone => hpoll.accountsFor hdone hloop, ?_⟩
  · obtain ⟨later, u, hlater, hrest, hdone, hsame⟩ := exists_return t
    exact ⟨later, u, fun a ha => (hlater a ha).imp_right And.left, hrest, hsame.trans hloop, hdone⟩
  · exact (Nat.le_add_right _ _).trans hpoll.effort
  · intro polls results sent u hpolls hrunning hquiet
    exact accountsFor_of_pollAll? hpolls hrunning hquiet

/-- A fragment arrives while the batch is being taken and another one behind it; in the batch are a
header without a record and a record of no known kind. -/
theorem accounts_of_poll_of_arrivals :
    let s : System :=
      { settings :=
          { route := .relay, queueCapacity := 4, writeWait := 10, pongWait := 60, pingPeriod := 50,
            pollBatch := 4, idleBackoff := { nanos := 5 } }
        bridge := ⟨.ready, false⟩
        subscription := { pending := [[0, 2, 65, 1], [0, 0], [0, 1, 90]] } }
    let actions : List Action :=
      [.bridge, .inject [0, 1, 69], .bridge, .bridge, .bridge, .bridge, .inject [0, 1, 74],
        .bridge, .bridge, .bridge, .bridge, .bridge, .bridge, .bridge]
    let polls : List (Nat × List Action) :=
      [(1, List.replicate 5 .bridge), (2, List.replicate 6 .bridge)]
    ∃ s₁ t summary results sent u, s.step? .pollOnce = some s₁ ∧ run? actions s₁ = some t
      ∧ t.bridge.stage = .polled (.ok summary) ∧ summary.fragments = 4 ∧ summary.broadcast = 2
      ∧ sentBy .bridge actions s₁ = [.broadcast [65, 1], .broadcast [69]]
      ∧ t.hub.metrics.fragments.unknown = 2 ∧ t.subscription.pending = [[0, 1, 74]]
      ∧ pollAll? polls s = some (results, sent, u) ∧ sent = [.broadcast [65, 1]]
      ∧ u.subscription.pending = [] := by
  intro s actions polls
  have hleaves : ∀ action ∈ actions, action.leavesBridge = true := by decide
  obtain ⟨-, hpoll, hpolls⟩ := accounts_of_poll (s := s) rfl hleaves rfl rfl
  obtain ⟨summary, hok, haccount, hpending⟩ := hpoll rfl
  have hquiet : ∀ poll ∈ polls, ∀ action ∈ poll.2,
      action.leavesBridge = true ∧ action.fragment? = none := by
    simp [polls, Action.leavesBridge, Action.fragment?]
  obtain ⟨summaries, -, hall, hnothing⟩ := hpolls polls _ _ _ rfl rfl hquiet
  exact ⟨_, _, summary, _, _, _, rfl, rfl, hok, haccount.fragments, haccount.broadcast,
    haccount.sent, haccount.counted.unknown, hpending, rfl, hall.sent, hnothing⟩

end AccountsFor

end System

end MarketGate
