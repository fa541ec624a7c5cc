import MarketGate.Proofs.Hub.Counters
import MarketGate.Proofs.System.Run

/-!
# From the feed to the hub

An event record that arrives on the feed is polled, sent to the hub and served, each in its turn.
On the way it is in one of four places: in the line of the subscription, with the bridge, in the
hub's mailbox, or among what the hub has served.  Read from the far end to the near one, the four
places hold exactly the event records that have arrived so far, in the order of their arrival, for
no step of the gateway drops, doubles or reorders one (`System.Lined`).

* `Fragment.event?` is the event record in a fragment, said without reference to how the bridge
  finds it; `Fragment.record?_eq` says that the bridge finds just that.
* `FragmentCounts.Tallied` says in the same way that fragments were counted under their labels, and
  `FragmentCounts.tallied_foldl` that the bridge counts them so.
* `Bridge.Stage.backlog` are the event records that the bridge has polled and not yet sent.
* **`Bridge.Turn.balance`**: no step of the bridge changes what is in line, with the bridge and
  sent.
* `Bridge.Turn.tally`: the bridge counts a record before it sends it.
* **`System.Lined.step`**, **`System.Lined.run`**: steps and runs of a gateway lose no record.
-/

namespace MarketGate

/-- The event record in a fragment: what follows the first two bytes, if it begins with an `'A'`, a
`'J'` or an `'E'`. -/
def Fragment.event? (fragment : Bytes) : Option Bytes :=
  if 2 < fragment.length
      ∧ (fragment[2]? = some 65 ∨ fragment[2]? = some 74 ∨ fragment[2]? = some 69)
    then some (fragment.drop 2) else none

/-- The event records in a list of fragments. -/
def Fragment.events (fragments : List Bytes) : List Bytes := fragments.filterMap Fragment.event?

lemma Fragment.events_append (first second : List Bytes) :
    events (first ++ second) = events first ++ events second := List.filterMap_append

/-- The messages that a list of commands sends to everyone. -/
def Command.payloads (commands : List Command) : List Bytes := commands.filterMap Command.payload?

/-- The bridge sends the event record in a fragment, and nothing for other fragments. -/
theorem Fragment.record?_eq (fragment : Bytes) : record? fragment = event? fragment := by
  unfold record? event? EventKind.ofFragment body? headerLength
  cases htag : fragment[2]? with
  | none => simp [EventKind.isBroadcast]
  | some tag =>
      obtain ⟨hlt, -⟩ := List.getElem?_eq_some_iff.1 htag
      simp only [EventKind.ofTag, hlt, Option.some.injEq, true_and, if_true]
      by_cases haccepted : tag = 65
      · simp [haccepted, EventKind.isBroadcast]
      · by_cases hrejected : tag = 74
        · simp [hrejected, EventKind.isBroadcast]
        · by_cases hexecuted : tag = 69
          · simp [hexecuted, EventKind.isBroadcast]
          · simp [haccepted, hrejected, hexecuted, EventKind.isBroadcast]

/-- A fragment is counted as one that is passed on if there is an event record in it. -/
lemma FragmentCounts.broadcast_increment (counts : FragmentCounts) (fragment : Bytes) :
    (counts.increment (EventKind.ofFragment fragment)).broadcast
      = counts.broadcast + (Fragment.record? fragment).toList.length := by
  have hbody : (EventKind.ofFragment fragment).isBroadcast = true →
      (Fragment.body? fragment).isSome = true := by
    unfold EventKind.ofFragment Fragment.body? Fragment.headerLength
    cases htag : fragment[2]? with
    | none => simp [EventKind.isBroadcast]
    | some tag =>
        obtain ⟨hlt, -⟩ := List.getElem?_eq_some_iff.1 htag
        simp [hlt]
  unfold Fragment.record?
  cases hkind : EventKind.ofFragment fragment with
  | unknown => simp [EventKind.isBroadcast, increment, broadcast]
  | _ =>
      obtain ⟨body, hsome⟩ := Option.isSome_iff_exists.1 (hbody (by rw [hkind]; rfl))
      simp only [EventKind.isBroadcast, increment, broadcast, hsome]
      simp
      omega

/-- Each of these fragments was counted once between two counts, by the byte behind its header: an
`'A'` is an acceptance, a `'J'` a rejection and an `'E'` an execution, and what has another byte
there, or none, comes under the last label. -/
structure FragmentCounts.Tallied (before : FragmentCounts) (fragments : List Bytes)
    (after : FragmentCounts) : Prop where
  accepted : after.accepted = before.accepted + fragments.countP fun f => f[2]? = some 65
  rejected : after.rejected = before.rejected + fragments.countP fun f => f[2]? = some 74
  executed : after.executed = before.executed + fragments.countP fun f => f[2]? = some 69
  unknown : after.unknown = before.unknown
    + fragments.countP fun f => f[2]? ≠ some 65 ∧ f[2]? ≠ some 74 ∧ f[2]? ≠ some 69

namespace FragmentCounts

lemma tallied_nil (counts : FragmentCounts) : counts.Tallied [] counts :=
  ⟨rfl, rfl, rfl, rfl⟩

/-- What is counted in portions is counted. -/
lemma Tallied.append {counts counts' counts'' : FragmentCounts} {first second : List Bytes}
    (h : counts.Tallied first counts') (h' : counts'.Tallied second counts'') :
    counts.Tallied (first ++ second) counts'' where
  accepted := by rw [h'.accepted, h.accepted, List.countP_append, Nat.add_assoc]
  rejected := by rw [h'.rejected, h.rejected, List.countP_append, Nat.add_assoc]
  executed := by rw [h'.executed, h.executed, List.countP_append, Nat.add_assoc]
  unknown := by rw [h'.unknown, h.unknown, List.countP_append, Nat.add_assoc]

lemma tallied_increment (counts : FragmentCounts) (fragment : Bytes) :
    counts.Tallied [fragment] (counts.increment (EventKind.ofFragment fragment)) := by
  unfold EventKind.ofFragment Fragment.headerLength
  cases htag : fragment[2]? with
  | none => constructor <;> simp [increment, htag]
  | some tag =>
      dsimp only [EventKind.ofTag]
      split_ifs <;> constructor <;> simp_all [increment]

/-- The bridge counts fragments under their labels. -/
lemma tallied_foldl (counts : FragmentCounts) (fragments : List Bytes) :
    counts.Tallied fragments
      (fragments.foldl (fun m f => m.increment (EventKind.ofFragment f)) counts) := by
  induction fragments generalizing counts with
  | nil => exact tallied_nil counts
  | cons fragment rest ih => exact (tallied_increment counts fragment).append (ih _)

end FragmentCounts

namespace Bridge

/-- The event records that a bridge has polled and not yet sent. -/
def Stage.backlog : Stage → List Bytes
  | .collecting taken _ => Fragment.events taken
  | .forwarding rest _ => Fragment.events rest
  | .sending record rest _ => record :: Fragment.events rest
  | _ => []

/-- How many event records a bridge has counted and not yet sent. -/
def Stage.unsent : Stage → Nat
  | .sending .. => 1
  | _ => 0

/-- Whether a poll is in progress. -/
def isPolling (b : Bridge) : Bool :=
  match b.stage with
  | .collecting .. | .forwarding .. | .sending .. => true
  | _ => false

lemma backlog_of_not_isPolling {b : Bridge} (h : b.isPolling = false) :
    b.stage.backlog = [] ∧ b.stage.unsent = 0 := by
  unfold isPolling at h
  split at h
  · exact Bool.noConfusion h
  · exact Bool.noConfusion h
  · exact Bool.noConfusion h
  · next hcollecting hforwarding hsending =>
      cases hstage : b.stage with
      | collecting taken budget => exact absurd hstage (hcollecting taken budget)
      | forwarding rest summary => exact absurd hstage (hforwarding rest summary)
      | sending record rest summary => exact absurd hstage (hsending record rest summary)
      | _ => exact ⟨rfl, rfl⟩

section Turn

variable {settings : Settings} {now : Nat} {b : Bridge} {feed feed' : Subscription}
  {counted sent : List Bytes} {stage : Stage}

/-- Where there is no bridge it does nothing. -/
lemma Turn.ne_absent {loop : HubLoop} (h : Turn settings now loop b feed counted sent stage feed') :
    b.stage ≠ .absent := by
  cases h with
  | start hstage | full hstage | collect hstage | dry hstage | finish hstage | pick hstage
  | drop hstage | send hstage | refused hstage | again hstage | giveUp hstage | close hstage
  | rest hstage | wake hstage =>
      rw [hstage]
      exact Stage.noConfusion

/-- **No step of the bridge loses a record**: with a running hub, what was in line and with the
bridge is sent, with the bridge or in line. -/
theorem Turn.balance (h : Turn settings now .running b feed counted sent stage feed') :
    b.stage.backlog ++ Fragment.events feed.pending
      = sent ++ stage.backlog ++ Fragment.events feed'.pending := by
  cases h with
  | @collect taken rest fragment budget hstage hpending =>
      rw [hstage]
      cases hevent : Fragment.event? fragment <;>
        simp [Stage.backlog, Fragment.events, Subscription.poll, hpending, hevent]
  | dry hstage hpending =>
      rw [hstage]
      simp [Stage.backlog, Fragment.events, Subscription.poll, hpending]
  | pick hstage hrecord =>
      rw [hstage]
      rw [Fragment.record?_eq] at hrecord
      simp [Stage.backlog, Fragment.events, hrecord]
  | drop hstage hrecord =>
      rw [hstage]
      rw [Fragment.record?_eq] at hrecord
      simp [Stage.backlog, Fragment.events, hrecord]
  | refused hstage hloop => exact absurd rfl hloop
  | start hstage | full hstage | finish hstage | send hstage | again hstage | giveUp hstage
  | close hstage | rest hstage | wake hstage =>
      rw [hstage]
      rfl

/-- A record is counted before it is sent, and sent before the next is counted. -/
theorem Turn.tally (h : Turn settings now .running b feed counted sent stage feed')
    (counts : FragmentCounts) :
    (counted.foldl (fun m f => m.increment (EventKind.ofFragment f)) counts).broadcast
        + b.stage.unsent
      = counts.broadcast + sent.length + stage.unsent := by
  cases h with
  | pick hstage hrecord =>
      rw [hstage, List.foldl_cons, List.foldl_nil, FragmentCounts.broadcast_increment, hrecord]
      rfl
  | drop hstage hrecord =>
      rw [hstage, List.foldl_cons, List.foldl_nil, FragmentCounts.broadcast_increment, hrecord]
      rfl
  | refused hstage hloop => exact absurd rfl hloop
  | start hstage | full hstage | collect hstage | dry hstage | finish hstage | send hstage
  | again hstage | giveUp hstage | close hstage | rest hstage | wake hstage =>
      rw [hstage]
      rfl

end Turn

end Bridge

namespace Command

lemma payloads_append (first second : List Command) :
    payloads (first ++ second) = payloads first ++ payloads second := List.filterMap_append

lemma payloads_singleton (command : Command) : payloads [command] = command.payload?.toList := by
  cases hc : command.payload? <;> simp [payloads, hc]

lemma payloads_map_broadcast (records : List Bytes) :
    payloads (records.map Command.broadcast) = records := by
  induction records with
  | nil => rfl
  | cons record rest ih => simpa [payloads, payload?] using ih

end Command

/-! ## The steps of a gateway -/

/-- The fragment that arrives at an action. -/
def Action.fragment? : Action → Option Bytes
  | .inject fragment => some fragment
  | _ => none

/-- Whether an action leaves registering to the pumps and broadcasting to the pumps and the bridge,
and does not set up another bridge while one is polling, which would take along what it has. -/
def Action.leavesFeed (action : Action) (s : System) : Bool :=
  match action with
  | .request (.register _) | .request (.broadcast _) => false
  | .newBridge => !s.bridge.isPolling
  | _ => true

/-- Whether an action does not take the bridge away in the middle of a poll. -/
def Action.keepsPoll (action : Action) (s : System) : Bool :=
  match action with
  | .detach => !s.bridge.isPolling
  | _ => true

/-- What leaves broadcasting to the pumps and the bridge leaves registering to the pumps. -/
lemma Action.isOrderly_of_leavesFeed {action : Action} {s : System}
    (h : action.leavesFeed s = true) : action.isOrderly = true := by
  cases action with
  | request command =>
      cases command with
      | register r => exact Bool.noConfusion h
      | _ => rfl
  | _ => rfl

/-- Whether a pump does not have a message of its client at hand that it would send on. -/
def Pump.IsSilent (pump : Pump) : Prop :=
  ∀ data deadline, pump.reader.stage ≠ .relaying data deadline

section Silent

variable {settings : Settings} {now p : Nat} (hroute : settings.route = .orderEntry)

include hroute

/-- Where clients send orders, no reader sends anything on. -/
lemma Reader.Turn.ne_relaying {stage stage' : Reader.Stage} {c c' : Connection}
    (h : Reader.Turn settings now stage c stage' c') (data : Bytes) (deadline : Nat) :
    stage' ≠ .relaying data deadline := by
  cases h with
  | @receive _ _ incoming hne =>
      cases incoming <;> simp [Reader.Stage.afterReceiving, hroute]
  | claim | claimEarly => split_ifs <;> exact Reader.Stage.noConfusion
  | _ => exact Reader.Stage.noConfusion

/-- So the tasks of a client send no broadcasts. -/
lemma View.Act.silent {v v' : View} (h : View.Act settings now p v v') (hv : v.pump.IsSilent) :
    v'.pump.IsSilent
      ∧ ∃ sent, v'.mailbox = v.mailbox ++ sent ∧ Command.payloads sent = [] := by
  have hnone : ∃ sent, v.mailbox = v.mailbox ++ sent ∧ Command.payloads sent = [] :=
    ⟨[], (List.append_nil _).symm, rfl⟩
  cases h with
  | enter hstage hopen => exact ⟨fun _ _ => Reader.Stage.noConfusion, _, rfl, rfl⟩
  | turn hturn => exact ⟨hturn.ne_relaying hroute, hnone⟩
  | relay hstage hopen => exact absurd hstage (hv _ _)
  | relayRefused hstage hloop => exact absurd hstage (hv _ _)
  | part hstage hopen => exact ⟨fun _ _ => Reader.Stage.noConfusion, _, rfl, rfl⟩
  | partRefused hstage hloop => exact ⟨fun _ _ => Reader.Stage.noConfusion, hnone⟩
  | _ => exact ⟨hv, hnone⟩

end Silent

namespace System

/-- Where the event records are that have arrived, when the hub has served the commands `past`: what
the hub has served and what waits for it comes first, and the rest is with the bridge and in line.
Once everyone outside has let go of the hub, the rest goes nowhere. -/
structure Lined (arrived : List Bytes) (past : List Command) (whole : Bool) (s : System) :
    Prop where
  records : ∃ rest, Fragment.events arrived = Command.payloads (past ++ s.mailbox) ++ rest
    ∧ (s.attached = true →
      rest = s.bridge.stage.backlog ++ Fragment.events s.subscription.pending)
  detached : s.attached = false → s.bridge.stage = .absent
  silent : ∀ pump ∈ s.pumps, pump.IsSilent
  broadcasts : s.hub.metrics.broadcasts = (Command.payloads past).length
  /-- Unless a poll was cut off, the counters of the feed count what was sent. -/
  fragments : whole = true → s.hub.metrics.fragments.broadcast
    = (Command.payloads (past ++ s.mailbox)).length + s.bridge.stage.unsent

section Lined

variable {s s' : System} {arrived : List Bytes} {past : List Command} {whole : Bool}

/-- To begin with nothing has arrived. -/
lemma lined_start (settings : Settings) : (start settings).Lined [] [] true where
  records := ⟨[], by simp [start, Fragment.events, Command.payloads], fun _ => by
    simp [start, Fragment.events, Bridge.Stage.backlog]⟩
  detached h := by simp [start] at h
  silent := by simp [start]
  broadcasts := by simp [start, Command.payloads]
  fragments _ := by simp [start, Command.payloads, Bridge.Stage.unsent, FragmentCounts.broadcast]

/-- What the hub has broadcast comes first. -/
lemma Lined.payloads_prefix (hl : s.Lined arrived past whole) :
    Command.payloads past <+: Fragment.events arrived := by
  obtain ⟨rest, harrived, -⟩ := hl.records
  rw [harrived, Command.payloads_append, List.append_assoc]
  exact List.prefix_append _ _

/-- What is no broadcast changes nothing in line. -/
lemma Lined.of_quiet (hl : s.Lined arrived past whole) (sent : List Command)
    (hmailbox : s'.mailbox = s.mailbox ++ sent) (hsent : Command.payloads sent = [])
    (hattached : s'.attached = s.attached)
    (hbacklog : s'.bridge.stage.backlog = s.bridge.stage.backlog)
    (hunsent : s'.bridge.stage.unsent = s.bridge.stage.unsent)
    (hdetached : s.attached = false → s'.bridge.stage = .absent)
    (hpending : s'.subscription.pending = s.subscription.pending)
    (hsilent : ∀ pump ∈ s'.pumps, pump.IsSilent)
    (hbroadcasts : s'.hub.metrics.broadcasts = s.hub.metrics.broadcasts)
    (hfragments : s'.hub.metrics.fragments = s.hub.metrics.fragments) :
    s'.Lined arrived past whole := by
  have hpayloads :
      Command.payloads (past ++ s'.mailbox) = Command.payloads (past ++ s.mailbox) := by
    rw [hmailbox, ← List.append_assoc, Command.payloads_append _ sent, hsent, List.append_nil]
  refine ⟨?_, fun h => hdetached (hattached ▸ h), hsilent, hbroadcasts.trans hl.broadcasts,
    ?_⟩
  · rw [hpayloads, hattached, hbacklog, hpending]
    exact hl.records
  · intro hwhole
    rw [hpayloads, hfragments, hunsent]
    exact hl.fragments hwhole

/-- Nor do the tasks of a client. -/
lemma Lined.of_updates (hl : s.Lined arrived past whole) (hw : s.Wired)
    (hroute : s.settings.route = .orderEntry) {p : Nat} {v v' : View} (hview : s.view? p = some v)
    (hact : View.Act s.settings s.now p v v') (hup : s.Updates p v' s') :
    s'.Lined arrived past whole := by
  obtain ⟨hpump, -, -, -, -, -, -, hmailbox, -⟩ := hw.parts hview
  obtain ⟨hsilent, sent, hsent, hnone⟩ :=
    hact.silent hroute (hl.silent _ (List.mem_of_getElem? hpump))
  refine hl.of_quiet sent (by rw [hup.mailbox, hsent, hmailbox]) hnone hup.attached
    (by rw [hup.bridge]) (by rw [hup.bridge]) ?_ (by rw [hup.subscription])
    ?_ hup.broadcasts hup.fragments
  · intro h
    rw [hup.bridge]
    exact hl.detached h
  · intro pump hmem
    rw [hup.pumps] at hmem
    rcases List.mem_or_eq_of_mem_set hmem with hold | rfl
    · exact hl.silent _ hold
    · exact hsilent

/-- The bridge moves records on, from the line to itself and from itself to the mailbox. -/
lemma Lined.of_bridged (hl : s.Lined arrived past whole) (hloop : s.loop = .running)
    {counted sent : List Bytes} (hbridged : s.Bridged s' counted sent) :
    s'.Lined arrived past whole := by
  obtain ⟨rest, harrived, hrest⟩ := hl.records
  have hturn := hbridged.turn
  rw [hloop] at hturn
  have hattached : s.attached = true := by
    by_contra hnot
    exact hturn.ne_absent (hl.detached (by simpa using hnot))
  have hpayloads : Command.payloads (past ++ s'.mailbox)
      = Command.payloads (past ++ s.mailbox) ++ sent := by
    rw [hbridged.mailbox, ← List.append_assoc, Command.payloads_append,
      Command.payloads_map_broadcast]
  refine ⟨⟨_, ?_, fun _ => rfl⟩, ?_, hbridged.pumps ▸ hl.silent,
    hbridged.broadcasts.trans hl.broadcasts, ?_⟩
  · rw [harrived, hrest hattached, hturn.balance, hpayloads, List.append_assoc, List.append_assoc]
  · intro hnot
    rw [hbridged.attached, hattached] at hnot
    cases hnot
  · intro hwhole
    have htally := hturn.tally s.hub.metrics.fragments
    rw [← hbridged.fragments, hl.fragments hwhole] at htally
    rw [hpayloads, List.length_append]
    omega

/-- The hub serves what was sent first. -/
lemma Lined.serve (hl : s.Lined arrived past whole) {command : Command} {rest : List Command}
    (hmailbox : s.mailbox = command :: rest) (answers : List (Nat × Nat)) (notices : List Notice) :
    ({ s with hub := s.hub.apply command, mailbox := rest, answers, notices } : System).Lined
      arrived (past ++ [command]) whole := by
  have hsame : past ++ [command] ++ rest = past ++ s.mailbox := by
    rw [hmailbox, List.append_assoc, List.singleton_append]
  refine ⟨?_, hl.detached, hl.silent, ?_, ?_⟩
  · rw [hsame]
    exact hl.records
  · rw [Hub.broadcasts_apply, hl.broadcasts, Command.payloads_append, List.length_append,
      Command.payloads_singleton]
  · intro hwhole
    rw [hsame, Hub.fragments_apply]
    exact hl.fragments hwhole

/-- A fragment arrives at the end of the line. -/
lemma Lined.inject (hl : s.Lined arrived past whole) (fragment : Bytes) :
    ({ s with subscription := s.subscription.push fragment } : System).Lined
      (arrived ++ [fragment]) past whole := by
  obtain ⟨rest, harrived, hrest⟩ := hl.records
  refine ⟨⟨rest ++ Fragment.events [fragment], ?_, ?_⟩, hl.detached, hl.silent,
    hl.broadcasts, hl.fragments⟩
  · rw [Fragment.events_append, harrived, List.append_assoc]
  · intro hattached
    rw [hrest hattached, Subscription.push, Fragment.events_append, List.append_assoc]

/-- When everyone outside lets go of the hub, the bridge goes with what it has. -/
lemma Lined.detach (hl : s.Lined arrived past whole) :
    ({ s with attached := false, bridge := {} } : System).Lined arrived past
      (whole && Action.keepsPoll .detach s) := by
  obtain ⟨rest, harrived, -⟩ := hl.records
  refine ⟨⟨rest, harrived, Bool.noConfusion⟩, fun _ => rfl, hl.silent, hl.broadcasts,
    ?_⟩
  intro hwhole
  rw [Bool.and_eq_true, Action.keepsPoll, Bool.not_eq_true'] at hwhole
  have hfragments := hl.fragments hwhole.1
  rw [(Bridge.backlog_of_not_isPolling hwhole.2).2] at hfragments
  exact hfragments

/-- A bridge that is started has nothing yet. -/
lemma Lined.of_started (hl : s.Lined arrived past whole) {looping : Bool}
    (h : s.startBridge? looping = some s') : s'.Lined arrived past whole := by
  unfold startBridge? at h
  split at h
  · next hready =>
      cases h
      refine hl.of_quiet [] (List.append_nil _).symm rfl rfl ?_ ?_ ?_ rfl hl.silent
        rfl rfl
      · rw [hready]
        cases looping <;> rfl
      · rw [hready]
        cases looping <;> rfl
      · intro hnot
        rw [hl.detached hnot] at hready
        cases hready
  · cases h

/-- **No step of a gateway loses a record, sends one twice or puts one in the place of another.** -/
theorem Lined.step (hl : s.Lined arrived past whole) (hw : s.Wired)
    (hroute : s.settings.route = .orderEntry) {action : Action}
    (hleaves : action.leavesFeed s = true) (hstep : s.step? action = some s')
    (hloop' : s'.loop = .running) :
    s'.Lined (arrived ++ action.fragment?.toList) (past ++ (s.servedAt action).toList)
      (whole && action.keepsPoll s) := by
  have hloop : s.loop = .running :=
    (hw.course (Action.isOrderly_of_leavesFeed hleaves) hstep).running hloop'
  -- a step in which nothing arrives and nothing is served
  have same {s₁ : System} (hs₁ : s₁.Lined arrived past whole) :
      s₁.Lined (arrived ++ (none : Option Bytes).toList) (past ++ (none : Option Command).toList)
        (whole && true) := by
    simpa using hs₁
  cases action with
  | advance nanos | loseFeed | setConnected value | setBackPressured value | drain =>
      cases hstep
      exact same (hl.of_quiet [] (List.append_nil _).symm rfl rfl rfl rfl hl.detached rfl hl.silent
        rfl rfl)
  | connect peer =>
      simp only [step?] at hstep
      split_ifs at hstep
      cases hstep
      refine same (hl.of_quiet [] (List.append_nil _).symm rfl rfl rfl rfl hl.detached rfl
        ?_ rfl rfl)
      intro pump hmem
      rcases List.mem_append.1 hmem with hold | hnew
      · exact hl.silent pump hold
      · rw [List.mem_singleton.1 hnew]
        exact fun _ _ => Reader.Stage.noConfusion
  | request command =>
      simp only [step?] at hstep
      split_ifs at hstep
      obtain ⟨⟨taken, s₁⟩, hsend, heq⟩ := Option.map_eq_some_iff.1 hstep
      obtain rfl : s₁ = s' := heq
      rcases send?_eq_some hsend with ⟨-, -, -, rfl⟩ | ⟨hgone, -, -⟩
      · refine same (hl.of_quiet [command] rfl ?_ rfl rfl rfl hl.detached rfl hl.silent rfl rfl)
        cases command with
        | broadcast payload => exact Bool.noConfusion hleaves
        | _ => rfl
      · exact absurd hloop hgone
  | detach =>
      cases hstep
      have hdetached := hl.detach
      rw [← List.append_nil arrived, ← List.append_nil past] at hdetached
      exact hdetached
  | loseHub =>
      cases hstep
      simp [loseHub, hloop] at hloop'
  | serve =>
      simp only [step?, serve?] at hstep
      split at hstep
      · next command rest _ hmailbox =>
          cases hstep
          have hserved := hl.serve hmailbox ((s.hub.answer? command).toList ++ s.answers)
            ((s.hub.report command).reverse ++ s.notices)
          rw [← List.append_nil arrived, ← Bool.and_true whole] at hserved
          have hhead : s.servedAt .serve = some command := by simp [servedAt, hmailbox]
          rw [hhead]
          exact hserved
      · cases hstep
  | stopHub =>
      simp only [step?, stopHub?] at hstep
      split_ifs at hstep
      cases hstep
      cases hloop'
  | enter p =>
      obtain ⟨v, v', hview, hact, hup⟩ := hw.of_enter? hstep
      exact same (hl.of_updates hw hroute hview hact hup)
  | leave p =>
      obtain ⟨v, v', hview, hact, hup⟩ := hw.of_leave? hstep
      exact same (hl.of_updates hw hroute hview hact hup)
  | read p move =>
      obtain ⟨v, v', hview, hact, hup⟩ := hw.of_read? hstep
      exact same (hl.of_updates hw hroute hview hact hup)
  | write p move =>
      obtain ⟨v, v', hview, hact, hup⟩ := hw.of_write? hstep
      exact same (hl.of_updates hw hroute hview hact hup)
  | inject fragment =>
      cases hstep
      have hinjected := hl.inject fragment
      rw [← List.append_nil past, ← Bool.and_true whole] at hinjected
      exact hinjected
  | newBridge =>
      simp only [step?] at hstep
      split_ifs at hstep with hattached
      cases hstep
      rw [Action.leavesFeed, Bool.not_eq_true'] at hleaves
      obtain ⟨hbacklog, hunsent⟩ := Bridge.backlog_of_not_isPolling hleaves
      exact same (hl.of_quiet [] (List.append_nil _).symm rfl rfl hbacklog.symm hunsent.symm
        (fun hnot => Bool.noConfusion (hattached.symm.trans hnot)) rfl hl.silent rfl rfl)
  | pollOnce =>
      exact same (hl.of_started hstep)
  | runBridge =>
      exact same (hl.of_started hstep)
  | bridge =>
      obtain ⟨counted, sent, hbridged⟩ := of_bridgeStep? hstep
      exact same (hl.of_bridged hloop hbridged)

end Lined

/-! ## Runs -/

/-- Whether every action of a run goes by a rule. -/
def follows (rule : Action → System → Bool) : List Action → System → Bool
  | [], _ => true
  | action :: rest, s =>
    rule action s && match s.step? action with
      | some s' => follows rule rest s'
      | none => true

/-- The fragments that arrive in the course of a run, in their order. -/
def arrivals (actions : List Action) : List Bytes := actions.filterMap Action.fragment?

section Run

variable {s t : System} {actions : List Action}

lemma follows_cons {rule : Action → System → Bool} {s' : System} {action : Action}
    (hstep : s.step? action = some s') :
    follows rule (action :: actions) s = (rule action s && follows rule actions s') := by
  rw [follows, hstep]

/-- What leaves broadcasting to the pumps and the bridge leaves registering to the pumps. -/
lemma isOrderly_of_follows (hleaves : follows Action.leavesFeed actions s = true)
    (hrun : run? actions s = some t) : ∀ action ∈ actions, action.isOrderly = true := by
  induction actions generalizing s with
  | nil => exact nofun
  | cons action actions ih =>
      obtain ⟨s', hstep, hrest⟩ := run?_cons hrun
      rw [follows_cons hstep, Bool.and_eq_true] at hleaves
      intro a ha
      rcases List.mem_cons.1 ha with rfl | hmem
      · exact Action.isOrderly_of_leavesFeed hleaves.1
      · exact ih hleaves.2 hrest a hmem

/-- **In the course of a run no record is lost, sent twice or put in the place of another.** -/
theorem Lined.run {arrived : List Bytes} {past : List Command} {whole : Bool}
    (hl : s.Lined arrived past whole) (hw : s.Wired) (hroute : s.settings.route = .orderEntry)
    (hleaves : follows Action.leavesFeed actions s = true) (hrun : run? actions s = some t)
    (hloop : t.loop = .running) :
    t.Lined (arrived ++ arrivals actions) (past ++ served actions s)
      (whole && follows Action.keepsPoll actions s) := by
  induction actions generalizing s arrived past whole with
  | nil =>
      obtain rfl := Option.some.inj hrun
      simpa [arrivals, served, follows] using hl
  | cons action actions ih =>
      obtain ⟨s', hstep, hrest⟩ := run?_cons hrun
      rw [follows_cons hstep, Bool.and_eq_true] at hleaves
      have hcourse := hw.course (Action.isOrderly_of_leavesFeed hleaves.1) hstep
      have hw' : s'.Wired := hw.of_course hcourse
      have hloop' : s'.loop = .running :=
        hw'.running_run (isOrderly_of_follows hleaves.2 hrest) hrest hloop
      have hnext := ih (hl.step hw hroute hleaves.1 hstep hloop') hw'
        (hcourse.settings_eq ▸ hroute) hleaves.2 hrest
      have harrivals :
          arrivals (action :: actions) = action.fragment?.toList ++ arrivals actions := by
        cases hfragment : action.fragment? <;> simp [arrivals, hfragment]
      rw [served_cons hstep, follows_cons hstep, harrivals, ← List.append_assoc,
        ← List.append_assoc, ← Bool.and_assoc]
      exact hnext

end Run

end System

end MarketGate
