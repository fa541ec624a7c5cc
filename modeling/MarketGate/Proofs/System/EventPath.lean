import MarketGate.Proofs.System.Feed

/-!
# The path of an event

Where clients send orders, whatever a client is sent comes from the feed.  The hub serves broadcasts
in the order in which the event records arrived on the feed (`Lined`), it gives a client each of
them from the registration of the client until its removal, and the writer hands over what is in the
client's queue.  So the binary frames that a client is sent are a block of the list of all event
records, which begins with the first whose broadcast the hub serves after the registration.

* `Command.since` are the commands after one that is served at most once.
* `View.Sent` is what holds of a client at any time: what is in the log of the queue was broadcast
  since the client's registration, and it is all of that as long as the client is registered.
* **`View.Sent.step`**: the steps of a view keep it.
* **`binaries_of_arrivals`**: what a client is sent, and what the counters show.
-/

namespace MarketGate

namespace Command

/-- The commands after the first of a kind. -/
def since (entered : Command) (past : List Command) : List Command :=
  (past.dropWhile (· ≠ entered)).tail

section Since

variable {entered : Command} {past : List Command}

/-- A command that is not in a list differs from all that are. -/
lemma all_ne (h : entered ∉ past) : ∀ c ∈ past, decide (c ≠ entered) = true :=
  fun _ hc => decide_eq_true fun heq => h (heq ▸ hc)

lemma since_of_not_mem (h : entered ∉ past) : since entered past = [] := by
  rw [← List.append_nil past, since, List.dropWhile_append_of_pos (all_ne h)]
  rfl

lemma since_append_cons (h : entered ∉ past) (rest : List Command) :
    since entered (past ++ entered :: rest) = rest := by
  rw [since, List.dropWhile_append_of_pos (all_ne h)]
  simp

lemma since_append_of_mem (h : entered ∈ past) (more : List Command) :
    since entered (past ++ more) = since entered past ++ more := by
  obtain ⟨before, after, rfl, hbefore⟩ := List.eq_append_cons_of_mem h
  rw [List.append_assoc, List.cons_append, since_append_cons hbefore, since_append_cons hbefore]

/-- What comes before a command, the command, and what comes after it. -/
lemma takeWhile_append_since (h : entered ∈ past) :
    past.takeWhile (· ≠ entered) ++ entered :: since entered past = past := by
  obtain ⟨before, after, rfl, hbefore⟩ := List.eq_append_cons_of_mem h
  rw [since_append_cons hbefore, List.takeWhile_append_of_pos (all_ne hbefore)]
  simp

/-- The messages since a command that sends none are those after the ones before it. -/
lemma payloads_since (h : entered ∈ past) (hnone : entered.payload? = none) :
    payloads (since entered past)
      = (payloads past).drop (payloads (past.takeWhile (· ≠ entered))).length := by
  have hsplit : payloads past
      = payloads (past.takeWhile (· ≠ entered)) ++ payloads (since entered past) := by
    conv_lhs => rw [← takeWhile_append_since h]
    rw [payloads_append]
    simp [payloads, hnone]
  rw [hsplit, List.drop_left]

end Since

end Command

namespace View

/-- What a client was sent, when the hub has served the commands `past`. -/
structure Sent (p : Nat) (past : List Command) (v : View) : Prop where
  /-- The client is registered at most once. -/
  once : v.abroad p + past.count (.register ⟨p, p⟩) ≤ 1
  entered : v.seat.registered = true → .register ⟨p, p⟩ ∈ past
  log : v.seat.queue.log <+: Command.payloads (Command.since (.register ⟨p, p⟩) past)
  current : v.seat.registered = true →
    v.seat.queue.log = Command.payloads (Command.since (.register ⟨p, p⟩) past)
  idle : v.waits = true → v.pump.writer = {}
  faithful : Writer.Scene.Faithful ⟨v.pump.writer, v.seat.queue, v.seat.connection⟩

section Sent

variable {settings : Settings} {now p : Nat} {past : List Command} {v v' : View}

/-- The tasks of a client do not add to the places where the sender of its queue is. -/
lemma Act.abroad_le (h : Act settings now p v v') : v'.abroad p ≤ v.abroad p := by
  cases h with
  | enter hstage hopen => simp [abroad, waits, send, hstage, Nat.add_comm]
  | refused hstage hloop | leave hstage => simp [abroad, waits]
  | relay hstage hopen => exact (abroad_send (c := .broadcast _) (by simp)).le
  | part hstage hopen => exact (abroad_send (c := .unregister _) (by simp)).le
  | _ => exact Nat.le_refl _

/-- The tasks of a client put nothing into its queue. -/
lemma Act.log_eq (h : Act settings now p v v') : v'.seat.queue.log = v.seat.queue.log := by
  cases h with
  | write hturn => exact hturn.frame.2.2.1
  | _ => rfl

/-- A writer that waits for the registration of its client does nothing. -/
lemma Act.writer_eq (h : Act settings now p v v') (hidle : v.waits = true → v.pump.writer = {})
    (hwaits : v'.waits = true) : v'.pump.writer = {} := by
  cases h with
  | enter | refused | leave => simp [waits] at hwaits
  | write hturn =>
      have hnone := hidle hwaits
      cases hturn with
      | start hstage | check hstage | dequeue hstage | finish hstage | tick hstage
      | hearClosing hstage | look hstage | hand hstage | sentBinary hstage | sentPing hstage
      | sentClose hstage | failed hstage | expire hstage | goAway hstage =>
          rw [hnone] at hstage
          cases hstage
  | _ => exact hidle hwaits

/-- The tasks of a client hand over what is in its queue. -/
lemma Sent.faithful_act (h : v.Sent p past) (hact : Act settings now p v v') :
    Writer.Scene.Faithful ⟨v'.pump.writer, v'.seat.queue, v'.seat.connection⟩ := by
  have hfaithful := h.faithful
  cases hact with
  | enter hstage hopen =>
      have hwriter : v.pump.writer = {} := h.idle (by simp [waits, hstage])
      rw [hwriter] at hfaithful ⊢
      exact ⟨hfaithful.taken_le, hfaithful.handed, fun _ => hfaithful.held rfl⟩
  | write hturn => exact hfaithful.step hturn
  | _ => exact ⟨hfaithful.taken_le, hfaithful.handed, hfaithful.held⟩

lemma Sent.act (h : v.Sent p past) (hact : Act settings now p v v') : v'.Sent p past := by
  obtain ⟨-, -, -, hregistered, -⟩ := hact.frame
  refine ⟨(Nat.add_le_add_right hact.abroad_le _).trans h.once, ?_, ?_, ?_,
    hact.writer_eq h.idle, h.faithful_act hact⟩
  · rw [hregistered]
    exact h.entered
  · rw [hact.log_eq]
    exact h.log
  · rw [hregistered, hact.log_eq]
    exact h.current

/-- Before its registration is served, nothing is in the queue of a client. -/
lemma Sent.log_eq_nil (h : v.Sent p past) (hnone : .register ⟨p, p⟩ ∉ past) :
    v.seat.queue.log = [] := by
  have hlog := h.log
  rw [Command.since_of_not_mem hnone] at hlog
  exact List.prefix_nil.1 hlog

/-- What a client was handed was in its queue. -/
lemma Sent.binaries_prefix_log (h : v.Sent p past) :
    v.pump.writer.binaries <+: v.seat.queue.log :=
  h.faithful.handed.trans (List.take_prefix _ _)

lemma Sent.binaries_eq_nil (h : v.Sent p past) (hnone : .register ⟨p, p⟩ ∉ past) :
    v.pump.writer.binaries = [] := by
  have hlog := h.binaries_prefix_log
  rw [h.log_eq_nil hnone] at hlog
  exact List.prefix_nil.1 hlog

/-- It begins with the first message after the registration of the client. -/
lemma Sent.binaries_prefix (h : v.Sent p past) :
    v.pump.writer.binaries <+: (Command.payloads past).drop
      (Command.payloads (past.takeWhile (· ≠ .register ⟨p, p⟩))).length := by
  by_cases hmem : .register ⟨p, p⟩ ∈ past
  · rw [← Command.payloads_since hmem rfl]
    exact h.binaries_prefix_log.trans h.log
  · rw [h.binaries_eq_nil hmem]
    exact List.nil_prefix

/-- A registered client whose writer goes on misses none of them. -/
lemma Sent.binaries_append (h : v.Sent p past) (hregistered : v.seat.registered = true)
    (hgoes : v.pump.writer.stage.isOver = false) :
    v.pump.writer.binaries ++ v.pump.writer.stage.inHand ++ v.seat.queue.pending
      = (Command.payloads past).drop
        (Command.payloads (past.takeWhile (· ≠ .register ⟨p, p⟩))).length := by
  have hheld : v.pump.writer.binaries ++ v.pump.writer.stage.inHand = v.seat.queue.received :=
    h.faithful.held hgoes
  rw [hheld, Queue.received_append_pending, h.current hregistered,
    Command.payloads_since (h.entered hregistered) rfl]

/-- The hub serves the registration of the client. -/
lemma Sent.enter (h : v.Sent p past) {rest : List Command}
    (hmailbox : v.mailbox = .register ⟨p, p⟩ :: rest) :
    ({ v with seat := v.seat.enter, mailbox := rest } : View).Sent p
      (past ++ [.register ⟨p, p⟩]) := by
  have honce := h.once
  rw [abroad, hmailbox, List.count_cons_self] at honce
  have hnone : .register ⟨p, p⟩ ∉ past := List.count_eq_zero.1 (by omega)
  have hlog : v.seat.enter.queue.log = [] := v.seat.log_enter.1.trans (h.log_eq_nil hnone)
  have hsince := Command.since_append_cons hnone []
  refine ⟨?_, fun _ => by simp, ?_, ?_, h.idle, ?_⟩
  · rw [abroad, List.count_append, List.count_singleton_self]
    simp only [waits] at honce ⊢
    omega
  · rw [hlog]
    exact List.nil_prefix
  · intro _
    rw [hlog, hsince]
    rfl
  · exact h.faithful.of_log (v.seat.log_enter.1 ▸ List.prefix_rfl) v.seat.log_enter.2

/-- The hub serves another request. -/
lemma Sent.serve (h : v.Sent p past) {command : Command} {rest : List Command}
    (hmailbox : v.mailbox = command :: rest) (hne : command ≠ .register ⟨p, p⟩) :
    ({ v with seat := v.seat.apply p command, mailbox := rest } : View).Sent p
      (past ++ [command]) := by
  obtain ⟨htaken, hcases⟩ := Seat.log_apply hne v.seat
  have honce := h.once
  rw [abroad, hmailbox, List.count_cons_of_ne hne] at honce
  have honce' : v.waits.toNat + rest.count (.register ⟨p, p⟩)
      + (past ++ [command]).count (.register ⟨p, p⟩) ≤ 1 := by
    rw [List.count_append, List.count_cons_of_ne hne, List.count_nil, Nat.add_zero]
    exact honce
  rcases hcases with ⟨hgone, hlog⟩ | ⟨hregistered, hlog⟩
  · -- the client is not registered afterwards, and its queue is as it was
    refine ⟨honce', ?_, ?_, ?_, h.idle,
      h.faithful.of_log (hlog ▸ List.prefix_rfl) htaken⟩
    · intro hin
      exact Bool.noConfusion (hgone.symm.trans hin)
    · rw [hlog]
      by_cases hmem : .register ⟨p, p⟩ ∈ past
      · rw [Command.since_append_of_mem hmem, Command.payloads_append]
        exact h.log.trans (List.prefix_append _ _)
      · rw [h.log_eq_nil hmem]
        exact List.nil_prefix
    · intro hin
      exact Bool.noConfusion (hgone.symm.trans hin)
  · have hmem := h.entered hregistered
    have hall : (v.seat.apply p command).queue.log
        = Command.payloads (Command.since (.register ⟨p, p⟩) (past ++ [command])) := by
      rw [hlog, h.current hregistered, Command.since_append_of_mem hmem, Command.payloads_append,
        Command.payloads_singleton]
    refine ⟨honce', fun _ => List.mem_append_left _ hmem, hall ▸ List.prefix_rfl, fun _ => hall,
      h.idle, h.faithful.of_log (hlog ▸ List.prefix_append _ _) htaken⟩

/-- **What a client is sent was broadcast since its registration**, and nothing is left out. -/
theorem Sent.step (h : v.Sent p past) {label : Option Command}
    (hstep : View.Step settings now p label v v') : v'.Sent p (past ++ label.toList) := by
  cases hstep with
  | idle => simpa using h
  | act hact => simpa using h.act hact
  | send hopen hne =>
      have honce := h.once
      rw [← abroad_send hne] at honce
      rw [Option.toList_none, List.append_nil]
      exact ⟨honce, h.entered, h.log, h.current, h.idle, h.faithful⟩
  | @serve _ command rest hloop hmailbox =>
      by_cases hne : command = .register ⟨p, p⟩
      · subst hne
        simpa [Seat.apply] using h.enter hmailbox
      · exact h.serve hmailbox hne
  | stop hloop hmailbox hstage =>
      rw [Option.toList_none, List.append_nil]
      have hgone := v.seat.registered_remove
      obtain ⟨hlog, htaken⟩ := v.seat.log_remove
      refine ⟨h.once, fun hin => Bool.noConfusion (hgone.symm.trans hin), ?_,
        fun hin => Bool.noConfusion (hgone.symm.trans hin), h.idle,
        h.faithful.of_log (hlog ▸ List.prefix_rfl) htaken⟩
      rw [hlog]
      exact h.log
  | lose hloop =>
      rw [Option.toList_none, List.append_nil]
      have honce := h.once
      rw [abroad] at honce
      refine ⟨?_, Bool.noConfusion, ?_, Bool.noConfusion, h.idle, ?_⟩
      · rw [abroad, List.count_nil]
        simp only [waits] at honce ⊢
        omega
      · simp only [Seat.lose]
        split_ifs <;> exact h.log
      · refine h.faithful.of_log ?_ ?_
        · simp only [Seat.lose]
          split_ifs <;> exact List.prefix_rfl
        · simp only [Seat.lose]
          split_ifs <;> rfl

/-- A client that has just connected was sent nothing. -/
lemma Fresh.sent (hnew : v.Fresh p) (hfits : ∀ c ∈ past ++ v.mailbox, c.Fits p) :
    v.Sent p past := by
  have hnone : .register ⟨p, p⟩ ∉ past ++ v.mailbox := fun hmem =>
    (Nat.lt_irrefl p) (hfits _ hmem).2
  rw [List.mem_append, not_or] at hnone
  obtain ⟨capacity, hqueue⟩ := hnew.queue
  refine ⟨?_, ?_, ?_, ?_, fun _ => by rw [hnew.pump], ?_⟩
  · rw [abroad, List.count_eq_zero.2 hnone.1, List.count_eq_zero.2 hnone.2]
    exact Bool.toNat_le _
  · simp [hnew.registered]
  · rw [hqueue]
    exact List.nil_prefix
  · simp [hnew.registered]
  · rw [hnew.pump, hqueue]
    exact ⟨Nat.le_refl _, List.prefix_rfl, fun _ => rfl⟩

end Sent

end View

namespace System

/-- What a client was sent holds of every client in every run. -/
theorem sent_of_run (settings : Settings) {actions : List Action} {t : System} {p : Nat} {v : View}
    (horderly : ∀ action ∈ actions, action.isOrderly = true)
    (hrun : run? actions (start settings) = some t) (hview : t.view? p = some v) :
    v.Sent p (served actions (start settings)) := by
  refine (wired_start settings).run_view (fun past v => v.Sent p past) []
    (fun _ _ _ hnew hfits _ => hnew.sent hfits) (fun _ _ _ _ _ hv hstep => hv.step hstep) horderly
    hrun nofun ?_ hview
  intro v hv
  rw [view?_start] at hv
  cases hv

/-- **The path of an event from the feed to the clients.**  Take any run of a gateway whose clients
send orders and whose hub is there in the end, in which only pumps register, only the pumps and the
bridge broadcast, and no bridge is replaced in the middle of a poll.  The hub broadcasts the event
records that have arrived on the feed, in their order and none twice; the others wait in its
mailbox, with the bridge or in line.  The binary frames that a client was handed are a block of the
same list: it begins with the first record whose broadcast the hub served after the client's
registration, and it is empty until that is served.  As long as the client is registered and its
writer goes on, all that was broadcast since is in these frames, in the writer's hand or in the
queue.  Any other frame that a client was handed is a ping or a close.  And if nobody took the
bridge away in the middle of a poll, the counters of the hub and of the feed agree whenever no poll
is in progress and the mailbox is empty. -/
theorem binaries_of_arrivals (settings : Settings) (actions : List Action) (t : System)
    (hroute : settings.route = .orderEntry)
    (hleaves : follows Action.leavesFeed actions (start settings) = true)
    (hrun : run? actions (start settings) = some t) (hloop : t.loop = .running) :
    let events := Fragment.events (arrivals actions)
    let commands := served actions (start settings)
    Command.payloads commands <+: events
      ∧ (t.attached = true → events = Command.payloads (commands ++ t.mailbox)
        ++ (t.bridge.stage.backlog ++ Fragment.events t.subscription.pending))
      ∧ (∀ (p : Nat) (pump : Pump), t.pumps[p]? = some pump →
        let entered := Command.register ⟨pump.connection, pump.queue⟩
        let earlier := (Command.payloads (commands.takeWhile (· ≠ entered))).length
        pump.writer.binaries <+: events.drop earlier
          ∧ (entered ∉ commands → pump.writer.binaries = [])
          ∧ (∃ c q, t.hub.connections[pump.connection]? = some c
            ∧ t.hub.queues[pump.queue]? = some q
            ∧ (t.hub.isRegistered c.id = true → pump.writer.stage.isOver = false →
              pump.writer.binaries ++ pump.writer.stage.inHand ++ q.pending
                = (Command.payloads commands).drop earlier))
          ∧ ∀ frame ∈ pump.writer.handed, frame = .ping ∨ frame = .close
            ∨ ∃ fragment ∈ arrivals actions, ∃ record,
              Fragment.event? fragment = some record ∧ frame = .binary record)
      ∧ (follows Action.keepsPoll actions (start settings) = true → t.bridge.isPolling = false →
        t.mailbox = [] →
        t.hub.metrics.broadcasts = t.hub.metrics.fragments.accepted
          + t.hub.metrics.fragments.rejected + t.hub.metrics.fragments.executed) := by
  intro events commands
  have horderly := isOrderly_of_follows hleaves hrun
  have hw : t.Wired := (wired_start settings).run horderly hrun
  have hlined := (lined_start settings).run (wired_start settings) hroute hleaves hrun hloop
  simp only [List.nil_append, Bool.true_and] at hlined
  have hbroadcast : Command.payloads commands <+: events := hlined.payloads_prefix
  refine ⟨hbroadcast, ?_, ?_, ?_⟩
  · intro hattached
    obtain ⟨rest, harrived, hrest⟩ := hlined.records
    rw [← hrest hattached]
    exact harrived
  · intro p pump hpump
    obtain ⟨v, hview, rfl⟩ := hw.exists_view hpump
    obtain ⟨-, hconnection, hqueue, hc, hq, hcid, hregistered, -⟩ := hw.parts hview
    rw [hconnection, hqueue]
    intro entered earlier
    have hsent : v.Sent p commands := sent_of_run settings horderly hrun hview
    have hblock : v.pump.writer.binaries <+: events.drop earlier :=
      hsent.binaries_prefix.trans (hbroadcast.drop earlier)
    refine ⟨hblock, hsent.binaries_eq_nil, ?_, ?_⟩
    · refine ⟨_, _, hc, hq, ?_⟩
      intro hin hgoes
      rw [hcid, ← hregistered] at hin
      exact hsent.binaries_append hin hgoes
    · intro frame hframe
      cases frame with
      | ping => exact Or.inl rfl
      | close => exact Or.inr (Or.inl rfl)
      | binary record =>
          have hmem : record ∈ v.pump.writer.binaries := List.mem_filterMap.2 ⟨_, hframe, rfl⟩
          obtain ⟨fragment, hfragment, hevent⟩ :=
            List.mem_filterMap.1 (List.mem_of_mem_drop (hblock.subset hmem))
          exact Or.inr (Or.inr ⟨fragment, hfragment, record, hevent, rfl⟩)
  · intro hkeeps hidle hmailbox
    have hfragments := hlined.fragments hkeeps
    rw [hmailbox, List.append_nil, (Bridge.backlog_of_not_isPolling hidle).2, Nat.add_zero,
      ← hlined.broadcasts] at hfragments
    exact hfragments.symm

/-- A client that comes after the first event, and that sends something itself, is sent the second
event and nothing else. -/
theorem binaries_of_late_client :
    let settings : Settings :=
      { route := .orderEntry, queueCapacity := 4, writeWait := 10, pongWait := 60, pingPeriod := 50,
        pollBatch := 2, idleBackoff := { nanos := 1 } }
    let actions : List Action :=
      [.newBridge, .connect none, .inject [0, 0, 74, 1], .pollOnce, .bridge, .bridge, .bridge,
        .bridge, .bridge, .serve, .enter 0, .read 0 .proceed, .read 0 (.receive (.binary [7])),
        .read 0 .proceed, .inject [0, 0, 88, 2], .inject [0, 0, 65, 3], .newBridge, .pollOnce,
        .serve, .bridge, .bridge, .bridge, .bridge, .bridge, .bridge, .bridge, .serve,
        .write 0 .proceed, .write 0 .proceed, .write 0 .dequeue, .write 0 .proceed,
        .write 0 .proceed]
    ∃ t pump, run? actions (start settings) = some t ∧ t.pumps[0]? = some pump
      ∧ Fragment.events (arrivals actions) = [[74, 1], [65, 3]]
      ∧ pump.writer.binaries = [[65, 3]] ∧ t.hub.metrics.broadcasts = 2
      ∧ pump.writer.binaries <+: (Fragment.events (arrivals actions)).drop 1 := by
  intro settings actions
  obtain ⟨-, -, hclients, hcounters⟩ :=
    binaries_of_arrivals settings actions _ rfl (by decide) rfl rfl
  obtain ⟨hblock, -⟩ := hclients 0 _ rfl
  exact ⟨_, _, rfl, rfl, rfl, rfl, hcounters (by decide) rfl rfl, hblock⟩

end System

end MarketGate
