import MarketGate.Proofs.System.Bridge
import MarketGate.Proofs.System.View

/-!
# Every step of a gateway is a step of its views

`System.step?` says for each action what it makes of the whole gateway.  Here its steps are sorted
by whom they concern: the tasks of one client, the hub, or nobody but the world outside.  What is
sorted like this is then read off for a single view.

* `System.Course` lists the steps of a gateway.  **`Wired.course`**: there are no others, as long as
  registering is left to the pumps.
* `System.Updates` says that only one view has changed; `Wired.of_enter?`, `Wired.of_leave?`,
  `Wired.of_read?` and `Wired.of_write?` say so of the steps of a client's tasks.
* **`Wired.of_course`**: a wired gateway stays wired.
* **`Wired.step_view`**: a step of a gateway is a step of each of its views, with the same label.
-/

namespace MarketGate

namespace Command

variable {n : Nat} {c : Command}

lemma Fits.mono {m : Nat} (h : c.Fits m) (hle : m ≤ n) : c.Fits n := by
  cases c with
  | register r => exact ⟨h.1, h.2.trans_le hle⟩
  | _ => trivial

lemma fits_of_ne (hne : ∀ r, c ≠ .register r) : c.Fits n := by
  cases c with
  | register r => exact absurd rfl (hne r)
  | _ => trivial

/-- The only registration that brings the queue of a pump is that of the pump. -/
lemma any_brings {mailbox : List Command} (h : ∀ c ∈ mailbox, c.Fits n) (p : Nat) :
    (mailbox.any fun c => c.brings p) = decide (.register ⟨p, p⟩ ∈ mailbox) := by
  rw [Bool.eq_iff_iff, List.any_eq_true, decide_eq_true_iff]
  constructor
  · rintro ⟨c, hmem, hbrings⟩
    cases c with
    | register r =>
        obtain ⟨connection, queue⟩ := r
        obtain rfl : queue = p := beq_iff_eq.1 hbrings
        obtain rfl : queue = connection := (h _ hmem).1
        exact hmem
    | _ => exact Bool.noConfusion hbrings
  · exact fun hmem => ⟨_, hmem, beq_self_eq_true p⟩

end Command

/-- A turn of a reader does not change the number of its connection. -/
lemma Reader.Turn.id_eq {settings : Settings} {now : Nat} {stage stage' : Reader.Stage}
    {c c' : Connection} (h : Reader.Turn settings now stage c stage' c') : c'.id = c.id := by
  cases h with
  | claim | claimEarly => exact Connection.id_exchange c _ _
  | _ => rfl

namespace View

section Act

variable {settings : Settings} {now p : Nat} {v v' : View} (h : Act settings now p v v')

include h

/-- No task changes where it stands, the number of its connection or whether it is registered. -/
lemma Act.frame :
    v'.pump.connection = v.pump.connection ∧ v'.pump.queue = v.pump.queue
      ∧ v'.seat.connection.id = v.seat.connection.id ∧ v'.seat.registered = v.seat.registered
      ∧ v'.loop = v.loop := by
  cases h with
  | turn hturn => exact ⟨rfl, rfl, hturn.id_eq, rfl, rfl⟩
  | write hturn => exact ⟨rfl, rfl, hturn.frame.1, rfl, rfl⟩
  | _ => exact ⟨rfl, rfl, rfl, rfl, rfl⟩

/-- The tasks of a client send at most one request, and register nobody else. -/
lemma Act.mailbox_cases :
    v'.mailbox = v.mailbox ∨ ∃ c, v'.mailbox = v.mailbox ++ [c] ∧ v.Open
      ∧ (c = .register ⟨p, p⟩ ∨ ∀ r, c ≠ .register r) := by
  cases h with
  | enter hstage hopen => exact Or.inr ⟨_, rfl, hopen, Or.inl rfl⟩
  | relay hstage hopen => exact Or.inr ⟨_, rfl, hopen, Or.inr nofun⟩
  | part hstage hopen => exact Or.inr ⟨_, rfl, hopen, Or.inr nofun⟩
  | _ => exact Or.inl rfl

end Act

end View

namespace System

/-- Nothing has changed but the pumps, their connections and queues, the mailbox, the clock and what
is about orders. -/
structure Keeps (s s' : System) : Prop where
  settings : s'.settings = s.settings
  loop : s'.loop = s.loop
  nextId : s'.nextId = s.nextId
  bridge : s'.bridge = s.bridge
  subscription : s'.subscription = s.subscription
  attached : s'.attached = s.attached
  registry : s'.hub.registry = s.hub.registry
  activeConnections : s'.hub.metrics.activeConnections = s.hub.metrics.activeConnections
  broadcasts : s'.hub.metrics.broadcasts = s.hub.metrics.broadcasts
  fragments : s'.hub.metrics.fragments = s.hub.metrics.fragments

/-- Only the view of the client at a position has changed, and the mailbox with it. -/
structure Updates (s : System) (p : Nat) (v' : View) (s' : System) : Prop extends s.Keeps s' where
  pumps : s'.pumps = s.pumps.set p v'.pump
  connections : s'.hub.connections = s.hub.connections.set p v'.seat.connection
  queues : s'.hub.queues = s.hub.queues.set p v'.seat.queue
  mailbox : s'.mailbox = v'.mailbox

section Inversion

variable {s s' : System} {p : Nat} {v : View}

/-- A view, part by part. -/
lemma view?_eq_some_iff :
    s.view? p = some v ↔ s.pumps[p]? = some v.pump ∧ s.hub.seat? p = some v.seat
      ∧ s.mailbox = v.mailbox ∧ s.loop = v.loop := by
  unfold view?
  constructor
  · intro h
    split at h
    · next pump seat hpump hseat =>
        cases h
        exact ⟨hpump, hseat, rfl, rfl⟩
    · cases h
  · rintro ⟨hpump, hseat, hmailbox, hloop⟩
    simp only [hpump, hseat, hmailbox, hloop]

lemma modify_eq_set {α : Type} {l : List α} {i : Nat} {a : α} (f : α → α) (h : l[i]? = some a) :
    l.modify i f = l.set i (f a) := by
  rw [List.modify_eq_set_getElem?, h]
  rfl

lemma set_eq_self {α : Type} {l : List α} {i : Nat} {a : α} (h : l[i]? = some a) :
    l.set i a = l := by
  obtain ⟨hlt, rfl⟩ := List.getElem?_eq_some_iff.1 h
  exact List.set_getElem_self hlt

/-- What a view is made of in a wired gateway. -/
lemma Wired.parts (hw : s.Wired) (hview : s.view? p = some v) :
    s.pumps[p]? = some v.pump ∧ v.pump.connection = p ∧ v.pump.queue = p
      ∧ s.hub.connections[p]? = some v.seat.connection ∧ s.hub.queues[p]? = some v.seat.queue
      ∧ v.seat.connection.id = p + 1 ∧ v.seat.registered = s.hub.isRegistered (p + 1)
      ∧ s.mailbox = v.mailbox ∧ s.loop = v.loop := by
  obtain ⟨hpump, hseat, hmailbox, hloop⟩ := view?_eq_some_iff.1 hview
  obtain ⟨hconnection, hqueue⟩ := hw.pump p _ hpump
  obtain ⟨hlt, -⟩ := List.getElem?_eq_some_iff.1 hpump
  obtain ⟨c, q, hc, hq, hcid, hseat'⟩ := hw.hub.exists_seat hlt
  have heq := Option.some.inj (hseat'.symm.trans hseat)
  rw [← heq]
  exact ⟨hpump, hconnection, hqueue, hc, hq, hcid, rfl, hmailbox, hloop⟩

/-- Every pump has a view. -/
lemma Wired.exists_view (hw : s.Wired) {pump : Pump} (hpump : s.pumps[p]? = some pump) :
    ∃ v, s.view? p = some v ∧ v.pump = pump := by
  obtain ⟨hlt, -⟩ := List.getElem?_eq_some_iff.1 hpump
  obtain ⟨c, q, hc, hq, hcid, hseat⟩ := hw.hub.exists_seat hlt
  exact ⟨⟨pump, _, s.mailbox, s.loop⟩, view?_eq_some_iff.2 ⟨hpump, hseat, rfl, rfl⟩, rfl⟩

/-- A pump that asks for registration. -/
lemma Wired.of_enter? (hw : s.Wired) (h : s.enter? p = some s') :
    ∃ v v', s.view? p = some v ∧ View.Act s.settings s.now p v v' ∧ s.Updates p v' s' := by
  simp only [enter?, Option.bind_eq_bind, Option.bind_eq_some_iff] at h
  obtain ⟨pump, hpump, conn, hconn, h⟩ := h
  obtain ⟨v, hview, rfl⟩ := hw.exists_view hpump
  obtain ⟨-, hconnection, hqueue, hc, hq, -, -, hmailbox, hloop⟩ := hw.parts hview
  rw [hconnection, hqueue] at h
  split_ifs at h with hstage
  obtain ⟨⟨taken, s₁⟩, hsend, h⟩ := Option.bind_eq_some_iff.1 h
  have hstage : v.pump.stage = .registering := by simpa using hstage
  rcases send?_eq_some hsend with ⟨hrun, hroom, rfl, rfl⟩ | ⟨hgone, rfl, rfl⟩
  · cases h
    exact ⟨v, _, hview, .enter hstage ⟨hloop ▸ hrun, hmailbox ▸ hroom⟩,
      (by constructor <;> rfl), modify_eq_set _ hpump, (set_eq_self hc).symm,
      (set_eq_self hq).symm, congrArg (fun m => m ++ [Command.register ⟨p, p⟩]) hmailbox⟩
  · cases h
    refine ⟨v, _, hview, .refused hstage (hloop ▸ hgone),
      (by constructor <;> rfl), modify_eq_set _ hpump, modify_eq_set _ hc, ?_,
      hmailbox⟩
    exact (List.modify_modify_eq _ _ p _).trans (modify_eq_set _ hq)

/-- A pump that is done. -/
lemma Wired.of_leave? (hw : s.Wired) (h : s.leave? p = some s') :
    ∃ v v', s.view? p = some v ∧ View.Act s.settings s.now p v v' ∧ s.Updates p v' s' := by
  simp only [leave?, Option.bind_eq_bind, Option.bind_eq_some_iff] at h
  obtain ⟨pump, hpump, h⟩ := h
  obtain ⟨v, hview, rfl⟩ := hw.exists_view hpump
  obtain ⟨-, hconnection, hqueue, hc, hq, -, -, hmailbox, hloop⟩ := hw.parts hview
  rw [hconnection] at h
  split_ifs at h with hdone
  cases h
  exact ⟨v, _, hview, .leave hdone.1 hdone.2.1 hdone.2.2,
    (by constructor <;> rfl), modify_eq_set _ hpump, modify_eq_set _ hc,
    (set_eq_self hq).symm, hmailbox⟩

/-- A move of a writer. -/
lemma Wired.of_write? (hw : s.Wired) {move : Writer.Move} (h : s.write? p move = some s') :
    ∃ v v', s.view? p = some v ∧ View.Act s.settings s.now p v v' ∧ s.Updates p v' s' := by
  simp only [write?, Option.bind_eq_bind, Option.bind_eq_some_iff] at h
  obtain ⟨pump, hpump, conn, hconn, queue, hqueue', after, hwrite, h⟩ := h
  obtain ⟨v, hview, rfl⟩ := hw.exists_view hpump
  obtain ⟨-, hconnection, hqueue, hc, hq, -, -, hmailbox, hloop⟩ := hw.parts hview
  rw [hconnection, hc] at hconn
  rw [hqueue, hq] at hqueue'
  rw [hconnection, hqueue] at h
  obtain rfl := Option.some.inj hconn
  obtain rfl := Option.some.inj hqueue'
  cases h
  exact ⟨v, _, hview, .write (.of_step? hwrite), (by constructor <;> rfl),
    modify_eq_set _ hpump, modify_eq_set _ hc, modify_eq_set _ hq, hmailbox⟩

/-- Dealing with an order is nothing to the hub but a matter of counters. -/
lemma publishOrder_eq (id : Nat) (data : Bytes) (s : System) :
    ∃ (outcomes : OutcomeCounts) (malformed : Nat) (forwarder : Forwarder) (notices : List Notice),
      s.publishOrder id data
        = { s with
            hub := { s.hub with metrics := { s.hub.metrics with outcomes, malformed } }
            forwarder
            notices } := by
  unfold publishOrder forward
  cases Order.decode data with
  | error e => exact ⟨_, _, _, _, rfl⟩
  | ok order =>
      cases Fragment.frame data with
      | error fault => exact ⟨_, _, _, _, rfl⟩
      | ok buffer => exact ⟨_, _, _, _, rfl⟩

/-- A move of a reader. -/
lemma Wired.of_read? (hw : s.Wired) {move : Reader.Move} (h : s.read? p move = some s') :
    ∃ v v', s.view? p = some v ∧ View.Act s.settings s.now p v v' ∧ s.Updates p v' s' := by
  simp only [read?, Option.bind_eq_bind, Option.bind_eq_some_iff] at h
  obtain ⟨pump, hpump, conn, hconn, h⟩ := h
  obtain ⟨v, hview, rfl⟩ := hw.exists_view hpump
  obtain ⟨-, hconnection, -, hc, hq, hcid, -, hmailbox, hloop⟩ := hw.parts hview
  rw [hconnection, hc] at hconn
  obtain rfl := Option.some.inj hconn
  rw [hconnection] at h
  -- a step that does not reach the hub
  have turn {stage : Reader.Stage} {c : Connection} {s₁ : System}
      (hturn : Reader.Turn s.settings s.now v.pump.reader.stage v.seat.connection stage c)
      (hkeeps : s.Keeps s₁) (hmail : s₁.mailbox = s.mailbox)
      (hpumps : s₁.pumps = s.pumps.modify p fun pump => { pump with reader := ⟨stage⟩ })
      (hqueues : s₁.hub.queues = s.hub.queues)
      (hconns : s₁.hub.connections = s.hub.connections.set p c) :
      ∃ v v', s.view? p = some v ∧ View.Act s.settings s.now p v v' ∧ s.Updates p v' s₁ :=
    ⟨v, _, hview, .turn hturn, hkeeps, hpumps.trans (modify_eq_set _ hpump), hconns,
      hqueues.trans (set_eq_self hq).symm, hmail.trans hmailbox⟩
  -- a step in which the reader asks the hub for something
  have send (stage : Bool → Reader.Stage) {command : Command} {taken : Bool} {s₁ s₂ : System}
      (hsend : s.send? command = some (taken, s₁)) (hne : ∀ r, command ≠ .register r)
      (htaken : v.Open → View.Act s.settings s.now p v ((v.send command).setReader (stage true)))
      (hrefused : v.loop ≠ .running →
        View.Act s.settings s.now p v (v.setReader (stage false)))
      (hs₂ : ∃ notices, s₂ = { s₁.setReader p (stage taken) with notices }) :
      ∃ v v', s.view? p = some v ∧ View.Act s.settings s.now p v v' ∧ s.Updates p v' s₂ := by
    obtain ⟨notices, rfl⟩ := hs₂
    rcases send?_eq_some hsend with ⟨hrun, hroom, rfl, rfl⟩ | ⟨hgone, rfl, rfl⟩
    · exact ⟨v, _, hview, htaken ⟨hloop ▸ hrun, hmailbox ▸ hroom⟩,
        (by constructor <;> rfl), modify_eq_set _ hpump,
        (set_eq_self hc).symm, (set_eq_self hq).symm, congrArg (fun m => m ++ [command]) hmailbox⟩
    · have hnothing : s.onHub (Hub.discard command) = s := by
        cases command with
        | register r => exact absurd rfl (hne r)
        | _ => rfl
      rw [hnothing]
      exact ⟨v, _, hview, hrefused (hloop ▸ hgone), (by constructor <;> rfl),
        modify_eq_set _ hpump, (set_eq_self hc).symm, (set_eq_self hq).symm, hmailbox⟩
  split at h
  · next hstage =>
      cases h
      refine turn ?_ (by constructor <;> rfl) rfl rfl rfl (set_eq_self hc).symm
      rw [hstage]
      exact .start
  · next deadline incoming hstage =>
      split_ifs at h with hpong
      · cases h
        refine turn ?_ (by constructor <;> rfl) rfl rfl rfl
          (modify_eq_set _ hc)
        rw [hstage, hpong]
        exact .pong
      · cases h
        refine turn ?_ (by constructor <;> rfl) rfl rfl rfl
          (set_eq_self hc).symm
        rw [hstage]
        exact .receive hpong
  · next deadline hstage =>
      split_ifs at h with hdue
      cases h
      refine turn ?_ (by constructor <;> rfl) rfl rfl rfl (set_eq_self hc).symm
      rw [hstage]
      exact .expire hdue
  · next deadline hstage =>
      split_ifs at h with hpermit
      cases h
      refine turn ?_ (by constructor <;> rfl) rfl rfl rfl (modify_eq_set _ hc)
      rw [hstage]
      exact .hearStopped hpermit
  · next data deadline hstage =>
      obtain ⟨⟨taken, s₁⟩, hsend, h⟩ := Option.bind_eq_some_iff.1 h
      cases h
      exact send (fun taken => if taken then .waiting deadline else .claiming .hubUnavailable) hsend
        nofun (fun hopen => .relay hstage hopen) (fun hgone => .relayRefused hstage hgone)
        ⟨_, rfl⟩
  · next data deadline hstage =>
      cases h
      obtain ⟨outcomes, malformed, forwarder, notices, heq⟩ :=
        publishOrder_eq v.seat.connection.id data s
      rw [heq]
      refine turn ?_ (by constructor <;> rfl) rfl rfl rfl (set_eq_self hc).symm
      rw [hstage]
      exact .publish
  · next reason hstage =>
      cases h
      refine turn ?_ (by constructor <;> rfl) rfl rfl rfl (modify_eq_set _ hc)
      rw [hstage]
      exact .claim
  · next reason hstage =>
      cases h
      refine turn ?_ (by constructor <;> rfl) rfl rfl rfl (modify_eq_set _ hc)
      rw [hstage]
      exact .claimEarly
  · next reason hstage =>
      cases h
      refine turn ?_ (by constructor <;> rfl) rfl rfl rfl (modify_eq_set _ hc)
      rw [hstage]
      exact .wake
  · next reason hstage =>
      cases h
      refine turn ?_ (by constructor <;> rfl) rfl rfl rfl (set_eq_self hc).symm
      rw [hstage]
      exact .report
  · next reason hstage =>
      obtain ⟨⟨taken, s₁⟩, hsend, h⟩ := Option.bind_eq_some_iff.1 h
      cases h
      refine send (fun _ => .done reason) hsend nofun ?_
        (fun hgone => .partRefused hstage hgone) ?_
      · intro hopen
        rw [hcid]
        exact .part hstage hopen
      · cases taken <;> exact ⟨_, rfl⟩
  · cases h

end Inversion

/-! ## All steps -/

/-- The steps of a gateway, with the command that the hub serves in them. -/
inductive Course (s : System) : Option Command → System → Prop
  /-- Nothing happens to pumps and their clients, but someone may send a request. -/
  | still {s' : System} (sent : List Command) (hstill : s.Still s')
      (hmailbox : s'.mailbox = s.mailbox ++ sent)
      (hsent : sent = [] ∨ ∃ c, sent = [c] ∧ (∀ r, c ≠ .register r) ∧ s.loop = .running
        ∧ s.mailbox.length < mailboxCapacity) : Course s none s'
  | connect (peer : Option SocketAddress) :
      Course s none
        { s with
          hub := s.hub.step
            (.enroll { id := s.nextId, peer, connectedAt := s.now } s.settings.queueCapacity)
          nextId := s.nextId + 1
          pumps := s.pumps ++ [{ connection := s.pumps.length, queue := s.pumps.length }] }
  /-- A task of the client at a position acts. -/
  | act {p : Nat} {v v' : View} {s' : System} (hview : s.view? p = some v)
      (hact : View.Act s.settings s.now p v v') (hup : s.Updates p v' s') : Course s none s'
  | serve {command : Command} {rest : List Command} (hloop : s.loop = .running)
      (hmailbox : s.mailbox = command :: rest) (answers : List (Nat × Nat))
      (notices : List Notice) :
      Course s (some command)
        { s with hub := s.hub.apply command, mailbox := rest, answers, notices }
  | stop (hloop : s.loop = .running) (hmailbox : s.mailbox = [])
      (hpumps : ∀ pump ∈ s.pumps, pump.stage = .returned) (notices : List Notice) :
      Course s none { s with hub := s.hub.stop, loop := .stopped, notices }
  | lose (hloop : s.loop = .running) :
      Course s none { s with hub := s.hub.lose s.mailbox, mailbox := [], loop := .lost }

/-- A client connects: its connection and its queue stand where its pump stands. -/
lemma Wired.connect_eq {s : System} (hw : s.Wired) (peer : Option SocketAddress) :
    s.connect peer
      = { s with
          hub := s.hub.step
            (.enroll { id := s.nextId, peer, connectedAt := s.now } s.settings.queueCapacity)
          nextId := s.nextId + 1
          pumps := s.pumps ++ [{ connection := s.pumps.length, queue := s.pumps.length }] } := by
  simp only [connect, enroll, hw.hub.connections, hw.hub.queues]
  rfl

lemma Course.of_still {s s' : System} (hstill : s.Still s') (hmailbox : s'.mailbox = s.mailbox) :
    s.Course none s' :=
  .still [] hstill (by simpa using hmailbox) (Or.inl rfl)

/-- **There are no other steps**, as long as registering is left to the pumps. -/
theorem Wired.course {s s' : System} (hw : s.Wired) {action : Action}
    (horderly : action.isOrderly = true) (hstep : s.step? action = some s') :
    s.Course (s.servedAt action) s' := by
  cases action with
  | advance nanos | detach | inject fragment | loseFeed | setConnected value
  | setBackPressured value | drain =>
      cases hstep
      exact .of_still (by constructor <;> rfl) rfl
  | connect peer =>
      simp only [step?] at hstep
      split_ifs at hstep
      cases hstep
      rw [hw.connect_eq]
      exact .connect peer
  | request command =>
      simp only [step?] at hstep
      split_ifs at hstep
      obtain ⟨⟨taken, s₁⟩, hsend, heq⟩ := Option.map_eq_some_iff.1 hstep
      obtain rfl : s₁ = s' := heq
      have hne : ∀ r, command ≠ .register r := by
        rintro r rfl
        exact Bool.noConfusion horderly
      rcases send?_eq_some hsend with ⟨hrun, hroom, -, rfl⟩ | ⟨-, -, rfl⟩
      · exact .still _ (by constructor <;> rfl) rfl (Or.inr ⟨command, rfl, hne, hrun, hroom⟩)
      · cases command with
        | register r => exact absurd rfl (hne r)
        | _ => exact .of_still (by constructor <;> rfl) rfl
  | loseHub =>
      cases hstep
      unfold loseHub
      split
      · next hloop => exact .lose hloop
      · exact .of_still (by constructor <;> rfl) rfl
      · exact .of_still (by constructor <;> rfl) rfl
  | serve =>
      simp only [step?, serve?] at hstep
      split at hstep
      · next command rest hloop hmailbox =>
          cases hstep
          have hserved : s.servedAt .serve = some command := by simp [servedAt, hmailbox]
          rw [hserved]
          exact .serve hloop hmailbox _ _
      · cases hstep
  | stopHub =>
      simp only [step?, stopHub?] at hstep
      split_ifs at hstep with hcond
      obtain ⟨hloop, hmailbox, -, hall⟩ := hcond
      cases hstep
      refine .stop hloop hmailbox ?_ _
      intro pump hpump
      simpa [Pump.holdsHub] using List.all_eq_true.1 hall pump hpump
  | enter p =>
      obtain ⟨v, v', hview, hact, hup⟩ := hw.of_enter? hstep
      exact .act hview hact hup
  | leave p =>
      obtain ⟨v, v', hview, hact, hup⟩ := hw.of_leave? hstep
      exact .act hview hact hup
  | read p move =>
      obtain ⟨v, v', hview, hact, hup⟩ := hw.of_read? hstep
      exact .act hview hact hup
  | write p move =>
      obtain ⟨v, v', hview, hact, hup⟩ := hw.of_write? hstep
      exact .act hview hact hup
  | newBridge =>
      simp only [step?] at hstep
      split_ifs at hstep
      cases hstep
      exact .of_still (by constructor <;> rfl) rfl
  | pollOnce | runBridge =>
      simp only [step?, startBridge?] at hstep
      split at hstep
      · cases hstep
        exact .of_still (by constructor <;> rfl) rfl
      · cases hstep
  | bridge =>
      obtain ⟨counted, sent, hbridged⟩ := of_bridgeStep? hstep
      refine .still _ hbridged.toStill hbridged.mailbox ?_
      rcases hbridged.turn.sent_cases with rfl | ⟨record, rfl, hloop⟩
      · exact Or.inl rfl
      · exact Or.inr ⟨.broadcast record, rfl, nofun, hloop, hbridged.room (List.cons_ne_nil _ _)⟩

/-! ## Gateways stay wired -/

section Wired

variable {s s' : System} {p : Nat} {v v' : View}

lemma Wired.of_updates (hw : s.Wired) (hview : s.view? p = some v)
    (hact : View.Act s.settings s.now p v v') (hup : s.Updates p v' s') : s'.Wired := by
  obtain ⟨hpump, hconnection, hqueue, hc, hq, -, -, hmailbox, hloop⟩ := hw.parts hview
  obtain ⟨hconnection', hqueue', hid, -, -⟩ := hact.frame
  obtain ⟨hlt, -⟩ := List.getElem?_eq_some_iff.1 hpump
  have hlength : s'.pumps.length = s.pumps.length := by rw [hup.pumps, List.length_set]
  refine ⟨?_, ?_, ?_, ?_, ?_⟩
  · rw [hlength]
    refine hw.hub.of_sublist (hup.registry ▸ List.Sublist.refl _) ?_ ?_
    · intro key
      unfold Hub.idAt
      rw [hup.connections]
      by_cases hkey : p = key
      · subst hkey
        obtain ⟨hlt', -⟩ := List.getElem?_eq_some_iff.1 hc
        rw [List.getElem?_set_self hlt', hc, Option.map_some, Option.map_some, hid]
      · rw [List.getElem?_set_ne hkey]
    · rw [hup.queues, List.length_set]
  · rw [hup.nextId, hlength, hw.nextId]
  · intro k pump hk
    rw [hup.pumps] at hk
    by_cases hkp : p = k
    · subst hkp
      rw [List.getElem?_set_self hlt] at hk
      obtain rfl := Option.some.inj hk
      exact ⟨hconnection'.trans hconnection, hqueue'.trans hqueue⟩
    · rw [List.getElem?_set_ne hkp] at hk
      exact hw.pump k pump hk
  · intro c hmem
    rw [hlength]
    rw [hup.mailbox] at hmem
    rcases hact.mailbox_cases with hsame | ⟨c', hadd, -, hc'⟩
    · exact hw.mailbox c (hmailbox ▸ hsame ▸ hmem)
    · rw [hadd, List.mem_append, List.mem_singleton] at hmem
      rcases hmem with hold | rfl
      · exact hw.mailbox c (hmailbox ▸ hold)
      · rcases hc' with rfl | hne
        · exact ⟨rfl, hlt⟩
        · exact Command.fits_of_ne hne
  · intro hgone
    rw [hup.loop] at hgone
    rw [hup.mailbox]
    rcases hact.mailbox_cases with hsame | ⟨c', -, hopen, -⟩
    · rw [hsame, ← hmailbox, hw.gone hgone]
    · exact absurd (hloop.trans hopen.loop) hgone

/-- **Gateways stay wired**, whatever they do. -/
theorem Wired.of_course (hw : s.Wired) {label : Option Command} (h : s.Course label s') :
    s'.Wired := by
  cases h with
  | still sent hstill hmailbox hsent =>
      have hhub : s'.hub.Wired s.pumps.length :=
        hw.hub.of_sublist (hstill.registry ▸ List.Sublist.refl _)
          (fun key => by rw [Hub.idAt, Hub.idAt, hstill.connections]) (by rw [hstill.queues])
      refine ⟨hstill.pumps ▸ hhub, ?_, hstill.pumps ▸ hw.pump, ?_, ?_⟩
      · rw [hstill.nextId, hstill.pumps, hw.nextId]
      · intro c hmem
        rw [hstill.pumps]
        rw [hmailbox, List.mem_append] at hmem
        rcases hmem with hold | hnew
        · exact hw.mailbox c hold
        · rcases hsent with rfl | ⟨c', rfl, hne, -⟩
          · exact absurd hnew List.not_mem_nil
          · obtain rfl := List.mem_singleton.1 hnew
            exact Command.fits_of_ne hne
      · intro hgone
        rw [hstill.loop] at hgone
        rcases hsent with rfl | ⟨c', -, -, hrun, -⟩
        · rw [hmailbox, hw.gone hgone]
          rfl
        · exact absurd hrun hgone
  | connect peer =>
      refine ⟨?_, ?_, ?_, ?_, hw.gone⟩
      · rw [List.length_append]
        exact hw.hub.enroll hw.nextId _
      · rw [List.length_append]
        exact congrArg (fun n => n + 1) hw.nextId
      · intro k pump hk
        by_cases hlt : k < s.pumps.length
        · rw [List.getElem?_append_left hlt] at hk
          exact hw.pump k pump hk
        · rw [List.getElem?_append_right (Nat.le_of_not_lt hlt)] at hk
          obtain ⟨hk', rfl⟩ := List.getElem?_eq_some_iff.1 hk
          have hzero : k - s.pumps.length = 0 := Nat.lt_one_iff.1 hk'
          simp only [hzero, List.getElem_cons_zero]
          omega
      · intro c hmem
        rw [List.length_append]
        exact (hw.mailbox c hmem).mono (Nat.le_succ _)
  | act hview hact hup => exact hw.of_updates hview hact hup
  | serve hloop hmailbox answers notices =>
      have hfits : ∀ c ∈ s.mailbox, c.Fits s.pumps.length := hw.mailbox
      rw [hmailbox] at hfits
      exact ⟨hw.hub.apply (hfits _ List.mem_cons_self), hw.nextId, hw.pump,
        fun c hmem => hfits c (List.mem_cons_of_mem _ hmem), fun hgone => absurd hloop hgone⟩
  | stop hloop hmailbox hpumps notices =>
      exact ⟨hw.hub.stop, hw.nextId, hw.pump, hw.mailbox, fun _ => hmailbox⟩
  | lose hloop =>
      exact ⟨hw.hub.lose s.mailbox, hw.nextId, hw.pump,
        fun _ hmem => absurd hmem List.not_mem_nil, fun _ => rfl⟩

/-- To begin with there are no pumps. -/
lemma wired_start (settings : Settings) : (start settings).Wired where
  hub := by simpa [start] using Hub.wired_zero
  nextId := by simp [start]
  pump := by simp [start]
  mailbox := by simp [start]
  gone _ := by simp [start]

/-! ## Steps of a view -/

/-- A view is left alone by what leaves the pumps and the hub alone, but for the mailbox. -/
lemma Still.view? (hstill : s.Still s') (hview : s.view? p = some v) :
    s'.view? p = some { v with mailbox := s'.mailbox } := by
  obtain ⟨hpump, hseat, hmailbox, hloop⟩ := view?_eq_some_iff.1 hview
  refine view?_eq_some_iff.2 ⟨hstill.pumps ▸ hpump, ?_, rfl, hstill.loop.trans hloop⟩
  rw [← hseat]
  exact Hub.seat?_congr (by rw [Hub.entryAt?, Hub.entryAt?, hstill.registry])
    (by rw [hstill.connections]) (by rw [hstill.queues])

/-- When the tasks of a client act, the view of that client changes accordingly. -/
lemma Wired.view?_updates (hw : s.Wired) (hview : s.view? p = some v)
    (hact : View.Act s.settings s.now p v v') (hup : s.Updates p v' s') : s'.view? p = some v' := by
  obtain ⟨hpump, -, -, hc, hq, -, hregistered, hmailbox, hloop⟩ := hw.parts hview
  obtain ⟨-, -, -, hregistered', hloop'⟩ := hact.frame
  obtain ⟨hlt, -⟩ := List.getElem?_eq_some_iff.1 hpump
  obtain ⟨hltc, -⟩ := List.getElem?_eq_some_iff.1 hc
  obtain ⟨hltq, -⟩ := List.getElem?_eq_some_iff.1 hq
  refine view?_eq_some_iff.2 ⟨?_, ?_, hup.mailbox, ?_⟩
  · rw [hup.pumps, List.getElem?_set_self hlt]
  · have hreg : s'.hub.isRegistered (p + 1) = v'.seat.registered := by
      rw [hregistered', hregistered, Hub.isRegistered, Hub.isRegistered, hup.registry]
    unfold Hub.seat?
    rw [hup.connections, hup.queues, List.getElem?_set_self hltc, List.getElem?_set_self hltq]
    simp only [hreg]
  · rw [hup.loop, hloop, hloop']

/-- The views of other clients change only by what is put into the mailbox. -/
lemma Updates.view?_of_ne (hup : s.Updates p v' s') {k : Nat} (hne : p ≠ k) {u : View}
    (hview : s.view? k = some u) : s'.view? k = some { u with mailbox := s'.mailbox } := by
  obtain ⟨hpump, hseat, hmailbox, hloop⟩ := view?_eq_some_iff.1 hview
  refine view?_eq_some_iff.2 ⟨?_, ?_, rfl, hup.loop.trans hloop⟩
  · rw [hup.pumps, List.getElem?_set_ne hne]
    exact hpump
  · rw [← hseat]
    exact Hub.seat?_congr (by rw [Hub.entryAt?, Hub.entryAt?, hup.registry])
      (by rw [hup.connections, List.getElem?_set_ne hne])
      (by rw [hup.queues, List.getElem?_set_ne hne])

/-- What others put into the mailbox is a step of a view. -/
lemma step_of_sent {settings : Settings} {now : Nat} (sent : List Command)
    {mailbox : List Command} (hmailbox : mailbox = v.mailbox ++ sent)
    (hsent : sent = [] ∨ ∃ c, sent = [c] ∧ c ≠ .register ⟨p, p⟩ ∧ v.Open) :
    View.Step settings now p none v { v with mailbox } := by
  rcases hsent with rfl | ⟨c, rfl, hne, hopen⟩
  · rw [hmailbox, List.append_nil]
    exact .idle
  · rw [hmailbox]
    exact .send hopen hne

/-- **Every step of a gateway is a step of each of its views.** -/
theorem Wired.step_view (hw : s.Wired) {label : Option Command} (h : s.Course label s')
    (hview : s.view? p = some v) :
    ∃ v', s'.view? p = some v' ∧ View.Step s.settings s.now p label v v' := by
  obtain ⟨hpump, -, -, hc, hq, hcid, hregistered, hmailbox, hloop⟩ := hw.parts hview
  obtain ⟨-, hseat, -, -⟩ := view?_eq_some_iff.1 hview
  obtain ⟨hlt, -⟩ := List.getElem?_eq_some_iff.1 hpump
  cases h with
  | still sent hstill hsend hsent =>
      refine ⟨_, hstill.view? hview, step_of_sent sent (hmailbox ▸ hsend) ?_⟩
      rcases hsent with rfl | ⟨c, rfl, hne, hrun, hroom⟩
      · exact Or.inl rfl
      · exact Or.inr ⟨c, rfl, hne _, hloop ▸ hrun, hmailbox ▸ hroom⟩
  | connect peer =>
      refine ⟨v, view?_eq_some_iff.2 ⟨?_, ?_, hmailbox, hloop⟩, .idle⟩
      · rw [List.getElem?_append_left hlt]
        exact hpump
      · rw [← hseat]
        obtain ⟨hltc, -⟩ := List.getElem?_eq_some_iff.1 hc
        obtain ⟨hltq, -⟩ := List.getElem?_eq_some_iff.1 hq
        exact Hub.seat?_congr rfl (List.getElem?_append_left hltc) (List.getElem?_append_left hltq)
  | @act k u u' _ hview' hact hup =>
      by_cases hk : k = p
      · subst hk
        obtain rfl := Option.some.inj (hview.symm.trans hview')
        exact ⟨u', hw.view?_updates hview hact hup, .act hact⟩
      · obtain ⟨-, -, hmailbox', hloop'⟩ := view?_eq_some_iff.1 hview'
        have hsame : u.mailbox = v.mailbox := hmailbox'.symm.trans hmailbox
        refine ⟨_, hup.view?_of_ne hk hview, ?_⟩
        rcases hact.mailbox_cases with hnone | ⟨c, hadd, hopen, hc'⟩
        · exact step_of_sent [] (by rw [hup.mailbox, hnone, hsame, List.append_nil])
            (Or.inl rfl)
        · refine step_of_sent [c] (by rw [hup.mailbox, hadd, hsame]) (Or.inr ⟨c, rfl, ?_, ?_, ?_⟩)
          · rcases hc' with rfl | hne
            · simpa using hk
            · exact hne _
          · rw [← hloop, hloop']
            exact hopen.loop
          · rw [← hsame]
            exact hopen.room
  | @serve command rest hrun hmail answers notices =>
      have hfits : command.Fits s.pumps.length :=
        hw.mailbox _ (by rw [hmail]; exact List.mem_cons_self)
      refine ⟨_, ?_, .serve (hloop ▸ hrun) (hmailbox ▸ hmail)⟩
      refine view?_eq_some_iff.2 ⟨hpump, ?_, rfl, hloop⟩
      exact (Hub.seat?_apply hw.hub hlt hfits).trans (by rw [hseat]; rfl)
  | stop hrun hmail hpumps notices =>
      have hreturned : v.pump.stage = .returned := hpumps _ (List.mem_of_getElem? hpump)
      refine ⟨_, ?_, .stop (hloop ▸ hrun) (hmailbox ▸ hmail) hreturned⟩
      refine view?_eq_some_iff.2 ⟨hpump, ?_, hmailbox, rfl⟩
      exact (Hub.seat?_stop hw.hub hlt).trans (by rw [hseat]; rfl)
  | lose hrun =>
      refine ⟨_, ?_, .lose (hloop ▸ hrun)⟩
      refine view?_eq_some_iff.2 ⟨hpump, ?_, rfl, rfl⟩
      refine (Hub.seat?_lose hw.hub hlt s.mailbox).trans ?_
      rw [hseat, Command.any_brings hw.mailbox, hmailbox]
      rfl

end Wired

end System

end MarketGate
