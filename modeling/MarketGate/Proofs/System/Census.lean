import MarketGate.Proofs.Hub.Ledger
import MarketGate.Proofs.System.Sides

/-!
# A census of the clients

How many clients there are is told in two ways: by the metrics at any time, and by the answer to a
request that asks for it.  The metrics agree with what the hub has done (`Hub.Ledger.run`).  The
request waits in the mailbox like any other, so its answer tells the size of the registry when the
requests ahead of it are served and no other is.

* `System.Posts` is what others than the hub do to its mailbox and its answers, and
  **`System.posts_step?`** says that they do no more.
* **`System.mailbox_prefix_run`**: what waits in the mailbox of a running hub is served in its
  order, before anything that is sent later.
* **`System.census`**: what the hub shows and what it answers.
-/

namespace MarketGate

namespace System

variable {s t : System} {actions : List Action} {action : Action}

/-! ## The mailbox -/

/-- What others than the hub do to its mailbox and to its answers: as long as the hub is there, the
mailbox is added to at its end, and no answer is given. -/
structure Posts (sent : List Command) (s s' : System) : Prop where
  answers : s'.answers = s.answers
  mailbox : s'.loop = .running → s'.mailbox = s.mailbox ++ sent

lemma Posts.of_same {s' : System} (hanswers : s'.answers = s.answers)
    (hmailbox : s'.mailbox = s.mailbox) : Posts [] s s' :=
  ⟨hanswers, fun _ => hmailbox.trans (List.append_nil _).symm⟩

/-- Sending a request adds it or nothing. -/
lemma posts_send? {s' : System} {command : Command} {taken : Bool}
    (h : s.send? command = some (taken, s')) : ∃ sent, sent ⊆ [command] ∧ Posts sent s s' := by
  rcases send?_eq_some h with ⟨-, -, -, rfl⟩ | ⟨-, -, rfl⟩
  · exact ⟨[command], List.Subset.refl _, rfl, fun _ => rfl⟩
  · exact ⟨[], List.nil_subset _, .of_same rfl rfl⟩

/-- A reader adds no more than what it has to send on, or that its client leaves. -/
lemma posts_read? {s' : System} {p : Nat} {move : Reader.Move} (h : s.read? p move = some s') :
    ∃ sent, (∀ ticket, .count ticket ∉ sent) ∧ Posts sent s s' := by
  have still {s₁ : System} (hanswers : s₁.answers = s.answers) (hmailbox : s₁.mailbox = s.mailbox) :
      ∃ sent, (∀ ticket, .count ticket ∉ sent) ∧ Posts sent s s₁ :=
    ⟨[], nofun, .of_same hanswers hmailbox⟩
  simp only [read?, Option.bind_eq_bind, Option.bind_eq_some_iff] at h
  obtain ⟨pump, -, conn, -, h⟩ := h
  split at h
  · cases h
    exact still rfl rfl
  · split_ifs at h <;> cases h
    · exact still rfl rfl
    · exact still rfl rfl
  · split_ifs at h
    cases h
    exact still rfl rfl
  · split_ifs at h
    cases h
    exact still rfl rfl
  · obtain ⟨⟨taken, s₁⟩, hsend, h⟩ := Option.bind_eq_some_iff.1 h
    obtain ⟨sent, hsub, hposts⟩ := posts_send? hsend
    cases h
    exact ⟨sent, fun _ hmem => by simpa using hsub hmem, hposts.answers, hposts.mailbox⟩
  · cases h
    obtain ⟨outcomes, malformed, forwarder, notices, heq⟩ := publishOrder_eq conn.id ‹Bytes› s
    rw [heq]
    exact still rfl rfl
  · cases h
    exact still rfl rfl
  · cases h
    exact still rfl rfl
  · cases h
    exact still rfl rfl
  · cases h
    exact still rfl rfl
  · obtain ⟨⟨taken, s₁⟩, hsend, h⟩ := Option.bind_eq_some_iff.1 h
    obtain ⟨sent, hsub, hposts⟩ := posts_send? hsend
    cases h
    cases taken <;>
      exact ⟨sent, fun _ hmem => by simpa using hsub hmem, hposts.answers, hposts.mailbox⟩
  · cases h

/-- Only the hub takes anything out of its mailbox and gives answers, and only someone outside asks
for one. -/
theorem posts_step? {s' : System} (hstep : s.step? action = some s') (hne : action ≠ .serve) :
    ∃ sent, (∀ ticket, .count ticket ∈ sent → action = .request (.count ticket))
      ∧ Posts sent s s' := by
  -- a step that adds no question
  have unasked {sent : List Command} {s₁ : System} (hnone : ∀ ticket, .count ticket ∉ sent)
      (hposts : Posts sent s s₁) :
      ∃ sent, (∀ ticket, .count ticket ∈ sent → action = .request (.count ticket))
        ∧ Posts sent s s₁ :=
    ⟨sent, fun ticket hmem => absurd hmem (hnone ticket), hposts⟩
  have still {s₁ : System} (hanswers : s₁.answers = s.answers) (hmailbox : s₁.mailbox = s.mailbox) :
      ∃ sent, (∀ ticket, .count ticket ∈ sent → action = .request (.count ticket))
        ∧ Posts sent s s₁ :=
    ⟨[], nofun, .of_same hanswers hmailbox⟩
  cases action with
  | serve => exact absurd rfl hne
  | request command =>
      simp only [step?] at hstep
      split_ifs at hstep
      obtain ⟨⟨taken, s₁⟩, hsend, rfl⟩ := Option.map_eq_some_iff.1 hstep
      obtain ⟨sent, hsub, hposts⟩ := posts_send? hsend
      refine ⟨sent, fun ticket hmem => ?_, hposts⟩
      rw [List.mem_singleton.1 (hsub hmem)]
  | loseHub =>
      cases hstep
      unfold loseHub
      split
      · exact ⟨[], fun _ hmem => absurd hmem List.not_mem_nil, rfl, HubLoop.noConfusion⟩
      · exact still rfl rfl
      · exact still rfl rfl
  | stopHub =>
      simp only [step?, stopHub?] at hstep
      split_ifs at hstep
      cases hstep
      exact still rfl rfl
  | enter p =>
      simp only [step?, enter?, Option.bind_eq_bind, Option.bind_eq_some_iff] at hstep
      obtain ⟨pump, -, conn, -, h⟩ := hstep
      split_ifs at h
      obtain ⟨⟨taken, s₁⟩, hsend, h⟩ := Option.bind_eq_some_iff.1 h
      obtain ⟨sent, hsub, hposts⟩ := posts_send? hsend
      have hnone : ∀ ticket, .count ticket ∉ sent := fun _ hmem => by simpa using hsub hmem
      cases taken <;> cases h
      · exact unasked hnone ⟨hposts.answers, hposts.mailbox⟩
      · exact unasked hnone ⟨hposts.answers, hposts.mailbox⟩
  | leave p =>
      simp only [step?, leave?, Option.bind_eq_bind, Option.bind_eq_some_iff] at hstep
      obtain ⟨pump, -, h⟩ := hstep
      split_ifs at h
      cases h
      exact still rfl rfl
  | read p move =>
      obtain ⟨sent, hnone, hposts⟩ := posts_read? hstep
      exact unasked hnone hposts
  | write p move =>
      simp only [step?, write?, Option.bind_eq_bind, Option.bind_eq_some_iff] at hstep
      obtain ⟨pump, -, conn, -, queue, -, after, -, h⟩ := hstep
      cases h
      exact still rfl rfl
  | bridge =>
      obtain ⟨counted, sent, hbridged⟩ := of_bridgeStep? hstep
      have hanswers : s'.answers = s.answers := by
        obtain ⟨bridge, subscription, fragments, feedConnected, mailbox, notices, rfl, -⟩ :=
          bridgeStep?_eq hstep
        rfl
      exact unasked (by simp) ⟨hanswers, fun _ => hbridged.mailbox⟩
  | newBridge | connect peer =>
      simp only [step?] at hstep
      split_ifs at hstep
      cases hstep
      exact still rfl rfl
  | pollOnce | runBridge =>
      simp only [step?, startBridge?] at hstep
      split at hstep
      · cases hstep
        exact still rfl rfl
      · cases hstep
  | _ =>
      cases hstep
      exact still rfl rfl

/-- The hub serves the oldest request, and tells what it answers. -/
lemma serve?_eq {command : Command} {rest : List Command} (hloop : s.loop = .running)
    (hmailbox : s.mailbox = command :: rest) :
    ∃ u, s.serve? = some u ∧ u.hub = s.hub.apply command ∧ u.mailbox = rest
      ∧ u.answers = (s.hub.answer? command).toList ++ s.answers := by
  unfold serve?
  rw [hloop, hmailbox]
  exact ⟨_, rfl, rfl, rfl, rfl⟩

lemma mailbox_prefix_served {s' : System} (hstep : s.step? action = some s')
    (hloop : s'.loop = .running) :
    s.mailbox <+: (s.servedAt action).toList ++ s'.mailbox := by
  by_cases hserve : action = .serve
  · subst hserve
    have hrun : s.loop = .running := running_step? hstep hloop
    cases hmailbox : s.mailbox with
    | nil => exact List.nil_prefix
    | cons command rest =>
        obtain ⟨u, hserve, -, hrest, -⟩ := serve?_eq hrun hmailbox
        obtain rfl : u = s' := Option.some.inj (hserve.symm.trans hstep)
        rw [servedAt, hmailbox, hrest]
        exact List.prefix_refl _
  · have hnone : s.servedAt action = none := by
      cases action with
      | serve => exact absurd rfl hserve
      | _ => rfl
    obtain ⟨sent, -, hposts⟩ := posts_step? hstep hserve
    rw [hnone, hposts.mailbox hloop]
    exact List.prefix_append _ _

/-- A hub that is there in the end was there all along. -/
lemma running_run? (hrun : run? actions s = some t) (hloop : t.loop = .running) :
    s.loop = .running := by
  induction actions generalizing s with
  | nil =>
      obtain rfl := Option.some.inj hrun
      exact hloop
  | cons action actions ih =>
      obtain ⟨s', hstep, hrest⟩ := run?_cons hrun
      exact running_step? hstep (ih hrest)

/-- **What waits in the mailbox of a running hub is served first**, in its order. -/
theorem mailbox_prefix_run (hrun : run? actions s = some t) (hloop : t.loop = .running) :
    s.mailbox <+: served actions s ++ t.mailbox := by
  induction actions generalizing s with
  | nil =>
      obtain rfl := Option.some.inj hrun
      exact List.prefix_refl _
  | cons action actions ih =>
      obtain ⟨s', hstep, hrest⟩ := run?_cons hrun
      rw [served_cons hstep, List.append_assoc]
      exact (mailbox_prefix_served hstep (running_run? hrest hloop)).trans
        ((List.prefix_append_right_inj _).2 (ih hrest))

/-- So a request has its turn when those ahead of it are served. -/
lemma served_eq_of_length {command : Command} {ahead : List Command}
    (hmailbox : s.mailbox = ahead ++ [command]) (hrun : run? actions s = some t)
    (hloop : t.loop = .running) (hlength : (served actions s).length = ahead.length) :
    served actions s = ahead ∧ ∃ rest, t.mailbox = command :: rest := by
  obtain ⟨rest, hrest⟩ := mailbox_prefix_run hrun hloop
  rw [hmailbox, List.append_assoc] at hrest
  obtain ⟨hserved, hmine⟩ := List.append_inj hrest hlength.symm
  exact ⟨hserved.symm, rest, hmine.symm⟩

/-! ## The census -/

/-- **What the hub shows and what it answers.**  Take any history of a hub from its beginning, in
which connections come into being connecting.  The gauge is the size of the registry; the registry
is a map, and every entry stands under the number of its connection; a connection that is registered
has an entry, and one whose entry was removed has begun to end; registrations are the entries that
are there and those that were removed, and the other counters count the entries that were removed
because their queue was full and the broadcasts.

And take any run of a gateway after somebody has asked how many clients there are.  When as many
requests were served as were ahead of this one, these are the ones, and the next thing that the hub
does is to answer with the size of its registry. -/
theorem census (events : List Hub.Event)
    (hnew : ∀ c n, .enroll c n ∈ events → c.phase = .connecting) :
    let h := ({} : Hub).run events
    h.metrics.activeConnections = h.registry.length
      ∧ (h.registry.map Prod.fst).Nodup
      ∧ (∀ e ∈ h.registry, ∃ c, h.connections[e.2.connection]? = some c ∧ c.id = e.1)
      ∧ (∀ key c, h.connections[key]? = some c → c.phase = .registered →
          ∃ e ∈ h.registry, e.2.connection = key)
      ∧ (∀ e ∈ Hub.removed events {}, ∃ c, h.connections[e.2.connection]? = some c
          ∧ (c.phase = .draining ∨ c.phase = .closing ∨ c.phase = .closed))
      ∧ h.metrics.registrations = h.registry.length + (Hub.removed events {}).length
      ∧ h.metrics.backpressureDisconnects = (Hub.crowded events {}).length
      ∧ h.metrics.broadcasts = (Hub.broadcasts events).length
      ∧ ∀ (s s₁ t : System) (ticket : Nat) (later : List Action),
          s.step? (.request (.count ticket)) = some s₁ → run? later s₁ = some t →
          t.loop = .running → (served later s₁).length = s.mailbox.length →
          served later s₁ = s.mailbox
            ∧ ∃ u, t.step? .serve = some u ∧ u.hub = t.hub
              ∧ u.answers = (ticket, t.hub.registry.length) :: t.answers := by
  intro h
  have hledger : h.Ledger ([] ++ Hub.removed events {}) ([] ++ Hub.crowded events {})
      ([] ++ Hub.broadcasts events) := Hub.ledger_nil.run hnew
  simp only [List.nil_append] at hledger
  refine ⟨hledger.counted, hledger.sound.keys, ?_, hledger.seated, ?_, hledger.registrations,
    hledger.backpressureDisconnects, hledger.broadcasts, ?_⟩
  · intro e he
    exact Option.map_eq_some_iff.1 (hledger.sound.named e he)
  · intro e he
    obtain ⟨c, hc, hover⟩ := hledger.left e he
    refine ⟨c, hc, ?_⟩
    cases hphase : c.phase with
    | connecting | registered =>
        rw [hphase] at hover
        exact Bool.noConfusion hover
    | draining => exact Or.inl rfl
    | closing => exact Or.inr (Or.inl rfl)
    | closed => exact Or.inr (Or.inr rfl)
  · intro s s₁ t ticket later hrequest hrun hloop hlength
    have hmailbox : s₁.mailbox = s.mailbox ++ [.count ticket] := by
      simp only [step?] at hrequest
      split_ifs at hrequest
      obtain ⟨⟨taken, s₂⟩, hsend, rfl⟩ := Option.map_eq_some_iff.1 hrequest
      rcases send?_eq_some hsend with ⟨-, -, -, rfl⟩ | ⟨hgone, -, rfl⟩
      · rfl
      · exact absurd (running_run? hrun hloop) hgone
    obtain ⟨hserved, rest, hnext⟩ := served_eq_of_length hmailbox hrun hloop hlength
    obtain ⟨u, hserve, hhub, -, hanswers⟩ := serve?_eq hloop hnext
    exact ⟨hserved, u, hserve, hhub, hanswers⟩

/-- Two connections have the same number, and the second registration is ignored.  The first client
closes while its queue is full, and the next broadcast removes it.  Behind a broadcast that finds a
queue full, a request is told that nobody is there any more. -/
theorem census_of_full_queues :
    let events : List Hub.Event :=
      [.enroll { id := 1 } 1, .enroll { id := 1 } 1, .enroll { id := 2 } 1,
        .command (.register ⟨0, 0⟩), .command (.register ⟨1, 1⟩), .command (.register ⟨2, 2⟩),
        .command (.broadcast [1]), .poll 2, .beginClosing 0, .command (.broadcast [2])]
    let h := ({} : Hub).run events
    let s : System :=
      { settings :=
          { route := .relay, queueCapacity := 1, writeWait := 10, pongWait := 60, pingPeriod := 50,
            pollBatch := 2, idleBackoff := { nanos := 1 } }
        hub :=
          { registry := [(1, ⟨0, 0⟩)], connections := [{ id := 1, phase := .registered }],
            queues := [{ capacity := 1, log := [[1]] }],
            metrics := { activeConnections := 1, registrations := 1, broadcasts := 1 } }
        mailbox := [.broadcast [2]] }
    h.metrics.registrations = 2 ∧ h.metrics.backpressureDisconnects = 1
      ∧ h.metrics.activeConnections = 1
      ∧ ∃ s₁ t u, s.step? (.request (.count 7)) = some s₁ ∧ run? [.serve] s₁ = some t
        ∧ t.step? .serve = some u ∧ u.answers = [(7, 0)] := by
  intro events h s
  have hnew : ∀ c n, .enroll c n ∈ events → c.phase = .connecting := by
    intro c n hmem
    have hthese : c = { id := 1 } ∧ n = 1 ∨ c = { id := 2 } ∧ n = 1 := by simpa [events] using hmem
    rcases hthese with ⟨rfl, -⟩ | ⟨rfl, -⟩ <;> rfl
  obtain ⟨hgauge, -, -, -, -, hregistrations, hcrowd, -, hanswer⟩ := census events hnew
  obtain ⟨-, u, hserve, -, hanswers⟩ := hanswer s _ _ 7 [.serve] rfl rfl rfl rfl
  exact ⟨hregistrations.trans (by decide +kernel), hcrowd.trans (by decide +kernel),
    hgauge.trans (by decide +kernel), _, _, u, rfl, rfl, hserve, hanswers⟩

end System

end MarketGate
