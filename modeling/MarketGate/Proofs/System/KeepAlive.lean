import MarketGate.Proofs.System.Deadlines

/-!
# Whoever answers pings is not timed out

A writer pings its client, and the reader of the client waits for the answers.  The two go by timers
of their own, which nobody compares.  That the pings come in time for the reader is a matter of the
configuration: the period of pings is shorter than the time that a reader waits for a pong.

Suppose that the clock shows whole milliseconds and stops at every timer.  Then a ping is handed
over exactly when it is due, and if it is answered at once, the reader has heard from the client
when the period of the next ping begins.  So the next ping is always due before the reader stops to
wait.

* `Writer.Stage.nextPing?` is when the next ping is due.
* `System.isResponsive` says that a client answers its pings at once, and takes at once what is sent
  to it.
* `System.Paced` ties the time of the next ping to the deadline of the reader.  **`Paced.still`**
  and **`Paced.advance`**: so they stay, while time stands still and while it passes.
* **`never_times_out`**: the reader of a responsive client does not leave for want of a pong.
-/

namespace MarketGate

namespace Writer

/-- When the next ping of a writer is due. -/
def Stage.nextPing? : Stage → Option Nat
  | .checking nextPing | .selecting nextPing | .holding _ nextPing | .handing _ nextPing
  | .flushing _ _ nextPing => some nextPing
  | _ => none

/-- Whether a writer waits for the socket. -/
def Stage.isFlushing : Stage → Bool
  | .flushing .. => true
  | _ => false

/-- A ping that is taken up on time is followed by the next one after a period. -/
lemma followingPing_self (period due : Nat) : followingPing period due due = due + period := by
  rw [followingPing, if_neg]
  exact Nat.not_lt.2 (Nat.le_add_right _ _)

/-- When the next ping is due: a period after the start, or after the ping that is taken up, or as
before. -/
lemma nextPing_cases {pingPeriod writeWait now : Nat} {move : Move} {x y : Scene}
    (hmove : step? pingPeriod writeWait now move x = some y) {nextPing : Nat}
    (hafter : y.writer.stage.nextPing? = some nextPing) :
    x.writer.stage = .starting ∧ nextPing = now + pingPeriod
      ∨ (∃ due, x.writer.stage = .selecting due ∧ due ≤ now
        ∧ nextPing = followingPing pingPeriod due now ∧ y.writer.stage = .handing .ping nextPing)
      ∨ x.writer.stage.nextPing? = some nextPing
        ∧ (x.writer.stage = .handing .ping nextPing → move = .proceed) := by
  have hproceed (hstage : x.writer.stage = .handing .ping nextPing) : move = .proceed := by
    cases move with
    | proceed => rfl
    | _ => simp [step?, hstage] at hmove
  cases Turn.of_step? hmove with
  | start hstage => exact Or.inl ⟨hstage, (Option.some.inj hafter).symm⟩
  | tick hstage hdue =>
      obtain rfl := Option.some.inj hafter
      exact Or.inr (Or.inl ⟨_, hstage, hdue, rfl, rfl⟩)
  | check hstage | look hstage =>
      refine Or.inr (Or.inr ⟨?_, hproceed⟩)
      simp only [Scene.moveTo] at hafter
      split_ifs at hafter
      · cases hafter
      · rw [hstage]
        exact hafter
  | dequeue hstage | finish hstage | hand hstage | sentBinary hstage | sentPing hstage =>
      exact Or.inr (Or.inr ⟨by rw [hstage]; exact hafter, hproceed⟩)
  | hearClosing | sentClose | failed | expire | goAway => cases hafter

end Writer

namespace View

section Step

variable {settings : Settings} {now p : Nat} {label : Option Command} {v v' : View}

/-- A writer that is about to start was so before, or its client has not started at all. -/
lemma Sound.starting_cases (hv : v.Sound p) (h : View.Step settings now p label v v')
    (hafter : v'.pump.writer.stage = .starting) :
    v.pump.writer.stage = .starting ∨ v.pump.reader.stage = .idle := by
  rcases h.writer_cases with heq | ⟨hwaits, -⟩ | hturn
  · exact Or.inl (heq ▸ hafter)
  · exact Or.inr (hv.kept.idle hwaits)
  · exact absurd hafter hturn.ne_starting_after

/-- When the next ping of a client is due, after a step. -/
lemma Sound.nextPing_cases (hv : v.Sound p) (h : View.Step settings now p label v v')
    {move? : Option Writer.Move}
    (hgoes : Writer.Goes settings now move? v.pump.writer v'.pump.writer) {nextPing : Nat}
    (hafter : v'.pump.writer.stage.nextPing? = some nextPing) :
    v.pump.writer.stage = .starting ∧ nextPing = now + settings.pingPeriod
      ∨ (∃ due, v.pump.writer.stage.nextPing? = some due ∧ due ≤ now
        ∧ nextPing = Writer.followingPing settings.pingPeriod due now
        ∧ v'.pump.writer.stage = .handing .ping nextPing)
      ∨ v.pump.writer.stage.nextPing? = some nextPing
        ∧ (v.pump.writer.stage = .handing .ping nextPing →
          v'.pump.writer.stage = .handing .ping nextPing ∨ move? = some .proceed) := by
  have hidle : v.pump.writer.stage ≠ .idle := by
    intro hidle
    rcases h.writer_cases with heq | ⟨-, heq⟩ | hturn
    · rw [heq, hidle] at hafter
      cases hafter
    · rw [heq] at hafter
      cases hafter
    · exact hturn.ne_idle hidle
  rcases hv.writer_move h hgoes hidle with heq | ⟨move, x, y, hmove, hx, hy, hturn⟩
  · rw [heq] at hafter ⊢
    exact Or.inr (Or.inr ⟨hafter, fun hstage => Or.inl hstage⟩)
  · rw [← hx]
    rw [← hy] at hafter ⊢
    rcases Writer.nextPing_cases hturn hafter with hstart | ⟨due, hstage, hrest⟩ | ⟨hold, hproceed⟩
    · exact Or.inl hstart
    · exact Or.inr (Or.inl ⟨due, by rw [hstage]; rfl, hrest⟩)
    · exact Or.inr (Or.inr ⟨hold, fun hstage => Or.inr (hproceed hstage ▸ hmove)⟩)

end Step

end View

namespace System

/-- Whether a client has kept up after a run: its writer does not wait for the socket, and if its
reader waits, then it has read a pong at each time at which a ping was handed over. -/
def isPrompt (p : Nat) (past : List Action) (s u : System) : Bool :=
  (u.pumps[p]?).all fun pump =>
    !pump.writer.stage.isFlushing && (pump.reader.stage.deadline?.isNone
      || (pingsOf p past s).all fun time => time ∈ pongsOf p past s)

/-- Whether a client takes what is sent to it and answers pings at once: time does not pass in a run
before the client has kept up. -/
def isResponsive (p : Nat) (actions : List Action) (s : System) : Bool :=
  (List.range actions.length).all fun n =>
    match actions[n]? with
    | some (.advance nanos) =>
      decide (nanos = 0) || (run? (actions.take n) s).all (isPrompt p (actions.take n) s)
    | _ => true

/-- How the time of the next ping and the deadline of a reader fit together at a time. -/
structure Paced (settings : Settings) (pongs pings : List Nat) (now : Nat) (v : View) : Prop where
  kept : v.pump.reader.stage.reason? ≠ some (.timeout "pong")
  next : ∀ nextPing, v.pump.writer.stage.nextPing? = some nextPing →
    now ≤ nextPing ∧ nextPing ≤ now + settings.pingPeriod ∧ nanosPerMilli ∣ nextPing
  early : ∀ deadline, v.pump.reader.stage.deadline? = some deadline → now < deadline
  /-- A reader that starts with its writer, or reads a pong, waits for the full time from then. -/
  renewed : ∀ deadline, v.pump.reader.stage.deadline? = some deadline →
    v.pump.writer.stage = .starting ∨ now ∈ pongs → now + settings.pongWait ≤ deadline
  /-- The reader heard from the client since the period of the next ping began, or that period
  begins now. -/
  covered : ∀ deadline nextPing, v.pump.reader.stage.deadline? = some deadline →
    v.pump.writer.stage.nextPing? = some nextPing →
      nextPing + settings.pongWait ≤ deadline + settings.pingPeriod
        ∨ nextPing = now + settings.pingPeriod
          ∧ (v.pump.writer.stage = .handing .ping nextPing ∨ now ∈ pings)

section Paced

variable {settings : Settings} {pongs pings : List Nat} {now p : Nat} {v v' : View}

/-- A client that has just connected. -/
lemma paced_of_fresh (hnew : v.Fresh p) : Paced settings pongs pings now v := by
  constructor <;> simp [hnew.pump, Reader.Stage.reason?, Reader.Stage.deadline?,
    Writer.Stage.nextPing?]

/-- **While time stands still** the pace is kept. -/
lemma Paced.still (hP : Paced settings pongs pings now v) (hv : v.Sound p)
    (hwait : settings.pingPeriod < settings.pongWait)
    (hperiod : nanosPerMilli ∣ settings.pingPeriod) (hnow : nanosPerMilli ∣ now)
    {label : Option Command}
    (h : View.Step settings now p label v v') {loop : HubLoop} {read? : Option Reader.Move}
    {write? : Option Writer.Move}
    (hreader : Reader.Goes settings now loop v.seat.connection v.pump read? v'.pump.reader.stage)
    (hwriter : Writer.Goes settings now write? v.pump.writer v'.pump.writer)
    {pongs' pings' : List Nat}
    (hpongs : now ∈ pongs' → now ∈ pongs ∨ read? = some (.receive .pong))
    (hpings : now ∈ pings ∨ write? = some .proceed ∧ v.pump.writer.stage.atHand? = some .ping →
      now ∈ pings') : Paced settings pongs' pings' now v' := by
  -- a reader that renews its deadline waits for the full time from now on
  have hdeadline {deadline : Nat} (hafter : v'.pump.reader.stage.deadline? = some deadline) :
      deadline = now + settings.pongWait
        ∨ read? ≠ some (.receive .pong) ∧ v.pump.reader.stage.deadline? = some deadline :=
    (hreader.deadline_cases hafter).imp_left And.right
  have hnext {nextPing : Nat} (hafter : v'.pump.writer.stage.nextPing? = some nextPing) :
      now ≤ nextPing ∧ nextPing ≤ now + settings.pingPeriod ∧ nanosPerMilli ∣ nextPing := by
    rcases hv.nextPing_cases h hwriter hafter with ⟨-, rfl⟩ | ⟨due, hold, hdue, rfl, -⟩ | ⟨hold, -⟩
    · exact ⟨Nat.le_add_right _ _, Nat.le_refl _, Nat.dvd_add hnow hperiod⟩
    · obtain rfl := Nat.le_antisymm hdue (hP.next due hold).1
      rw [Writer.followingPing_self]
      exact ⟨Nat.le_add_right _ _, Nat.le_refl _, Nat.dvd_add hnow hperiod⟩
    · exact hP.next nextPing hold
  refine ⟨?_, fun _ => hnext, ?_, ?_, ?_⟩
  · intro hreason
    rcases hreader.reason_cases hreason with hold | ⟨⟨deadline, hwaiting, hdue⟩, -⟩ | ⟨-, heq⟩ |
      ⟨-, hne⟩ | ⟨-, heq⟩
    · exact hP.kept hold
    · exact absurd hdue (Nat.not_le.2 (hP.early deadline (by rw [hwaiting]; rfl)))
    · cases heq
    · exact hne rfl
    · cases heq
  · intro deadline hafter
    rcases hdeadline hafter with rfl | ⟨-, hold⟩
    · omega
    · exact hP.early deadline hold
  · intro deadline hafter hnew
    rcases hdeadline hafter with rfl | ⟨hpong, hold⟩
    · exact Nat.le_refl _
    · refine hP.renewed deadline hold ?_
      rcases hnew with hstarting | hmem
      · refine (hv.starting_cases h hstarting).imp_right fun hidle => ?_
        rw [hidle] at hold
        cases hold
      · exact Or.inr ((hpongs hmem).resolve_right hpong)
  · intro deadline nextPing hafter hafter'
    rcases hdeadline hafter with rfl | ⟨-, hold⟩
    · have hle := (hnext hafter').2.1
      omega
    · rcases hv.nextPing_cases h hwriter hafter' with ⟨hstarting, rfl⟩ |
        ⟨due, hdue, hle, rfl, hping⟩ | ⟨hsame, hproceed⟩
      · have hfull := hP.renewed deadline hold (Or.inl hstarting)
        omega
      · obtain rfl := Nat.le_antisymm hle (hP.next due hdue).1
        exact Or.inr ⟨Writer.followingPing_self _ _, Or.inl hping⟩
      · refine (hP.covered deadline nextPing hold hsame).imp_right fun ⟨heq, hbegun⟩ => ⟨heq, ?_⟩
        rcases hbegun with hping | hmem
        · refine (hproceed hping).imp_right fun hmove => hpings (Or.inr ⟨hmove, ?_⟩)
          rw [hping]
          rfl
        · exact Or.inr (hpings (Or.inl hmem))

/-- A timer for a whole millisecond goes off on time. -/
lemma tickOf_of_dvd {time : Nat} (hwhole : nanosPerMilli ∣ time) : Bench.tickOf time = time := by
  obtain ⟨millis, rfl⟩ := hwhole
  unfold Bench.tickOf nanosPerMilli
  omega

/-- Time passes when everybody is idle, and not beyond the next ping of a writer that waits for
it. -/
lemma le_nextPing_of_timely {s : System} {nanos : Nat}
    (htimely : isTimely (.advance nanos) s = true) (hview : s.view? p = some v) {nextPing : Nat}
    (hstage : v.pump.writer.stage = .selecting nextPing) (hwhole : nanosPerMilli ∣ nextPing) :
    s.now + nanos ≤ nextPing := by
  obtain ⟨-, hall⟩ := (Bool.and_eq_true _ _).mp htimely
  have hmem : nextPing ∈ s.timers := by
    refine List.mem_append_left _ (List.mem_flatMap.2 ⟨v.pump, ?_, ?_⟩)
    · exact List.mem_of_getElem? (view?_eq_some_iff.1 hview).1
    · exact List.mem_append_right _ (by simp [hstage])
  have hle := of_decide_eq_true (List.all_eq_true.1 hall nextPing hmem)
  rwa [tickOf_of_dvd hwhole] at hle

lemma settled_of_timely {s : System} {nanos : Nat} (htimely : isTimely (.advance nanos) s = true) :
    s.isSettled = true ∧ nanosPerMilli ∣ nanos := by
  obtain ⟨hboth, -⟩ := (Bool.and_eq_true _ _).mp htimely
  obtain ⟨hsettled, hwhole⟩ := (Bool.and_eq_true _ _).mp hboth
  exact ⟨hsettled, of_decide_eq_true hwhole⟩

/-- When everybody is idle, a writer with a ping ahead waits for it, unless it is in a send. -/
lemma Wired.selecting_of_nextPing {s : System} (hw : s.Wired) (hview : s.view? p = some v)
    (hsettled : s.isSettled = true) (hflushing : v.pump.writer.stage.isFlushing = false)
    {nextPing : Nat} (hdue : v.pump.writer.stage.nextPing? = some nextPing) :
    v.pump.writer.stage = .selecting nextPing := by
  rcases hw.writer_of_settled hview hsettled with hstage | hstage | ⟨_, hstage, -⟩ |
    ⟨_, _, _, hstage, -⟩
  · rw [hstage] at hdue
    cases hdue
  · rw [hstage] at hdue
    cases hdue
  · rw [hstage] at hdue
    rw [hstage, Option.some.inj hdue]
  · rw [hstage] at hflushing
    exact Bool.noConfusion hflushing

/-- When everybody is idle, the writer of a client whose reader waits does so as well, unless it is
in a send. -/
lemma Wired.selecting_of_settled {s : System} (hw : s.Wired) (hview : s.view? p = some v)
    (hv : v.Sound p) (hsettled : s.isSettled = true)
    (hflushing : v.pump.writer.stage.isFlushing = false) {deadline : Nat}
    (hdeadline : v.pump.reader.stage.deadline? = some deadline) :
    ∃ nextPing, v.pump.writer.stage = .selecting nextPing := by
  rcases hw.writer_of_settled hview hsettled with hidle | hdone | ⟨nextPing, hstage, -⟩ |
    ⟨_, _, _, hstage, -⟩
  · rw [hv.idle_iff.2 hidle] at hdeadline
    cases hdeadline
  · obtain ⟨reason, hreader⟩ :=
      Reader.stage_of_isDone (hw.isDone_of_settled hview hv hsettled hdone)
    rw [hreader] at hdeadline
    cases hdeadline
  · exact ⟨nextPing, hstage⟩
  · rw [hstage] at hflushing
    exact Bool.noConfusion hflushing

/-- **While time passes** the pace is kept, if the client has answered. -/
lemma Paced.advance {s : System} (hP : Paced settings pongs pings s.now v) (hw : s.Wired)
    (hview : s.view? p = some v) (hv : v.Sound p) (hwait : settings.pingPeriod < settings.pongWait)
    {nanos : Nat} (htimely : isTimely (.advance nanos) s = true) (hpos : 0 < nanos)
    (hpast : ∀ time ∈ pongs, time ≤ s.now)
    (hflushing : v.pump.writer.stage.isFlushing = false)
    (hanswered : v.pump.reader.stage.deadline?.isSome = true → ∀ time ∈ pings, time ∈ pongs) :
    Paced settings pongs pings (s.now + nanos) v := by
  obtain ⟨hsettled, -⟩ := settled_of_timely htimely
  have hnext {nextPing : Nat} (hdue : v.pump.writer.stage.nextPing? = some nextPing) :
      v.pump.writer.stage = .selecting nextPing :=
    hw.selecting_of_nextPing hview hsettled hflushing hdue
  have hlimit {nextPing : Nat} (hstage : v.pump.writer.stage = .selecting nextPing) :
      s.now + nanos ≤ nextPing :=
    le_nextPing_of_timely htimely hview hstage (hP.next nextPing (by rw [hstage]; rfl)).2.2
  -- a period that begins now has seen its ping answered
  have hcovered {deadline nextPing : Nat}
      (hdeadline : v.pump.reader.stage.deadline? = some deadline)
      (hstage : v.pump.writer.stage = .selecting nextPing) :
      nextPing + settings.pongWait ≤ deadline + settings.pingPeriod := by
    rcases hP.covered deadline nextPing hdeadline (by rw [hstage]; rfl) with hle |
      ⟨rfl, hping | hmem⟩
    · exact hle
    · cases hstage.symm.trans hping
    · have hpong := hanswered (by rw [hdeadline]; rfl) s.now hmem
      have hfull := hP.renewed deadline hdeadline (Or.inr hpong)
      omega
  refine ⟨hP.kept, ?_, ?_, ?_, ?_⟩
  · intro nextPing hdue
    obtain ⟨-, hle, hwhole⟩ := hP.next nextPing hdue
    exact ⟨hlimit (hnext hdue), by omega, hwhole⟩
  · intro deadline hdeadline
    obtain ⟨nextPing, hstage⟩ := hw.selecting_of_settled hview hv hsettled hflushing hdeadline
    have hle := hcovered hdeadline hstage
    have hbefore := hlimit hstage
    omega
  · intro deadline hdeadline hnew
    obtain ⟨nextPing, hstage⟩ := hw.selecting_of_settled hview hv hsettled hflushing hdeadline
    rcases hnew with hstarting | hmem
    · cases hstage.symm.trans hstarting
    · have hle := hpast _ hmem
      omega
  · intro deadline nextPing hdeadline hdue
    exact Or.inl (hcovered hdeadline (hnext hdue))

end Paced

section Run

variable {settings : Settings} {kind : Subscription.Kind} {forwarder : Forwarder} {s t u : System}
  {actions past later : List Action} {p : Nat} {v : View}

/-- In virtual time the clock shows whole milliseconds. -/
lemma dvd_now_of_follows (hclock : follows isTimely actions s = true)
    (hrun : run? actions s = some t) (hs : nanosPerMilli ∣ s.now) : nanosPerMilli ∣ t.now := by
  refine run_induction (P := fun past u => follows isTimely past s = true → nanosPerMilli ∣ u.now)
    (fun _ => hs) ?_ hrun hclock
  intro past action u u' hpast ih hstep hfollows
  rw [follows_concat hpast, Bool.and_eq_true] at hfollows
  obtain ⟨hbefore, htimely⟩ := hfollows
  rw [(elapses_step? hstep 0).now]
  refine Nat.dvd_add (ih hbefore) ?_
  cases action with
  | advance nanos => exact (settled_of_timely htimely).2
  | _ => exact Nat.dvd_zero _

/-- A responsive client has kept up whenever time passes. -/
lemma isPrompt_of_isResponsive {nanos : Nat}
    (hresponsive : isResponsive p (past ++ .advance nanos :: later) s = true) (hpos : 0 < nanos)
    (hpast : run? past s = some u) : isPrompt p past s u = true := by
  have hmem : past.length ∈ List.range (past ++ Action.advance nanos :: later).length := by simp
  have hprompt := List.all_eq_true.1 hresponsive past.length hmem
  simpa [List.take_left, hpast, hpos.ne'] using hprompt

/-- **The pace is kept in every run** of a responsive client. -/
theorem paced_of_run (hwait : settings.pingPeriod < settings.pongWait)
    (hperiod : nanosPerMilli ∣ settings.pingPeriod)
    (horderly : ∀ action ∈ actions, action.isOrderly = true)
    (hclock : follows isTimely actions (startOn settings kind forwarder) = true)
    (hresponsive : isResponsive p actions (startOn settings kind forwarder) = true)
    (hrun : run? actions (startOn settings kind forwarder) = some t)
    (hview : t.view? p = some v) :
    Paced settings (pongsOf p actions (startOn settings kind forwarder))
      (pingsOf p actions (startOn settings kind forwarder)) t.now v := by
  refine (run_clients (P := fun past u v => Paced settings
    (pongsOf p past (startOn settings kind forwarder))
    (pingsOf p past (startOn settings kind forwarder)) u.now v) (fun _ _ _ => paced_of_fresh) ?_
    horderly hrun hview).2
  rintro past action later u u' x x' rfl hpast hstep hw hx hx' hv hviewstep hP
  have hsettings : u.settings = settings := settings_run hpast
  rw [follows_append hpast, Bool.and_eq_true, follows_cons hstep, Bool.and_eq_true] at hclock
  obtain ⟨hbefore, htimely, -⟩ := hclock
  have hnow := (elapses_step? hstep p).now
  by_cases helapsed : action.elapsed = 0
  · rw [helapsed, Nat.add_zero] at hnow
    rw [hsettings] at hviewstep
    have hreader := hw.reader_goes hstep hx hx'
    have hwriter := (passes_step? hstep p).goes hx hx'
    rw [hsettings] at hreader hwriter
    rw [hnow]
    refine hP.still hv hwait hperiod (dvd_now_of_follows hbefore hpast (Nat.dvd_zero _)) hviewstep
      hreader hwriter ?_ ?_
    · intro hmem
      exact ((mem_timesOf_concat hpast hstep).1 hmem).imp_right fun ⟨hpong, _⟩ =>
        of_decide_eq_true hpong
    · intro hbegun
      refine (mem_timesOf_concat hpast hstep).2 (hbegun.imp_right fun hping => ⟨?_, rfl⟩)
      rw [frameAtHand?_eq hx]
      exact decide_eq_true hping
  · cases action with
    | advance nanos =>
        have hpos : 0 < nanos := Nat.pos_of_ne_zero helapsed
        cases hstep
        obtain rfl := Option.some.inj (hx.symm.trans hx')
        have hprompt := isPrompt_of_isResponsive hresponsive hpos hpast
        simp only [isPrompt, (view?_eq_some_iff.1 hx).1, Option.all_some, Bool.and_eq_true,
          Bool.not_eq_true', Bool.or_eq_true, Option.isNone_iff_eq_none, List.all_eq_true,
          decide_eq_true_eq] at hprompt
        obtain ⟨hflushing, hanswered⟩ := hprompt
        -- no ping and no pong is seen while time passes
        rw [hnow, pongsOf, timesOf_concat_of_not hpast rfl rfl, pingsOf,
          timesOf_concat_of_not hpast rfl rfl]
        refine hP.advance hw hx hv hwait htimely hpos (timesOf_le_now hpast) hflushing ?_
        intro hwaits
        refine hanswered.resolve_left fun hnone => ?_
        rw [hnone] at hwaits
        cases hwaits
    | _ => exact absurd rfl helapsed

/-- **A responsive client is never timed out.**  Take any run of a gateway with a valid
configuration, in virtual time: the clock moves only when everybody is idle, and not beyond the next
timer.  Take any client that takes at once what is sent to it and answers every ping at once,
whatever else it sends and whatever is broadcast.  Then its reader does not leave for want of a
pong, however long the run. -/
theorem never_times_out (c : Config) (hvalid : c.validate = .ok ())
    (hwhole : nanosPerMilli ∣ c.pingPeriod.nanos) (kind : Subscription.Kind) (forwarder : Forwarder)
    (actions : List Action) (s : System) (p : Nat) (pump : Pump)
    (horderly : ∀ action ∈ actions, action.isOrderly = true)
    (hclock : follows isTimely actions (startOn c.settings kind forwarder) = true)
    (hresponsive : isResponsive p actions (startOn c.settings kind forwarder) = true)
    (hrun : run? actions (startOn c.settings kind forwarder) = some s)
    (hpump : s.pumps[p]? = some pump) :
    pump.reader.stage.reason? ≠ some (.timeout "pong") := by
  obtain ⟨-, -, -, hwait⟩ := c.validate_eq_ok_iff.1 hvalid
  have hw : s.Wired := (wired_startOn c.settings kind forwarder).run horderly hrun
  obtain ⟨v, hview, rfl⟩ := hw.exists_view hpump
  exact (paced_of_run hwait hwhole horderly hclock hresponsive hrun hview).kept

/-- A client answers two pings, sends an order that is none, and waits for the third ping, twice as
long after its start as it could have kept silent. -/
theorem never_times_out_of_answers :
    let c : Config :=
      { pingPeriod := ⟨2 * nanosPerMilli, by decide⟩, pongWait := ⟨3 * nanosPerMilli, by decide⟩ }
    let ping : List Action :=
      [.advance (2 * nanosPerMilli), .write 0 .tick, .write 0 .proceed, .write 0 .sent,
        .write 0 .proceed, .read 0 (.receive .pong)]
    let actions : List Action :=
      [.connect none, .enter 0, .serve, .read 0 .proceed, .write 0 .proceed, .write 0 .proceed]
        ++ ping ++ [.read 0 (.receive (.binary [7])), .read 0 .proceed] ++ ping
        ++ [.advance (2 * nanosPerMilli)]
    ∃ s pump, c.validate = .ok ()
      ∧ follows isTimely actions (startOn c.settings .direct {}) = true
      ∧ isResponsive 0 actions (startOn c.settings .direct {}) = true
      ∧ run? actions (startOn c.settings .direct {}) = some s ∧ s.pumps[0]? = some pump
      ∧ s.now = 6 * nanosPerMilli ∧ pump.reader.stage = .waiting (7 * nanosPerMilli)
      ∧ pump.reader.stage.reason? ≠ some (.timeout "pong") := by
  intro c ping actions
  let s := (run? actions (startOn c.settings .direct {})).get (by decide +kernel)
  let pump := (s.pumps[0]?).get (by decide +kernel)
  have hvalid : c.validate = .ok () := by decide +kernel
  have hclock : follows isTimely actions (startOn c.settings .direct {}) = true := by decide +kernel
  have hresponsive : isResponsive 0 actions (startOn c.settings .direct {}) = true := by
    decide +kernel
  have hs : run? actions (startOn c.settings .direct {}) = some s := (Option.some_get _).symm
  have hpump : s.pumps[0]? = some pump := (Option.some_get _).symm
  exact ⟨s, pump, hvalid, hclock, hresponsive, hs, hpump, by decide +kernel, by decide +kernel,
    never_times_out c hvalid (by decide +kernel) .direct {} actions s 0 pump (by decide) hclock
      hresponsive hs hpump⟩

end Run

end System

end MarketGate
