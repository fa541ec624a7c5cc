import MarketGate.Proofs.Pump.Writer

/-!
# How a writer ends

A writer leaves its loop for one of four reasons: a send broke off, it has sent a Close frame, it
saw that the reader closes, or it was woken by the reader.  It hands over a Close frame only when
its queue is finished, so whoever finds a Close frame among the frames of a writer knows that all
messages were handed over before it and that nothing comes after it.

* `Stage.isFinal` are the stages of a writer that hands nothing over any more.
* `Scene.Finishing` says what a Close frame means, of a writer and its queue.
* **`Scene.Finishing.step`**: every move keeps it, and so does what others do to a queue
  (`Scene.Finishing.of_queue`).
* `Turn.isOver_cases`: the four reasons.
* `Turn.handed_cases`: no move but one hands over a frame.
-/

namespace MarketGate

namespace Writer

/-- Whether a move breaks a send off: the socket failed, or did not take the frame in time. -/
def Move.breaks : Move → Bool
  | .failed _ | .expire => true
  | _ => false

/-- Whether a move is the writer's own, and not one of the socket. -/
def Move.isOwn : Move → Bool
  | .sent | .failed _ => false
  | _ => true

/-- What broke the last send off, as long as the writer is not gone. -/
def Stage.fault? : Stage → Option Fault
  | .ending fault? => fault?
  | _ => none

/-- Whether a writer hands nothing over any more: its Close frame is on the way, or it is out of its
loop. -/
def Stage.isFinal : Stage → Bool
  | .flushing .close _ _ | .ending _ | .done => true
  | _ => false

section Step

variable {pingPeriod writeWait now : Nat} {move : Move} {v v' : Scene}

/-- A send that breaks off is the end of the loop, and nothing is handed over in it. -/
lemma of_breaks (h : step? pingPeriod writeWait now move v = some v') (hmove : move.breaks = true) :
    v'.writer.stage.isOver = true ∧ v'.writer.handed = v.writer.handed := by
  unfold step? at h
  split at h
  any_goals exact Bool.noConfusion hmove
  · cases h
    exact ⟨rfl, rfl⟩
  · split_ifs at h
    cases h
    exact ⟨rfl, rfl⟩
  · cases h

/-- Nothing else leaves a fault behind. -/
lemma fault?_of_not_breaks (h : step? pingPeriod writeWait now move v = some v')
    (hmove : move.breaks = false) : v'.writer.stage.fault? = none := by
  have hturn := Turn.of_step? h
  cases hturn with
  | failed hstage | expire hstage =>
      -- in the middle of a send, the only other move is that the frame is taken
      cases move with
      | sent =>
          simp only [step?, hstage] at h
          split at h <;> cases h
      | failed | expire => exact Bool.noConfusion hmove
      | _ => simp [step?, hstage] at h
  | check hstage | look hstage =>
      simp only [Scene.moveTo]
      split_ifs <;> rfl
  | _ => rfl

/-- A move hands nothing over, or it hands over the frame that the writer stood before. -/
lemma Turn.handed_cases (h : Turn pingPeriod writeWait now v v') :
    v'.writer.handed = v.writer.handed
      ∨ ∃ frame nextPing, v.writer.stage = .handing frame nextPing
        ∧ v'.writer = ⟨.flushing frame (now + writeWait) nextPing, v.writer.handed ++ [frame]⟩ := by
  cases h with
  | hand hstage => exact Or.inr ⟨_, _, hstage, rfl⟩
  | _ => exact Or.inl rfl

/-- A writer that is out of its loop stays out of it and hands nothing over. -/
lemma Turn.of_isOver (h : Turn pingPeriod writeWait now v v')
    (hover : v.writer.stage.isOver = true) :
    v'.writer.stage.isOver = true ∧ v'.writer.handed = v.writer.handed := by
  cases h with
  | goAway hstage => exact ⟨rfl, rfl⟩
  | start hstage | check hstage | dequeue hstage | finish hstage | tick hstage | hearClosing hstage
  | look hstage | hand hstage | sentBinary hstage | sentPing hstage | sentClose hstage
  | failed hstage | expire hstage =>
      rw [hstage] at hover
      exact Bool.noConfusion hover

/-- A writer that makes a move has been started and is not gone. -/
lemma Turn.ne_idle (h : Turn pingPeriod writeWait now v v') : v.writer.stage ≠ .idle := by
  intro hidle
  cases h <;> simp_all

lemma Turn.ne_done (h : Turn pingPeriod writeWait now v v') : v.writer.stage ≠ .done := by
  intro hdone
  cases h <;> simp_all

lemma Turn.ne_idle_after (h : Turn pingPeriod writeWait now v v') :
    v'.writer.stage ≠ .idle := by
  cases h with
  | check | look =>
      simp only [Scene.moveTo]
      split_ifs <;> exact Stage.noConfusion
  | _ => exact Stage.noConfusion

lemma Turn.ne_starting_after (h : Turn pingPeriod writeWait now v v') :
    v'.writer.stage ≠ .starting := by
  cases h with
  | check | look =>
      simp only [Scene.moveTo]
      split_ifs <;> exact Stage.noConfusion
  | _ => exact Stage.noConfusion

/-- A writer at work can go on by itself, or it waits for the socket, or for a queue that still has
its sender. -/
lemma own_move_cases (pingPeriod writeWait now : Nat) {v : Scene} (hidle : v.writer.stage ≠ .idle)
    (hdone : v.writer.stage ≠ .done) :
    (∃ move : Move, move.isOwn = true
        ∧ (step? pingPeriod writeWait now move v).isSome = true)
      ∨ (∃ frame deadline nextPing, v.writer.stage = .flushing frame deadline nextPing)
      ∨ v.queue.hasSender = true := by
  cases hstage : v.writer.stage with
  | idle => exact absurd hstage hidle
  | done => exact absurd hstage hdone
  | selecting nextPing =>
      cases hsender : v.queue.hasSender with
      | true => exact Or.inr (Or.inr rfl)
      | false =>
          refine Or.inl ⟨.dequeue, rfl, ?_⟩
          simp only [step?, hstage, hsender]
          split <;> rfl
  | flushing frame deadline nextPing => exact Or.inr (Or.inl ⟨frame, deadline, nextPing, rfl⟩)
  | _ => exact Or.inl ⟨.proceed, rfl, by simp [step?, hstage]⟩

/-- A writer whose queue has lost its sender waits for nobody but the socket. -/
lemma exists_move (pingPeriod writeWait now : Nat) {v : Scene} (hidle : v.writer.stage ≠ .idle)
    (hdone : v.writer.stage ≠ .done) (hsender : v.queue.hasSender = false) :
    ∃ move, (step? pingPeriod writeWait now move v).isSome = true := by
  rcases own_move_cases pingPeriod writeWait now hidle hdone with
    ⟨move, -, hmove⟩ | ⟨frame, deadline, nextPing, hstage⟩ | hin
  · exact ⟨move, hmove⟩
  · refine ⟨.sent, ?_⟩
    simp only [step?, hstage]
    split <;> rfl
  · exact Bool.noConfusion (hin.symm.trans hsender)

/-- Why a writer is out of its loop. -/
lemma Turn.isOver_cases (h : Turn pingPeriod writeWait now v v')
    (hover : v'.writer.stage.isOver = true) :
    v.writer.stage.isOver = true ∨ v.connection.isClosing = true
      ∨ v.connection.closingPermit = true
      ∨ (∃ deadline nextPing, v.writer.stage = .flushing .close deadline nextPing)
      ∨ v'.writer.stage.fault? ≠ none := by
  cases h with
  | check hstage | look hstage =>
      by_cases hclosing : v.connection.isClosing = true
      · exact Or.inr (Or.inl hclosing)
      · simp [Scene.moveTo, hclosing, Stage.isOver] at hover
  | hearClosing hstage hpermit => exact Or.inr (Or.inr (Or.inl hpermit))
  | sentClose hstage => exact Or.inr (Or.inr (Or.inr (Or.inl ⟨_, _, hstage⟩)))
  | failed hstage | expire hstage => exact Or.inr (Or.inr (Or.inr (Or.inr (Option.some_ne_none _))))
  | goAway hstage => exact Or.inl (by rw [hstage]; rfl)
  | _ => exact Bool.noConfusion hover

end Step

/-! ## What a Close frame means -/

/-- A Close frame is the last frame, and it follows all messages that were ever put into the
queue. -/
structure Scene.Finishing (v : Scene) : Prop where
  /-- Who is about to hand over a Close frame has a finished queue. -/
  handing : ∀ nextPing, v.writer.stage = .handing .close nextPing →
    v.queue.pending = [] ∧ v.queue.hasSender = false
  flushing : ∀ deadline nextPing, v.writer.stage = .flushing .close deadline nextPing →
    .close ∈ v.writer.handed
  closed : .close ∈ v.writer.handed → v.writer.stage.isFinal = true ∧ v.queue.hasSender = false
    ∧ v.writer.binaries = v.queue.log
    ∧ ∃ earlier, v.writer.handed = earlier ++ [.close] ∧ .close ∉ earlier

section Finishing

variable {pingPeriod writeWait now : Nat} {v v' : Scene}

/-- As long as a writer may still hand something over, there was no Close frame. -/
lemma Scene.Finishing.not_mem (hv : v.Finishing) (hstage : v.writer.stage.isFinal = false) :
    .close ∉ v.writer.handed := by
  intro hmem
  rw [(hv.closed hmem).1] at hstage
  exact Bool.noConfusion hstage

/-- A writer that leaves the queue and the socket alone keeps the meaning of its frames, unless it
begins to close. -/
lemma Scene.Finishing.moveTo (hv : v.Finishing) {stage : Stage} (connection : Connection)
    (hhanding : ∀ nextPing, stage ≠ .handing .close nextPing)
    (hflushing : ∀ deadline nextPing, stage ≠ .flushing .close deadline nextPing)
    (hfinal : v.writer.stage.isFinal = true → stage.isFinal = true) :
    ({ v with connection }.moveTo stage).Finishing where
  handing nextPing hstage := absurd hstage (hhanding nextPing)
  flushing deadline nextPing hstage := absurd hstage (hflushing deadline nextPing)
  closed hmem := by
    obtain ⟨hlast, hrest⟩ := hv.closed hmem
    exact ⟨hfinal hlast, hrest⟩

/-- A writer hands a frame to the socket. -/
lemma Scene.Finishing.hand (hv : v.Finishing) (hf : v.Faithful) {frame : Outgoing}
    {deadline nextPing : Nat} (hstage : v.writer.stage = .handing frame nextPing) :
    ({ v with writer := ⟨.flushing frame deadline nextPing, v.writer.handed ++ [frame]⟩ } :
      Scene).Finishing := by
  have hnone : .close ∉ v.writer.handed := hv.not_mem (by rw [hstage]; rfl)
  refine ⟨nofun, fun _ _ heq => ?_, fun hmem => ?_⟩
  · cases heq
    simp
  · obtain rfl : frame = .close := by
      rcases List.mem_append.1 hmem with hold | hnew
      · exact absurd hold hnone
      · exact (List.mem_singleton.1 hnew).symm
    obtain ⟨hpending, hsender⟩ := hv.handing nextPing hstage
    refine ⟨rfl, hsender, ?_, _, rfl, hnone⟩
    -- nothing is in the hand of the writer and nothing waits, so all was handed over
    have hheld := hf.held (by rw [hstage]; rfl)
    have hlog := v.queue.received_append_pending
    rw [hpending, List.append_nil] at hlog
    rw [← hlog, ← hheld, hstage]
    simp [binaries, Stage.inHand, Outgoing.payload?]

/-- **A writer closes when its queue is finished**, and then it is done. -/
theorem Scene.Finishing.step (hv : v.Finishing) (hf : v.Faithful)
    (h : Turn pingPeriod writeWait now v v') : v'.Finishing := by
  cases h with
  | start hstage => exact hv.moveTo _ nofun nofun (by rw [hstage]; exact Bool.noConfusion)
  | check hstage =>
      refine hv.moveTo _ ?_ ?_ (by rw [hstage]; exact Bool.noConfusion)
      · intro _
        split_ifs <;> exact Stage.noConfusion
      · intro _ _
        split_ifs <;> exact Stage.noConfusion
  | dequeue hstage htake =>
      refine ⟨nofun, nofun, ?_⟩
      intro hmem
      exact absurd hmem (hv.not_mem (by rw [hstage]; rfl))
  | finish hstage htake hsender =>
      refine ⟨fun _ _ => ⟨Queue.take?_eq_none_iff.1 htake, hsender⟩, nofun, ?_⟩
      intro hmem
      exact absurd hmem (hv.not_mem (by rw [hstage]; rfl))
  | tick hstage => exact hv.moveTo _ nofun nofun (by rw [hstage]; exact Bool.noConfusion)
  | hearClosing hstage => exact hv.moveTo _ nofun nofun fun _ => rfl
  | look hstage =>
      refine hv.moveTo _ ?_ ?_ (by rw [hstage]; exact Bool.noConfusion)
      · intro _
        split_ifs <;> simp
      · intro _ _
        split_ifs <;> exact Stage.noConfusion
  | hand hstage => exact hv.hand hf hstage
  | sentBinary hstage => exact hv.moveTo _ nofun nofun (by rw [hstage]; exact Bool.noConfusion)
  | sentPing hstage => exact hv.moveTo _ nofun nofun (by rw [hstage]; exact Bool.noConfusion)
  | sentClose hstage => exact hv.moveTo _ nofun nofun fun _ => rfl
  | failed hstage => exact hv.moveTo _ nofun nofun fun _ => rfl
  | expire hstage => exact hv.moveTo _ nofun nofun fun _ => rfl
  | goAway hstage =>
      refine ⟨nofun, nofun, ?_⟩
      intro hmem
      obtain ⟨-, hrest⟩ := hv.closed hmem
      exact ⟨rfl, hrest⟩

/-- Nothing is put into a queue whose sender is gone, so others do not change what a Close frame
means. -/
lemma Scene.Finishing.of_queue {w : Writer} {q q' : Queue} {c c' : Connection}
    (h : Scene.Finishing ⟨w, q, c⟩) (htaken : q'.taken = q.taken)
    (hkeep : q.hasSender = false → q'.hasSender = false ∧ q'.log = q.log) :
    Scene.Finishing ⟨w, q', c'⟩ where
  handing nextPing hstage := by
    obtain ⟨hpending, hsender⟩ := h.handing nextPing hstage
    obtain ⟨hsender', hlog⟩ := hkeep hsender
    exact ⟨by rw [Queue.pending, hlog, htaken]; exact hpending, hsender'⟩
  flushing := h.flushing
  closed hmem := by
    obtain ⟨hfinal, hsender, hbinaries, hlast⟩ := h.closed hmem
    obtain ⟨hsender', hlog⟩ := hkeep hsender
    exact ⟨hfinal, hsender', hbinaries.trans hlog.symm, hlast⟩

end Finishing

end Writer

end MarketGate
