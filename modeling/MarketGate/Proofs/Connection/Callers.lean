import MarketGate.Proofs.Connection.Phase
import Mathlib.Data.List.Basic

/-!
# Many callers of one connection

The hub, the reader and the pump share a connection, and none of them waits for another.  Each calls
one of four operations.  Three of these are a single atomic step.  Closing is not: it tries a
registered connection, then a connecting one, and wakes the writer if either worked, and between
those steps anybody else may come in.

`Connection.Shared` is a connection with all calls that were ever made on it, finished or not.  Its
moves are that somebody makes another call, that some call makes its next atomic step, and that the
writer takes its permit.  There is no bound on the number of calls.  A step looks at the phase and
changes it at once, and the phase is all that calls share, so whatever they do at the same time is
an interleaving of their steps: a list of moves.

The phase decides how many calls may have worked.  As long as a connection is connecting nobody has
registered it, and as long as it is open nobody has ended it; who does either moves it on, and so
takes away what the next one would need.  `Shared.Exclusive` says this of a state, and
**`Exclusive.run`** of every run.  In turn, the phase is always one to which a call has led
(`Shared.Accounted`, **`Accounted.run`**).

* **`run_alone`**: a call that nobody comes in between does what the operation of its name does.
* **`Call.advance_cases`**: a step of a call moves the connection, and then the call has worked, or
  it does not.
* **`leads_step`**, `precedes_run`: single steps only move a connection on, and so do whole runs.
* **`first_caller_wins`**: the first to drain or to close a connection is the only one that did.
-/

namespace MarketGate

namespace Connection

/-- What can be asked of a connection. -/
inductive Request where
  | markRegistered
  | beginDraining
  | beginClosing
  | markClosed
  deriving DecidableEq, Repr

/-- Where a call stands between two of its atomic steps. -/
inductive Call.Stage where
  | begun
  /-- The connection was not registered, and the call is about to try whether it is connecting. -/
  | retrying
  /-- The call has closed the connection, and is about to wake the writer. -/
  | waking
  /-- The call is over, with whether it worked. -/
  | returned (worked : Bool)
  deriving DecidableEq, Repr

/-- A call of somebody who shares a connection. -/
structure Call where
  request : Request
  stage : Call.Stage := .begun
  deriving DecidableEq, Repr

/-- What an atomic step of a call leaves behind. -/
structure Call.Effect where
  stage : Call.Stage
  connection : Connection
  /-- Whether the writer was woken. -/
  woken : Bool := false

/-- The next atomic step of a call.  A call that is over makes none. -/
def Call.advance (call : Call) (c : Connection) : Call.Effect :=
  match call.request, call.stage with
  | .markRegistered, .begun => ⟨.returned (c.stands .connecting), c.markRegistered, false⟩
  | .beginDraining, .begun => ⟨.returned (c.stands .registered), c.beginDraining, false⟩
  | .beginClosing, .begun =>
    ⟨if c.stands .registered then .waking else .retrying, c.exchange .registered .closing, false⟩
  | .beginClosing, .retrying =>
    ⟨if c.stands .connecting then .waking else .returned false, c.exchange .connecting .closing,
      false⟩
  | .beginClosing, .waking => ⟨.returned true, c.wakeWriter, true⟩
  | .markClosed, .begun => ⟨.returned true, c.markClosed, false⟩
  | _, stage => ⟨stage, c, false⟩

/-- The call, after its next atomic step. -/
def Call.next (call : Call) (c : Connection) : Call := { call with stage := (call.advance c).stage }

/-- A connection, with the calls that were made on it. -/
structure Shared where
  connection : Connection
  /-- All calls, finished or not, in the order in which they were made. -/
  calls : List Call := []
  /-- How often the writer was woken. -/
  wakes : Nat := 0

namespace Shared

/-- What can happen to a shared connection. -/
inductive Move where
  /-- Somebody makes a call. -/
  | call (request : Request)
  /-- The call at a position makes its next atomic step. -/
  | advance (call : Nat)
  /-- The writer takes its permit. -/
  | hear
  deriving DecidableEq, Repr

/-- What a move does. -/
def step (move : Move) (s : Shared) : Shared :=
  match move with
  | .call request => { s with calls := s.calls ++ [{ request }] }
  | .advance i =>
    match s.calls[i]? with
    | none => s
    | some call =>
      { connection := (call.advance s.connection).connection
        calls := s.calls.set i (call.next s.connection)
        wakes := s.wakes + (call.advance s.connection).woken.toNat }
  | .hear => { s with connection := s.connection.hearClosing }

/-- The state after a list of moves. -/
def run (moves : List Move) (s : Shared) : Shared := moves.foldl (fun s move => s.step move) s

@[simp] lemma run_nil (s : Shared) : s.run [] = s := rfl

@[simp] lemma run_cons (move : Move) (moves : List Move) (s : Shared) :
    s.run (move :: moves) = (s.step move).run moves := rfl

lemma run_append (first second : List Move) (s : Shared) :
    s.run (first ++ second) = (s.run first).run second := List.foldl_append

/-- The step of a call that is there. -/
lemma step_advance {s : Shared} {i : Nat} {call : Call} (h : s.calls[i]? = some call) :
    s.step (.advance i) =
      { connection := (call.advance s.connection).connection
        calls := s.calls.set i (call.next s.connection)
        wakes := s.wakes + (call.advance s.connection).woken.toNat } := by
  simp [step, h]

/-- A call that is not there makes no step. -/
lemma step_advance_none {s : Shared} {i : Nat} (h : s.calls[i]? = none) :
    s.step (.advance i) = s := by
  simp [step, h]

end Shared

/-! ## A call that is alone -/

/-- The phase that an operation leads to. -/
def Request.target : Request → Phase
  | markRegistered => .registered
  | beginDraining => .draining
  | beginClosing => .closing
  | markClosed => .closed

/-- What an operation does if nobody comes in between. -/
def Request.perform : Request → Connection → Connection
  | markRegistered => Connection.markRegistered
  | beginDraining => Connection.beginDraining
  | beginClosing => Connection.beginClosing
  | markClosed => Connection.markClosed

/-- Whether an operation works if nobody comes in between. -/
def Request.works : Request → Connection → Bool
  | markRegistered, c => c.stands .connecting
  | beginDraining, c => c.stands .registered
  | beginClosing, c => c.mayClose
  | markClosed, _ => true

namespace Shared

variable (c : Connection) (calls : List Call) (wakes : Nat)

/-- The step of the call that was made last. -/
lemma step_advance_last (call : Call) :
    step (.advance calls.length) ⟨c, calls ++ [call], wakes⟩ =
      ⟨(call.advance c).connection, calls ++ [call.next c],
        wakes + (call.advance c).woken.toNat⟩ := by
  rw [step_advance List.getElem?_concat_length]
  simp

/-- **A call that nobody comes in between does what the operation of its name does.**  None makes
more than three steps. -/
theorem run_alone (request : Request) :
    run (.call request :: List.replicate 3 (.advance calls.length)) ⟨c, calls, wakes⟩ =
      ⟨request.perform c, calls ++ [⟨request, .returned (request.works c)⟩],
        wakes + (request = .beginClosing && c.mayClose).toNat⟩ := by
  have hcall : step (.call request) ⟨c, calls, wakes⟩ =
      ⟨c, calls ++ [⟨request, .begun⟩], wakes⟩ := rfl
  simp only [List.replicate, run_cons, run_nil, hcall, step_advance_last]
  cases request with
  | beginClosing =>
    -- which of the two attempts works decides how many of the steps do something
    simp only [Call.next, Call.advance, Request.perform, Request.works, mayClose, beginClosing,
      stands]
    by_cases hreg : c.phase = .registered
    · simp [hreg]
    · by_cases hcon : c.phase = .connecting
      · simp [hcon, exchange_of_ne]
      · simp [hreg, hcon, exchange_of_ne]
  | _ => simp [Call.next, Call.advance, Request.perform, Request.works]

end Shared

/-! ## Calls that worked -/

lemma Request.leads_target {request : Request} {c : Connection} (h : request.works c = true) :
    c.phase.Leads request.target := by
  cases request with
  | markRegistered =>
    rw [show c.phase = .connecting from of_decide_eq_true h]
    exact .register
  | beginDraining =>
    rw [show c.phase = .registered from of_decide_eq_true h]
    exact .drain
  | beginClosing =>
    rcases Bool.or_eq_true_iff.1 h with hphase | hphase
    · rw [show c.phase = .registered from of_decide_eq_true hphase]
      exact .leave
    · rw [show c.phase = .connecting from of_decide_eq_true hphase]
      exact .leaveEarly
  | markClosed => exact .close

/-- Who makes a connection drain or close finds it open. -/
lemma Request.isOpen_of_works {request : Request} {c : Connection} (h : request.works c = true)
    (hends : (request = .beginDraining || request = .beginClosing) = true) :
    c.phase.isOpen = true := by
  cases request with
  | beginDraining =>
    rw [show c.phase = .registered from of_decide_eq_true h]
    rfl
  | beginClosing =>
    rcases Bool.or_eq_true_iff.1 h with hphase | hphase
    · rw [show c.phase = .registered from of_decide_eq_true hphase]
      rfl
    · rw [show c.phase = .connecting from of_decide_eq_true hphase]
      rfl
  | markRegistered | markClosed => exact Bool.noConfusion hends

namespace Call

/-- Whether a call is over and has worked. -/
def answers (call : Call) (request : Request) : Bool := call = ⟨request, .returned true⟩

/-- Whether a call has worked.  One that closes has done so before it wakes the writer. -/
def hasWorked (call : Call) : Bool :=
  match call.stage with
  | .begun | .retrying => false
  | .waking => true
  | .returned worked => worked

/-- Whether a call has made the connection drain or close. -/
def hasEnded (call : Call) : Bool :=
  call.hasWorked && (call.request = .beginDraining || call.request = .beginClosing)

lemma hasWorked_of_answers {call : Call} {request : Request} (h : call.answers request) :
    call.hasWorked = true ∧ call.request = request := by
  rw [of_decide_eq_true h]
  exact ⟨rfl, rfl⟩

lemma hasEnded_of_answers {call : Call}
    (h : call.answers .beginDraining ∨ call.answers .beginClosing) : call.hasEnded := by
  rcases h with h | h <;> rw [of_decide_eq_true h] <;> rfl

section Step

variable (call : Call) (c : Connection)

/-- **What a step of a call does.**  It moves the connection, and then the call has worked; or it
does not. -/
theorem advance_cases :
    ((call.next c).hasWorked = call.hasWorked ∧ (call.advance c).connection.phase = c.phase)
      ∨ (call.request.works c = true ∧ (call.next c).hasWorked = true
        ∧ (call.advance c).connection.phase = call.request.target) := by
  obtain ⟨request, stage⟩ := call
  unfold next
  fun_cases advance ⟨request, stage⟩ c with
  | case1 hstage hrequest =>
    subst hstage hrequest
    by_cases hphase : c.phase = .connecting <;>
      simp [hasWorked, stands, markRegistered, phase_exchange, Request.works, Request.target,
        hphase]
  | case2 hstage hrequest =>
    subst hstage hrequest
    by_cases hphase : c.phase = .registered <;>
      simp [hasWorked, stands, beginDraining, phase_exchange, Request.works, Request.target, hphase]
  | case3 hstage hrequest =>
    subst hstage hrequest
    by_cases hphase : c.phase = .registered <;>
      simp [hasWorked, stands, phase_exchange, Request.works, mayClose, Request.target, hphase]
  | case4 hstage hrequest =>
    subst hstage hrequest
    by_cases hphase : c.phase = .connecting <;>
      simp [hasWorked, stands, phase_exchange, Request.works, mayClose, Request.target, hphase]
  | case5 hstage hrequest =>
    subst hstage hrequest
    exact Or.inl ⟨rfl, rfl⟩
  | case6 hstage hrequest =>
    subst hstage hrequest
    exact Or.inr ⟨rfl, rfl, rfl⟩
  | case7 => exact Or.inl ⟨rfl, rfl⟩

/-- A step only moves the connection on. -/
lemma leads_advance : c.phase.Leads (call.advance c).connection.phase := by
  rcases call.advance_cases c with ⟨-, hphase⟩ | ⟨hworks, -, hphase⟩
  · rw [hphase]
    exact .stay
  · rw [hphase]
    exact Request.leads_target hworks

/-- A call that has registered the connection had done so before, or finds it connecting. -/
lemma of_answers_next_markRegistered (h : (call.next c).answers .markRegistered) :
    call.next c = call
      ∨ c.phase = .connecting ∧ (call.advance c).connection.phase = .registered := by
  obtain ⟨request, stage⟩ := call
  obtain rfl : request = .markRegistered := (hasWorked_of_answers h).2
  cases stage with
  | begun =>
    have hphase : c.phase = .connecting := by
      simpa [next, advance, answers, stands] using h
    exact Or.inr ⟨hphase, by simp [advance, markRegistered, phase_exchange, hphase]⟩
  | _ => exact Or.inl rfl

/-- A call that has ended the connection had done so before, or finds it open. -/
lemma of_hasEnded_next (h : (call.next c).hasEnded) :
    call.hasEnded ∨ c.phase.isOpen ∧ !(call.advance c).connection.phase.isOpen := by
  obtain ⟨hworked, hrequest⟩ := Bool.and_eq_true_iff.1 h
  rcases call.advance_cases c with ⟨hsame, -⟩ | ⟨hworks, -, hphase⟩
  · exact Or.inl (Bool.and_eq_true_iff.2 ⟨hsame.symm.trans hworked, hrequest⟩)
  · rw [hphase]
    obtain ⟨request, stage⟩ := call
    cases request with
    | beginDraining | beginClosing => exact Or.inr ⟨Request.isOpen_of_works hworks rfl, rfl⟩
    | markRegistered | markClosed => exact absurd hrequest (by simp [next])

/-- The writer is woken by the step with which a call that closes is over. -/
lemma answers_next_beginClosing :
    ((call.next c).answers .beginClosing).toNat
      = (call.answers .beginClosing).toNat + (call.advance c).woken.toNat := by
  obtain ⟨request, stage⟩ := call
  unfold next
  fun_cases advance ⟨request, stage⟩ c with
  | case3 | case4 =>
    simp_all only [answers]
    split <;> simp
  | case7 => simp
  | _ => simp_all [answers]

end Step

end Call

/-! ## One after the other -/

namespace Shared

/-- How many calls of a connection may have worked, by the phase that it is in. -/
structure Exclusive (s : Shared) : Prop where
  registered : s.calls.countP (·.answers .markRegistered)
    ≤ (s.connection.phase != .connecting).toNat
  ended : s.calls.countP (·.hasEnded) ≤ (!s.connection.phase.isOpen).toNat
  woken : s.wakes = s.calls.countP (·.answers .beginClosing)

/-- The phase of a connection is that to which a call has led that worked, and none has led
further. -/
structure Accounted (s : Shared) : Prop where
  led : s.connection.phase ≠ .connecting →
    ∃ call ∈ s.calls, call.hasWorked = true ∧ call.request.target = s.connection.phase
  reached : ∀ call ∈ s.calls, call.hasWorked = true →
    call.request.target.Precedes s.connection.phase

section Count

variable {p : Call → Bool} {calls : List Call} {i : Nat} {call : Call} (next : Call)

/-- A call that takes the place of another counts in its place. -/
lemma countP_set_add (h : calls[i]? = some call) :
    (calls.set i next).countP p + (p call).toNat = calls.countP p + (p next).toNat := by
  obtain ⟨hi, rfl⟩ := List.getElem?_eq_some_iff.mp h
  have hpos : p calls[i] = true → 0 < calls.countP p :=
    fun hp => List.countP_pos_iff.mpr ⟨_, List.getElem_mem hi, hp⟩
  rw [List.countP_set hi]
  cases hcall : p calls[i] with
  | false => cases p next <;> simp
  | true =>
    have := hpos hcall
    cases p next <;> simp <;> omega

/-- If a call comes to count only when something is passed for good, then at most one counts. -/
lemma countP_set_le {passed passed' : Bool} (h : calls[i]? = some call)
    (hle : calls.countP p ≤ passed.toNat) (hkeep : passed → passed')
    (hnew : p next → p call ∨ !passed ∧ passed') :
    (calls.set i next).countP p ≤ passed'.toNat := by
  have hcount := countP_set_add (p := p) next h
  have hgain : (p next).toNat + passed.toNat ≤ (p call).toNat + passed'.toNat := by
    revert hkeep hnew
    cases passed <;> cases passed' <;> cases p call <;> cases p next <;> decide
  omega

end Count

variable {s : Shared}

/-- **A move only moves the connection on.** -/
theorem leads_step (s : Shared) (move : Move) :
    s.connection.phase.Leads (s.step move).connection.phase := by
  cases move with
  | call | hear => exact .stay
  | advance i =>
    rcases hcall : s.calls[i]? with _ | call
    · rw [step_advance_none hcall]
      exact .stay
    · rw [step_advance hcall]
      exact call.leads_advance s.connection

/-- The step of a call that is there keeps this. -/
lemma Exclusive.advance (h : s.Exclusive) {i : Nat} {call : Call}
    (hcall : s.calls[i]? = some call) : (s.step (.advance i)).Exclusive := by
  have hleads := call.leads_advance s.connection
  rw [step_advance hcall]
  refine ⟨?registered, ?ended, ?woken⟩
  case registered =>
    refine countP_set_le _ hcall h.registered ?_ ?_
    · simpa using mt hleads.of_connecting
    · intro hnext
      rcases call.of_answers_next_markRegistered s.connection hnext with hsame | ⟨hphase, hphase'⟩
      · exact Or.inl (hsame ▸ hnext)
      · exact Or.inr (by simp [hphase, hphase'])
  case ended =>
    refine countP_set_le _ hcall h.ended ?_ ?_
    · simpa using hleads.of_not_isOpen
    · intro hnext
      exact (call.of_hasEnded_next s.connection hnext).imp_right (by simp)
  case woken =>
    have hcount := countP_set_add (p := (·.answers .beginClosing))
      (call.next s.connection) hcall
    have hnext := call.answers_next_beginClosing s.connection
    have hwoken := h.woken
    dsimp only
    omega

theorem Exclusive.step (h : s.Exclusive) (move : Move) : (s.step move).Exclusive := by
  cases move with
  | call request =>
    -- a call that has just begun counts nowhere
    constructor
    · simpa [Shared.step, Call.answers] using h.registered
    · simpa [Shared.step, Call.hasEnded, Call.hasWorked] using h.ended
    · simpa [Shared.step, Call.answers] using h.woken
  | hear => exact ⟨h.registered, h.ended, h.woken⟩
  | advance i =>
    rcases hcall : s.calls[i]? with _ | call
    · rwa [step_advance_none hcall]
    · exact h.advance hcall

/-- **However calls come in between each other**, they exclude each other. -/
theorem Exclusive.run (h : s.Exclusive) (moves : List Move) : (s.run moves).Exclusive := by
  induction moves generalizing s with
  | nil => exact h
  | cons move moves ih => exact ih (h.step move)

/-- A connection nobody has called yet. -/
lemma exclusive_fresh (c : Connection) : Exclusive { connection := c } := by
  constructor <;> simp

/-- A call that stays as it was, or is the one that makes a step. -/
lemma mem_set_of_mem {calls : List Call} {i : Nat} {call next x : Call} (h : calls[i]? = some call)
    (hx : x ∈ calls) : x = call ∨ x ∈ calls.set i next := by
  obtain ⟨k, hk⟩ := List.mem_iff_getElem?.1 hx
  by_cases hik : i = k
  · subst hik
    exact Or.inl (Option.some.inj (hk.symm.trans h))
  · refine Or.inr (List.mem_iff_getElem?.2 ⟨k, ?_⟩)
    rw [List.getElem?_set_ne hik, hk]

lemma Accounted.advance (h : s.Accounted) {i : Nat} {call : Call}
    (hcall : s.calls[i]? = some call) : (s.step (.advance i)).Accounted := by
  have hmem : call ∈ s.calls := List.mem_of_getElem? hcall
  have hnext : call.next s.connection ∈ s.calls.set i (call.next s.connection) :=
    List.mem_set (List.getElem?_eq_some_iff.1 hcall).1 _
  have hleads := call.leads_advance s.connection
  rw [step_advance hcall]
  rcases call.advance_cases s.connection with ⟨hsame, hphase⟩ | ⟨-, hworked, hphase⟩
  case inl =>
    constructor
    · dsimp only
      rw [hphase]
      intro hne
      obtain ⟨x, hx, hxworked, htarget⟩ := h.led hne
      rcases mem_set_of_mem hcall hx with rfl | hx
      · exact ⟨_, hnext, hsame.trans hxworked, htarget⟩
      · exact ⟨x, hx, hxworked, htarget⟩
    · dsimp only
      rw [hphase]
      intro x hx hxworked
      rcases List.mem_or_eq_of_mem_set hx with hx | rfl
      · exact h.reached x hx hxworked
      · exact h.reached call hmem (hsame.symm.trans hxworked)
  case inr =>
    refine ⟨fun _ => ⟨_, hnext, hworked, hphase.symm⟩, fun x hx hxworked => ?_⟩
    rcases List.mem_or_eq_of_mem_set hx with hx | rfl
    · exact (h.reached x hx hxworked).trans hleads.precedes
    · exact Or.inl hphase.symm

theorem Accounted.step (h : s.Accounted) (move : Move) : (s.step move).Accounted := by
  cases move with
  | call request =>
    refine ⟨fun hne => ?_, fun x hx hxworked => ?_⟩
    · obtain ⟨x, hx, hxworked, htarget⟩ := h.led hne
      exact ⟨x, List.mem_append_left _ hx, hxworked, htarget⟩
    · rcases List.mem_append.1 hx with hx | hx
      · exact h.reached x hx hxworked
      · rw [List.mem_singleton.1 hx] at hxworked
        exact Bool.noConfusion hxworked
  | hear => exact ⟨h.led, h.reached⟩
  | advance i =>
    rcases hcall : s.calls[i]? with _ | call
    · rwa [step_advance_none hcall]
    · exact h.advance hcall

/-- **At any time the phase is that to which a call has led.** -/
theorem Accounted.run (h : s.Accounted) (moves : List Move) : (s.run moves).Accounted := by
  induction moves generalizing s with
  | nil => exact h
  | cons move moves ih => exact ih (h.step move)

lemma accounted_fresh {c : Connection} (h : c.phase = .connecting) :
    Accounted { connection := c } where
  led hne := absurd h hne
  reached _ hx := absurd hx List.not_mem_nil

/-- A connection only goes forward. -/
lemma precedes_run (s : Shared) (moves : List Move) :
    s.connection.phase.Precedes (s.run moves).connection.phase := by
  induction moves generalizing s with
  | nil => exact Or.inl rfl
  | cons move moves ih => exact (s.leads_step move).precedes.trans (ih (s.step move))

/-- Once a connection is not connecting, no further call registers it. -/
lemma answers_markRegistered_of_step {move : Move} {i : Nat} {call : Call}
    (hphase : s.connection.phase ≠ .connecting) (hcall : (s.step move).calls[i]? = some call)
    (h : call.answers .markRegistered) : s.calls[i]? = some call := by
  cases move with
  | hear => exact hcall
  | call request =>
    simp only [Shared.step, List.getElem?_append, List.getElem?_singleton] at hcall
    split at hcall
    · exact hcall
    · split at hcall
      · cases hcall
        simp [Call.answers] at h
      · exact absurd hcall (by simp)
  | advance j =>
    rcases hj : s.calls[j]? with _ | call'
    · rwa [step_advance_none hj] at hcall
    · rw [step_advance hj] at hcall
      simp only [List.getElem?_set] at hcall
      split at hcall
      case isFalse => exact hcall
      case isTrue hij =>
        split at hcall
        case isFalse => exact absurd hcall (by simp)
        case isTrue =>
          cases hcall
          rcases call'.of_answers_next_markRegistered s.connection h with hsame | ⟨hcon, -⟩
          · rw [← hij, hj, hsame]
          · exact absurd hcon hphase

/-- Nor does one in the course of a run. -/
lemma answers_markRegistered_of_run {moves : List Move} {i : Nat} {call : Call}
    (hphase : s.connection.phase ≠ .connecting) (hcall : (s.run moves).calls[i]? = some call)
    (h : call.answers .markRegistered) : s.calls[i]? = some call := by
  induction moves generalizing s with
  | nil => exact hcall
  | cons move moves ih =>
    exact answers_markRegistered_of_step hphase
      (ih (mt (s.leads_step move).of_connecting hphase) hcall) h

/-- Who has ended a connection has moved it on. -/
lemma Exclusive.not_isOpen (h : s.Exclusive) {call : Call} (hmem : call ∈ s.calls)
    (hended : call.hasEnded) : s.connection.phase.isOpen = false := by
  have hpos : 0 < s.calls.countP (·.hasEnded) := List.countP_pos_iff.mpr ⟨call, hmem, hended⟩
  have hle := h.ended
  cases hphase : s.connection.phase.isOpen with
  | false => rfl
  | true =>
    rw [hphase, Bool.not_true, Bool.toNat_false] at hle
    omega

/-- The writer is woken once if a call has closed the connection, and else never. -/
lemma Exclusive.wakes_eq (h : s.Exclusive) :
    s.wakes = if ∃ call ∈ s.calls, call.answers .beginClosing then 1 else 0 := by
  have hle : s.calls.countP (·.answers .beginClosing) ≤ s.calls.countP (·.hasEnded) :=
    List.countP_mono_left fun call _ hcall => Call.hasEnded_of_answers (Or.inr hcall)
  have hone : (!s.connection.phase.isOpen).toNat ≤ 1 := Bool.toNat_le _
  have hended := h.ended
  rw [h.woken]
  split
  case isTrue hcall =>
    have hpos : 0 < s.calls.countP (·.answers .beginClosing) := List.countP_pos_iff.mpr hcall
    omega
  case isFalse hcall =>
    have hzero : ¬0 < s.calls.countP (·.answers .beginClosing) := mt List.countP_pos_iff.mp hcall
    omega

/-- **Whoever calls a connection, and however the calls come in between each other, the first to
drain or to close it wins.**  At most one of these calls works, and at most one that registers, none
after one that closed.  The connection only goes forward, and drains only after it was registered;
the phase it is in is that to which a call has led that worked.  Its writer is woken exactly once if
somebody closed it, and else never. -/
theorem first_caller_wins (id : Nat) (peer : Option SocketAddress) (connectedAt : Nat)
    (before after : List Move) :
    let s := run before { connection := { id, peer, connectedAt } }
    let t := s.run after
    t.calls.countP (fun call => call.answers .beginDraining || call.answers .beginClosing) ≤ 1
      ∧ t.calls.countP (·.answers .markRegistered) ≤ 1
      ∧ (∀ closer ∈ s.calls, closer.answers .beginClosing → ∀ (i : Nat) (call : Call),
          t.calls[i]? = some call → call.answers .markRegistered → s.calls[i]? = some call)
      ∧ (∀ move, s.connection.phase.Leads (s.step move).connection.phase)
      ∧ s.connection.phase.Precedes t.connection.phase
      ∧ (s.connection.phase = .closed → t.connection.phase = .closed)
      ∧ (∀ move, (s.step move).connection.phase = .draining →
          s.connection.phase = .draining ∨ s.connection.phase = .registered)
      ∧ t.Accounted
      ∧ t.wakes = if ∃ call ∈ t.calls, call.answers .beginClosing then 1 else 0 := by
  intro s t
  have hs : s.Exclusive := (exclusive_fresh _).run before
  have ht : t.Exclusive := hs.run after
  have haccounted : t.Accounted := ((accounted_fresh rfl).run before).run after
  have hforward : s.connection.phase.Precedes t.connection.phase := precedes_run s after
  refine ⟨?ended, ?registered, ?late, s.leads_step, hforward, ?closed, ?draining, haccounted,
    ht.wakes_eq⟩
  case ended =>
    refine Nat.le_trans (List.countP_mono_left ?_) (Nat.le_trans ht.ended (Bool.toNat_le _))
    exact fun call _ hcall => Call.hasEnded_of_answers (by simpa using hcall)
  case registered => exact Nat.le_trans ht.registered (Bool.toNat_le _)
  case late =>
    intro closer hmem hcloser i call hcall hanswers
    -- who closed the connection has left it in a phase from which nobody registers it
    have hopen := hs.not_isOpen hmem (Call.hasEnded_of_answers (Or.inr hcloser))
    refine answers_markRegistered_of_run ?_ hcall hanswers
    intro hphase
    rw [hphase] at hopen
    exact Bool.noConfusion hopen
  case closed =>
    intro hclosed
    rw [hclosed] at hforward
    exact hforward.eq_closed
  case draining => exact fun move => (s.leads_step move).of_draining_after

/-- A registration comes in between the two attempts of a call that closes, so that both fail; then
another one wins against a call that drains. -/
theorem first_caller_wins_of_race :
    let s := run
      [.call .beginClosing, .call .markRegistered, .advance 0, .advance 1, .advance 0,
        .call .beginDraining, .call .beginClosing, .advance 3, .advance 2, .advance 3]
      { connection := { id := 1 } }
    let t := s.run [.call .markRegistered, .advance 4, .hear, .call .markClosed, .advance 5]
    s.connection.phase = .closing
      ∧ t.calls.map (·.stage) = [.returned false, .returned true, .returned false, .returned true,
          .returned false, .returned true]
      ∧ s.calls[1]? = some ⟨.markRegistered, .returned true⟩
      ∧ t.wakes = 1 := by
  intro s t
  obtain ⟨-, -, hlate, -, -, -, -, -, hwakes⟩ := first_caller_wins 1 none 0
    [.call .beginClosing, .call .markRegistered, .advance 0, .advance 1, .advance 0,
      .call .beginDraining, .call .beginClosing, .advance 3, .advance 2, .advance 3]
    [.call .markRegistered, .advance 4, .hear, .call .markClosed, .advance 5]
  refine ⟨by decide, by decide, ?_, ?_⟩
  · exact hlate ⟨.beginClosing, .returned true⟩ (by decide) (by decide) 1 _ (by decide) (by decide)
  · rw [hwakes]
    decide

end Shared

end Connection

end MarketGate
