import MarketGate.Proofs.Config.Load
import MarketGate.Proofs.System.Messages

/-!
# What the tasks of a client need to begin

Three settings meet limits that are not the gateway's own when a client is set up.  A queue of some
capacity is made for it, its reader asks for the end of its first wait, and its writer for the time
of the first ping and for a period.  A queue has room for so many messages and no more, the clock
does not go on for ever, and a period cannot be empty.  Where one of these cannot be had, the task
that asks for it is over at once.

* `System.demands` lists what a step asks for, and `Demand.unmet?` says what cannot be had.
* **`unmet_of_validated`**: with settings that were checked, the queue is never too small and the
  period never empty, but the queue may be too large and the clock may come to its end.
* **`too_much_room_of_validated`**: there are such settings, so the check is not enough.
-/

namespace MarketGate

/-- What is asked for when a client is set up. -/
inductive Demand where
  /-- A queue with room for so many messages. -/
  | room (messages : Nat)
  /-- A point in time, in nanoseconds since the gateway was started. -/
  | instant (nanos : Nat)
  /-- A timer that goes off again and again. -/
  | period (nanos : Nat)
  deriving DecidableEq, Repr

/-- Why a demand cannot be met. -/
inductive Breakdown where
  | noRoom
  | tooMuchRoom
  | beyondClock
  | noPeriod
  deriving DecidableEq, Repr

/-- The most messages that a queue can have room for.  Its free places are counted in 64 bits, of
which three serve another purpose. -/
def Queue.mostRoom : Nat := (UInt64.size - 1) / 8

/-- Where the clock ends, in nanoseconds: its full seconds have 63 bits. -/
def clockEnd : Nat := UInt64.size / 2 * nanosPerSecond

/-- What is wrong with a demand, if the gateway was started at `boot` on the clock. -/
def Demand.unmet? (boot : Nat) : Demand → Option Breakdown
  | .room messages =>
    if messages = 0 then some .noRoom
    else if Queue.mostRoom < messages then some .tooMuchRoom
    else none
  | .instant nanos => if clockEnd ≤ boot + nanos then some .beyondClock else none
  | .period nanos => if nanos = 0 then some .noPeriod else none

section Unmet

variable {boot n : Nat} {b : Breakdown}

lemma unmet?_room (hpos : n ≠ 0) :
    (Demand.room n).unmet? boot = some b ↔ b = .tooMuchRoom ∧ Queue.mostRoom < n := by
  simp only [Demand.unmet?, if_neg hpos]
  split_ifs with hroom
  · simp [hroom, eq_comm]
  · simp [hroom]

lemma unmet?_instant :
    (Demand.instant n).unmet? boot = some b ↔ b = .beyondClock ∧ clockEnd ≤ boot + n := by
  simp only [Demand.unmet?]
  split_ifs with hend
  · simp [hend, eq_comm]
  · simp [hend]

lemma unmet?_period (hpos : 0 < n) : (Demand.period n).unmet? boot = none :=
  if_neg (Nat.ne_of_gt hpos)

end Unmet

namespace System

/-- Where the reader of a client stands. -/
def readerAt? (s : System) (p : Nat) : Option Reader.Stage :=
  (s.pumps[p]?).map fun pump => pump.reader.stage

/-- Where the writer of a client stands. -/
def writerAt? (s : System) (p : Nat) : Option Writer.Stage :=
  (s.pumps[p]?).map fun pump => pump.writer.stage

/-- What a step from `s` to `s'` asks for in order to set up a client. -/
def demands (action : Action) (s s' : System) : List Demand :=
  match action with
  | .connect _ => (s'.hub.queues.drop s.hub.queues.length).map fun q => .room q.capacity
  | .read p .proceed =>
    match s.readerAt? p, s'.readerAt? p with
    | some .starting, some (.waiting deadline) => [.instant deadline]
    | _, _ => []
  | .write p .proceed =>
    match s.writerAt? p, s'.writerAt? p with
    | some .starting, some (.checking nextPing) =>
      [.instant nextPing, .period s.settings.pingPeriod]
    | _, _ => []
  | _ => []

section Demands

variable {s s' : System} {p : Nat}

/-- A client gets a queue as large as the settings say. -/
lemma demands_connect {peer : Option SocketAddress} (hstep : s.step? (.connect peer) = some s') :
    s.demands (.connect peer) s' = [.room s.settings.queueCapacity] := by
  simp only [step?] at hstep
  split_ifs at hstep
  cases hstep
  simp [demands, connect, enroll, onHub]

/-- A reader waits for as long as the settings say. -/
lemma demands_read (hstep : s.step? (.read p .proceed) = some s') :
    s.demands (.read p .proceed) s'
      = if s.readerAt? p = some .starting then [.instant (s.now + s.settings.pongWait)]
        else [] := by
  split_ifs with hstarting
  · obtain ⟨pump, hpump, hstage⟩ := Option.map_eq_some_iff.1 hstarting
    simp only [step?, read?, hpump, Option.bind_eq_bind, Option.bind_some, hstage,
      Option.bind_eq_some_iff] at hstep
    obtain ⟨conn, -, h⟩ := hstep
    cases h
    simp [demands, readerAt?, setReader, onPump, hpump, hstage]
  · unfold demands
    split <;> simp_all

/-- A writer pings as often as the settings say. -/
lemma demands_write (hstep : s.step? (.write p .proceed) = some s') :
    s.demands (.write p .proceed) s'
      = if s.writerAt? p = some .starting then
          [.instant (s.now + s.settings.pingPeriod), .period s.settings.pingPeriod]
        else [] := by
  split_ifs with hstarting
  · obtain ⟨pump, hpump, hstage⟩ := Option.map_eq_some_iff.1 hstarting
    simp only [step?, write?, hpump, Option.bind_eq_bind, Option.bind_some,
      Option.bind_eq_some_iff, Writer.step?, hstage] at hstep
    obtain ⟨conn, -, queue, -, h⟩ := hstep
    cases h
    simp [demands, writerAt?, onPump, hpump, hstage, tell, onQueue, onConnection, onHub,
      Writer.Scene.moveTo]
  · unfold demands
    split <;> simp_all

end Demands

end System

/-! ## Settings from the environment -/

/-- What can be loaded was checked, and its spans of time are not the longest ones. -/
lemma Config.of_load {env : Environment} {assignments : List (String × String)} {c : Config}
    (hload : load env assignments = .ok c) :
    c.validate = .ok () ∧ c.pongWait.nanos ≤ UInt64.size * nanosPerMilli := by
  obtain ⟨-, hgoes, hvalid⟩ := load_eq_ok_iff.1 hload
  have hwait := hgoes.pongWait
  refine ⟨hvalid, ?_⟩
  generalize c.pongWait = wait at hwait ⊢
  cases hwait with
  | @number _ n => exact Nat.mul_le_mul_right _ (UInt64.ofNat n).toNat_lt.le
  | default => decide

namespace System

/-- **What the tasks of a client may ask for in vain** when the settings were checked.  A queue is
asked for that is too large, if the settings say so; or the clock comes to its end before the first
wait of the reader does, or before the first ping.  It is never a queue without room or an empty
period, and with settings from the environment the clock does not matter for ages. -/
theorem unmet_of_validated {c : Config} (hvalid : c.validate = .ok ())
    (kind : Subscription.Kind) (forwarder : Forwarder) {actions : List Action} {action : Action}
    {s s' : System} (hrun : run? actions (startOn c.settings kind forwarder) = some s)
    (hstep : s.step? action = some s') (boot : Nat) (b : Breakdown) :
    ((∃ d ∈ s.demands action s', d.unmet? boot = some b) ↔
      (∃ peer, action = .connect peer) ∧ b = .tooMuchRoom
          ∧ Queue.mostRoom < c.queueCapacity.toNat
        ∨ (∃ p, action = .read p .proceed ∧ s.readerAt? p = some .starting)
          ∧ b = .beyondClock ∧ clockEnd ≤ boot + (s.now + c.pongWait.nanos)
        ∨ (∃ p, action = .write p .proceed ∧ s.writerAt? p = some .starting)
          ∧ b = .beyondClock ∧ clockEnd ≤ boot + (s.now + c.pingPeriod.nanos))
      ∧ ∀ env assignments, Config.load env assignments = .ok c →
        boot + s.now + UInt64.size * nanosPerMilli < clockEnd →
        (∃ d ∈ s.demands action s', d.unmet? boot = some b) → b = .tooMuchRoom := by
  obtain ⟨hroom, -, hping, hless⟩ := c.validate_eq_ok_iff.1 hvalid
  have hsettings : s.settings = c.settings := settings_run hrun
  have hroom' : c.queueCapacity.toNat ≠ 0 := fun hzero => hroom (UInt64.toNat_inj.1 hzero)
  have hiff : (∃ d ∈ s.demands action s', d.unmet? boot = some b) ↔
      (∃ peer, action = .connect peer) ∧ b = .tooMuchRoom
          ∧ Queue.mostRoom < c.queueCapacity.toNat
        ∨ (∃ p, action = .read p .proceed ∧ s.readerAt? p = some .starting)
          ∧ b = .beyondClock ∧ clockEnd ≤ boot + (s.now + c.pongWait.nanos)
        ∨ (∃ p, action = .write p .proceed ∧ s.writerAt? p = some .starting)
          ∧ b = .beyondClock ∧ clockEnd ≤ boot + (s.now + c.pingPeriod.nanos) := by
    cases action with
    | connect peer =>
        rw [demands_connect hstep, hsettings]
        simp [unmet?_room, Config.settings, hroom']
    | read p move =>
        cases move with
        | proceed =>
            rw [demands_read hstep, hsettings]
            by_cases hstarting : s.readerAt? p = some .starting
            · simp [hstarting, unmet?_instant, Config.settings]
            · simp [hstarting]
        | _ => simp [demands]
    | write p move =>
        cases move with
        | proceed =>
            rw [demands_write hstep, hsettings]
            by_cases hstarting : s.writerAt? p = some .starting
            · simp [hstarting, unmet?_instant, Config.settings, unmet?_period hping]
            · simp [hstarting]
        | _ => simp [demands]
    | _ => simp [demands]
  refine ⟨hiff, fun env assignments hload hclock hunmet => ?_⟩
  have hwait := (Config.of_load hload).2
  rcases hiff.1 hunmet with ⟨-, hb, -⟩ | ⟨-, -, hend⟩ | ⟨-, -, hend⟩
  · exact hb
  · omega
  · omega

/-- A wait that outlasts the clock passes the check, and the reader of the first client asks for its
end in vain, whenever the gateway was started. -/
theorem unmet_of_longest_wait :
    let c : Config := { pongWait := { nanos := 9223372036854775808 * nanosPerSecond } }
    let accept : List Action := [.connect none, .enter 0]
    c.validate = .ok ()
      ∧ ∃ s s', run? accept (startOn c.settings .direct {}) = some s
        ∧ s.step? (.read 0 .proceed) = some s'
        ∧ ∀ boot, ∃ d ∈ s.demands (.read 0 .proceed) s', d.unmet? boot = some .beyondClock := by
  intro c accept
  have hvalid : c.validate = .ok () := rfl
  obtain ⟨s, s', hrun, hstep, hstarting⟩ : ∃ s s',
      run? accept (startOn c.settings .direct {}) = some s
        ∧ s.step? (.read 0 .proceed) = some s' ∧ s.readerAt? 0 = some .starting :=
    ⟨_, _, rfl, rfl, rfl⟩
  refine ⟨hvalid, s, s', hrun, hstep, fun boot => ?_⟩
  have hunmet := unmet_of_validated hvalid .direct {} hrun hstep boot .beyondClock
  have hlong : clockEnd ≤ c.pongWait.nanos := by decide
  exact hunmet.1.2 (Or.inr (Or.inl
    ⟨⟨0, rfl, hstarting⟩, rfl, Nat.le_add_left_of_le (Nat.le_add_left_of_le hlong)⟩))

/-- **The check is not enough**: the largest capacity can be given in the environment and passes it,
and the first client that connects asks for a queue that cannot be made. -/
theorem too_much_room_of_validated :
    let c : Config := { queueCapacity := 18446744073709551615 }
    let env : Environment :=
      ⟨[("OUTBOUND_QUEUE_CAPACITY", Utf8.ofString "18446744073709551615")]⟩
    let s := startOn c.settings .direct {}
    c.validate = .ok ()
      ∧ Config.load env [] = .ok c
      ∧ ∃ s', s.step? (.connect none) = some s'
        ∧ ∃ d ∈ s.demands (.connect none) s', ∀ boot, d.unmet? boot = some .tooMuchRoom := by
  intro c env s
  refine ⟨rfl, rfl, _, rfl, .room 18446744073709551615, by decide, fun boot => rfl⟩

end System

end MarketGate
