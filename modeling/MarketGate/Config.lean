import MarketGate.Duration
import MarketGate.Text.Blank
import MarketGate.Text.Lowercase

/-!
# Configuration

The settings of a gateway, their defaults, and the rules that a usable configuration keeps.

* `Route.parse` reads where client frames go, whatever the case of the letters and the blanks
  around them.
* `Config.validate` refuses settings that the pumps and the feed loop cannot run with;
  **`Config.validate_eq_ok_iff`** says which these are.
-/

namespace MarketGate

/-- Where the binary frames of clients go. -/
inductive Route where
  /-- They are orders, and go to the feed. -/
  | orderEntry
  /-- They go to every connected client. -/
  | relay
  deriving DecidableEq, Repr

namespace Route

/-- A route as it is shown in reports. -/
def name : Route → String
  | orderEntry => "OrderEntry"
  | relay => "Relay"

/-- The spellings of the two routes. -/
def spellings : List (String × Route) :=
  [("order-entry", orderEntry), ("order_entry", orderEntry), ("orders", orderEntry),
    ("relay", relay), ("broadcast", relay)]

/-- What is compared with the spellings. -/
def normalize (text : String) : String := String.ofList (Text.lowercase (Text.trim text.toList))

/-- Reads a route; a text that spells none is given back as it was compared. -/
def parse (text : String) : Except String Route :=
  match spellings.lookup (normalize text) with
  | some route => .ok route
  | none => .error (normalize text)

end Route

/-- The settings of a gateway. -/
structure Config where
  /-- Where clients connect. -/
  listenAddr : String := "0.0.0.0:2054"
  /-- Where health and metrics are served. -/
  healthAddr : String := "0.0.0.0:9090"
  /-- Where the feed is. -/
  feedEndpoint : String := "127.0.0.1:40123"
  /-- The stream that carries orders to the matching engine. -/
  orderStream : UInt32 := 1025
  /-- The stream that carries events from it. -/
  eventStream : UInt32 := 1024
  /-- How many messages may wait for one client. -/
  queueCapacity : UInt64 := 128
  /-- How long writing one frame may take. -/
  writeWait : Duration := ⟨10 * nanosPerSecond, by decide⟩
  /-- How long a client may leave pings unanswered. -/
  pongWait : Duration := ⟨60 * nanosPerSecond, by decide⟩
  /-- How often a client is pinged. -/
  pingPeriod : Duration := ⟨10 * nanosPerSecond, by decide⟩
  /-- How long the feed loop rests after a poll that found nothing. -/
  idleBackoff : Duration := ⟨nanosPerMilli, by decide⟩
  /-- The most fragments that one poll takes. -/
  pollBatch : UInt64 := 10
  /-- How long connecting to the feed may take. -/
  connectTimeout : Duration := ⟨5 * nanosPerSecond, by decide⟩
  route : Route := .orderEntry
  deriving DecidableEq, Repr

namespace Config

/-- Why a configuration is refused. -/
inductive Defect where
  | noQueueCapacity
  | noPollBatch
  | pingPeriod (period wait : Duration)
  deriving DecidableEq, Repr

/-- The words for a refused configuration. -/
def Defect.message : Defect → String
  | .noQueueCapacity => "OUTBOUND_QUEUE_CAPACITY must be greater than zero"
  | .noPollBatch => "POLL_BATCH_SIZE must be greater than zero"
  | .pingPeriod period wait =>
    "PING_PERIOD_MS (" ++ Text.decimal period.millis
      ++ ") must be non-zero and less than PONG_WAIT_MS (" ++ Text.decimal wait.millis ++ ")"

/-- Checks what the pumps and the feed loop rely on. -/
def validate (c : Config) : Except Defect Unit :=
  if c.queueCapacity = 0 then .error .noQueueCapacity
  else if c.pollBatch = 0 then .error .noPollBatch
  else if c.pingPeriod.nanos = 0 ∨ c.pongWait.nanos ≤ c.pingPeriod.nanos then
    .error (.pingPeriod c.pingPeriod c.pongWait)
  else .ok ()

/-- A configuration is usable when queues and polls have room for something, and clients are pinged
more often than they have to answer. -/
theorem validate_eq_ok_iff (c : Config) :
    c.validate = .ok () ↔
      c.queueCapacity ≠ 0 ∧ c.pollBatch ≠ 0 ∧ 0 < c.pingPeriod.nanos
        ∧ c.pingPeriod.nanos < c.pongWait.nanos := by
  unfold validate
  split
  · next h => simp [h]
  · next hq =>
    split
    · next h => simp [h]
    · next hb =>
      split
      · next h => simp only [reduceCtorEq, false_iff]; omega
      · next h => simp only [true_iff]; exact ⟨hq, hb, by omega, by omega⟩

end Config

end MarketGate
