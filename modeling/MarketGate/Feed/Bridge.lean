import MarketGate.Duration
import MarketGate.Event

/-!
# The feed bridge

The bridge polls the feed in batches and sends the records in them to the hub.  It can be polled by
hand, or run in a loop that rests after a poll that found nothing and ends when the feed is closed
or the hub is gone.

A batch is collected fragment by fragment before anything in it is looked at, and then dealt with
fragment by fragment; the stages below are the points in between.  The steps are part of
`MarketGate.System`.
-/

namespace MarketGate

/-- What one poll did. -/
structure PollSummary where
  /-- Fragments taken from the feed. -/
  fragments : Nat := 0
  /-- Fragments sent to the hub. -/
  broadcast : Nat := 0
  /-- Fragments of unknown kind. -/
  dropped : Nat := 0
  deriving DecidableEq, Repr

/-- Where the bridge stands. -/
inductive Bridge.Stage where
  /-- There is none. -/
  | absent
  /-- Can be polled by hand, or be started. -/
  | ready
  /-- About to start its loop. -/
  | starting
  /-- Collecting a batch: what was taken, and how many more may be. -/
  | collecting (taken : List Bytes) (budget : Nat)
  /-- Dealing with a batch: what is left of it, and what was done so far. -/
  | forwarding (rest : List Bytes) (summary : PollSummary)
  /-- About to send a record to the hub. -/
  | sending (record : Bytes) (rest : List Bytes) (summary : PollSummary)
  /-- Done with a batch. -/
  | polled (result : Except Fault PollSummary)
  /-- Resting until a time. -/
  | resting (wake : Nat)
  /-- The loop is over. -/
  | ended (fault : Fault)
  deriving Repr

/-- The feed bridge. -/
structure Bridge where
  stage : Bridge.Stage := .absent
  /-- Whether it runs in a loop. -/
  looping : Bool := false
  deriving Repr

/-- The record that is sent to the hub for a fragment, if one is. -/
def Fragment.record? (fragment : Bytes) : Option Bytes :=
  if (EventKind.ofFragment fragment).isBroadcast then Fragment.body? fragment else none

/-- The fault of a loop whose feed is closed. -/
def Bridge.feedClosed : Fault := .feedUnavailable "feed subscription closed"

end MarketGate
