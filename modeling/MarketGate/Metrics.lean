import MarketGate.Event
import MarketGate.Feed.Outcome

/-!
# Metrics

The gauges and counters of a gateway.  Two of the counters are families, split by the kind of the
fragment and by the outcome of the offer; a member of a family exists from its first increment on.
-/

namespace MarketGate

/-- A counter for each kind of event. -/
structure FragmentCounts where
  accepted : Nat := 0
  rejected : Nat := 0
  executed : Nat := 0
  unknown : Nat := 0
  deriving DecidableEq, Repr

namespace FragmentCounts

/-- The count of a kind. -/
def get (counts : FragmentCounts) : EventKind → Nat
  | .accepted => counts.accepted
  | .rejected => counts.rejected
  | .executed => counts.executed
  | .unknown => counts.unknown

/-- One more of a kind. -/
def increment (counts : FragmentCounts) : EventKind → FragmentCounts
  | .accepted => { counts with accepted := counts.accepted + 1 }
  | .rejected => { counts with rejected := counts.rejected + 1 }
  | .executed => { counts with executed := counts.executed + 1 }
  | .unknown => { counts with unknown := counts.unknown + 1 }

/-- How many fragments of kinds that are passed on were counted. -/
def broadcast (counts : FragmentCounts) : Nat :=
  counts.accepted + counts.rejected + counts.executed

end FragmentCounts

/-- A counter for each outcome of an offer. -/
structure OutcomeCounts where
  accepted : Nat := 0
  notConnected : Nat := 0
  backPressured : Nat := 0
  unrecognized : Nat := 0
  deriving DecidableEq, Repr

namespace OutcomeCounts

/-- One more of an outcome. -/
def increment (counts : OutcomeCounts) : PublishOutcome → OutcomeCounts
  | .accepted _ => { counts with accepted := counts.accepted + 1 }
  | .notConnected => { counts with notConnected := counts.notConnected + 1 }
  | .backPressured => { counts with backPressured := counts.backPressured + 1 }
  | .unrecognized _ => { counts with unrecognized := counts.unrecognized + 1 }

/-- How many offers were counted. -/
def total (counts : OutcomeCounts) : Nat :=
  counts.accepted + counts.notConnected + counts.backPressured + counts.unrecognized

theorem total_increment (counts : OutcomeCounts) (outcome : PublishOutcome) :
    (counts.increment outcome).total = counts.total + 1 := by
  cases outcome <;> simp only [increment, total] <;> omega

end OutcomeCounts

/-- The gauges and counters of a gateway. -/
structure Metrics where
  /-- How many connections are registered with the hub. -/
  activeConnections : Nat := 0
  /-- 1 while the feed is live. -/
  feedConnected : Int := 0
  /-- How many connections were registered so far. -/
  registrations : Nat := 0
  /-- How many connections were dropped because their queue was full. -/
  backpressureDisconnects : Nat := 0
  /-- How many messages were fanned out. -/
  broadcasts : Nat := 0
  fragments : FragmentCounts := {}
  outcomes : OutcomeCounts := {}
  /-- How many client frames were no orders. -/
  malformed : Nat := 0
  deriving DecidableEq, Repr

end MarketGate
