import MarketGate.Bytes

/-!
# Subscriptions

The receiving side of a feed: a line of fragments that is polled without waiting.

A *direct* subscription shares its line with whoever fills it, so it knows of the loss of its
far end at once and is closed as soon as nothing is left.  A *buffered* one sits behind a buffer,
and learns of the loss only from a poll that finds the buffer both empty and abandoned.

`Fragments` pulls from a subscription with a budget.  The budget is spent on fragments, not on
attempts: a poll that finds nothing costs nothing, and a spent budget stops without polling.
-/

namespace MarketGate

/-- How a subscription learns of the loss of its far end. -/
inductive Subscription.Kind where
  | direct
  | buffered
  deriving DecidableEq, Repr

/-- The receiving side of a feed. -/
structure Subscription where
  kind : Subscription.Kind := .direct
  /-- Fragments that can be polled, in order. -/
  pending : List Bytes := []
  /-- Whether the far end is gone. -/
  lost : Bool := false
  /-- Whether a poll has come upon the loss. -/
  noticed : Bool := false
  /-- How often the subscription was polled. -/
  polls : Nat := 0
  deriving DecidableEq, Repr

namespace Subscription

/-- Puts a fragment at the end of the line. -/
def push (s : Subscription) (fragment : Bytes) : Subscription :=
  { s with pending := s.pending ++ [fragment] }

/-- The far end goes away. -/
def lose (s : Subscription) : Subscription := { s with lost := true }

/-- Takes the first pending fragment, if there is one. -/
def poll (s : Subscription) : Option Bytes × Subscription :=
  match s.pending with
  | fragment :: rest => (some fragment, { s with pending := rest, polls := s.polls + 1 })
  | [] => (none, { s with noticed := s.noticed || s.lost, polls := s.polls + 1 })

/-- Whether nothing can come any more, as far as the subscription knows. -/
def isClosed (s : Subscription) : Bool :=
  match s.kind with
  | .direct => s.lost && s.pending.isEmpty
  | .buffered => s.noticed

end Subscription

/-- A pull on a subscription that gives a bounded number of fragments. -/
structure Fragments where
  source : Subscription
  /-- How many more fragments may be given. -/
  remaining : Nat
  deriving DecidableEq, Repr

namespace Fragments

/-- The next fragment, if the budget allows one and one is pending. -/
def next (f : Fragments) : Option Bytes × Fragments :=
  match f.remaining with
  | 0 => (none, f)
  | remaining + 1 =>
    match f.source.poll with
    | (some fragment, source) => (some fragment, ⟨source, remaining⟩)
    | (none, source) => (none, ⟨source, remaining + 1⟩)

/-- The results of a number of calls. -/
def calls : Nat → Fragments → List (Option Bytes) × Fragments
  | 0, f => ([], f)
  | n + 1, f =>
    let (result, f) := f.next
    let (results, f) := calls n f
    (result :: results, f)

/-- At most `n` fragments, up to the first call that gives none. -/
def take : Nat → Fragments → List Bytes × Fragments
  | 0, f => ([], f)
  | n + 1, f =>
    match f.next with
    | (none, f) => ([], f)
    | (some fragment, f) =>
      let (fragments, f) := take n f
      (fragment :: fragments, f)

/-- All fragments up to the first call that gives none. -/
def collect (f : Fragments) : List Bytes × Fragments := take f.remaining f

end Fragments

/-- A pull on a subscription. -/
def Subscription.fragments (s : Subscription) (max : Nat) : Fragments := ⟨s, max⟩

end MarketGate
