import MarketGate.Feed.Memory
import Mathlib.Data.List.ReduceOption

/-!
# Pulls on a feed in memory

A pull that has nothing to give stops short of the subscription if its budget is spent, and
otherwise polls it in vain.  As the budget is spent on fragments and not on attempts, the start
settles which of the two it comes to: with enough fragments for the budget the calls behind the last
of them are no polls, and with too few every call is one.

* `Subscription.polled` is what a number of polls leave of a subscription.
* `Fragments.available` says how many fragments a pull can give, and `Fragments.asked` how many of a
  number of calls poll the subscription.
* **`Fragments.calls_eq`**: what a number of calls give, and what they leave.
* **`Fragments.take_eq`** and **`Fragments.collect_eq`**: taking and collecting are calls up to the
  first one in vain.
* `MemoryFeed.Use` lists the ways to use a pull, and `MemoryFeed.Action` what can happen to a feed.
* **`MemoryFeed.balance_run`**: what came into a feed was given, or waits, in its order.
* **`MemoryFeed.given_of_pulls`**: what one pull gives and takes, and what all of them give.
-/

namespace MarketGate

/-! ## Polls -/

namespace Subscription

/-- What a number of polls leave of a subscription. -/
def polled (count : Nat) (s : Subscription) : Subscription :=
  { s with
    pending := s.pending.drop count
    noticed := s.noticed || (s.lost && decide (s.pending.length < count))
    polls := s.polls + count }

variable {s : Subscription}

@[simp] lemma pending_polled (count : Nat) : (s.polled count).pending = s.pending.drop count := rfl

@[simp] lemma polled_zero : s.polled 0 = s := by simp [polled]

lemma polled_polled (first second : Nat) :
    (s.polled first).polled second = s.polled (first + second) := by
  have hnoticed : (decide (s.pending.length < first)
      || decide (s.pending.length - first < second))
        = decide (s.pending.length < first + second) := by
    rw [← Bool.decide_or, decide_eq_decide]
    omega
  simp only [polled, List.drop_drop, List.length_drop, Bool.or_assoc, ← Bool.and_or_distrib_left,
    hnoticed, Nat.add_assoc]

/-- A poll gives the first pending fragment, if there is one. -/
lemma poll_eq : s.poll = (s.pending.head?, s.polled 1) := by
  unfold poll polled
  cases s.pending <;> simp

end Subscription

/-! ## Calls -/

namespace Fragments

/-- How many fragments a pull can give: as many as its budget allows and as are pending. -/
def available (f : Fragments) : Nat := min f.remaining f.source.pending.length

/-- How many of a number of calls poll the subscription: with enough fragments for the budget those
that give one, and with too few of them all. -/
def asked (count : Nat) (f : Fragments) : Nat :=
  if f.remaining ≤ f.source.pending.length then min count f.remaining else count

section Calls

variable {f f' : Fragments} {fragment : Bytes} {rest : List Bytes} {remaining : Nat}

/-- What a call does: the budget is spent, or it polls in vain, or it gives a fragment. -/
lemma next_cases (f : Fragments) :
    (f.remaining = 0 ∧ f.next = (none, f))
      ∨ (0 < f.remaining ∧ f.source.pending = []
        ∧ f.next = (none, { f with source := f.source.polled 1 }))
      ∨ ∃ fragment rest remaining, f.remaining = remaining + 1
        ∧ f.source.pending = fragment :: rest
        ∧ f.next = (some fragment, ⟨f.source.polled 1, remaining⟩) := by
  obtain ⟨source, remaining⟩ := f
  cases remaining with
  | zero => exact Or.inl ⟨rfl, rfl⟩
  | succ remaining =>
      cases hpending : source.pending with
      | nil => simp [next, Subscription.poll_eq, hpending]
      | cons fragment rest => simp [next, Subscription.poll_eq, hpending]

lemma available_of_spent (hspent : f.remaining = 0) : f.available = 0 := by
  rw [available, hspent, Nat.zero_min]

lemma available_of_empty (hpending : f.source.pending = []) : f.available = 0 := by
  rw [available, hpending, List.length_nil, Nat.min_zero]

lemma available_of_found (hremaining : f.remaining = remaining + 1)
    (hpending : f.source.pending = fragment :: rest) :
    f.available = available ⟨f.source.polled 1, remaining⟩ + 1 := by
  simp [available, hremaining, hpending]

lemma asked_of_spent (hspent : f.remaining = 0) (count : Nat) : f.asked count = 0 := by
  simp [asked, hspent]

lemma asked_of_empty (hsome : 0 < f.remaining) (hpending : f.source.pending = []) (count : Nat) :
    f.asked count = count := by
  rw [asked, if_neg]
  rw [hpending]
  exact Nat.not_le_of_lt hsome

lemma asked_of_found (hremaining : f.remaining = remaining + 1)
    (hpending : f.source.pending = fragment :: rest) (count : Nat) :
    f.asked (count + 1) = asked count ⟨f.source.polled 1, remaining⟩ + 1 := by
  simp only [asked, hremaining, hpending, Subscription.pending_polled, List.length_cons,
    Nat.add_le_add_iff_right, List.drop_succ_cons, List.drop_zero, Nat.add_min_add_right]
  split <;> rfl

/-- A poll that gives nothing finds nothing, so polls take no more than is given. -/
lemma drop_asked (count : Nat) (f : Fragments) :
    f.source.pending.drop (f.asked count) = f.source.pending.drop (min count f.available) := by
  unfold asked available
  split
  · next henough => rw [Nat.min_eq_left henough]
  · next hfew =>
      rw [Nat.min_eq_right (Nat.le_of_not_le hfew), ← List.drop_eq_drop_min]

/-- **What a number of calls give, and what they leave.** -/
theorem calls_eq (count : Nat) (f : Fragments) :
    f.calls count =
      ((f.source.pending.take (min count f.available)).map some
          ++ List.replicate (count - f.available) none,
        ⟨f.source.polled (f.asked count), f.remaining - min count f.available⟩) := by
  induction count generalizing f with
  | zero => simp [calls, asked]
  | succ count ih =>
      rcases next_cases f with ⟨hspent, hnext⟩ | ⟨hsome, hpending, hnext⟩
        | ⟨fragment, rest, remaining, hremaining, hpending, hnext⟩
      · -- a budget that is spent stays spent
        simp [calls, hnext, ih, available_of_spent hspent, asked_of_spent hspent,
          List.replicate_succ]
      · -- a subscription that has nothing still has nothing, and there is as much of the budget
        simp [calls, hnext, ih, available_of_empty, asked_of_empty, hsome, hpending,
          Subscription.polled_polled, List.replicate_succ, Nat.add_comm]
      · -- one fragment less waits, and there is one less of the budget
        simp [calls, hnext, ih, available_of_found hremaining hpending,
          asked_of_found hremaining hpending, hpending, hremaining, Subscription.polled_polled,
          Nat.add_comm 1]

/-- **Taking stops after the first call in vain.** -/
theorem take_eq (count : Nat) (f : Fragments) :
    f.take count =
      (f.source.pending.take (min count f.available),
        (f.calls (min count (f.available + 1))).2) := by
  induction count generalizing f with
  | zero => simp [take, calls]
  | succ count ih =>
      rcases next_cases f with ⟨hspent, hnext⟩ | ⟨hsome, hpending, hnext⟩
        | ⟨fragment, rest, remaining, hremaining, hpending, hnext⟩
      · simp [take, calls, hnext, available_of_spent hspent]
      · simp [take, calls, hnext, available_of_empty hpending]
      · simp [take, calls, hnext, ih, available_of_found hremaining hpending, hpending]

/-- The call in vain that ends a collection is a poll unless the budget is spent, and with a spent
budget it makes no difference that the collection goes without it. -/
theorem collect_eq (f : Fragments) :
    f.collect = (f.source.pending.take f.available, (f.calls (f.available + 1)).2) := by
  have hle : f.available ≤ f.remaining := Nat.min_le_left _ _
  have hgiven : min (min f.remaining (f.available + 1)) f.available
      = min (f.available + 1) f.available := by omega
  have hasked : f.asked (min f.remaining (f.available + 1)) = f.asked (f.available + 1) := by
    unfold asked available
    split <;> omega
  rw [collect, take_eq, Nat.min_eq_right hle, calls_eq, calls_eq, hasked, hgiven]

/-- A call that gives a fragment costs one of the budget. -/
lemma remaining_of_next (hnext : f.next = (some fragment, f')) :
    f.remaining = f'.remaining + 1 := by
  rcases next_cases f with ⟨-, h⟩ | ⟨-, -, h⟩ | ⟨_, _, _, hremaining, -, h⟩ <;>
    rw [h] at hnext <;> cases hnext
  exact hremaining

/-- A collection whose first call gives nothing is over. -/
lemma collect_of_none (hnext : f.next = (none, f')) : f.collect = ([], f') := by
  unfold collect
  cases hremaining : f.remaining with
  | zero =>
      simp only [next, hremaining, Prod.mk.injEq, true_and] at hnext
      rw [take, hnext]
  | succ remaining => rw [take, hnext]

/-- A collection whose first call gives a fragment goes on with what is left of the pull. -/
lemma collect_of_some (hnext : f.next = (some fragment, f')) :
    f.collect = (fragment :: f'.collect.1, f'.collect.2) := by
  rw [collect, remaining_of_next hnext, take, hnext]
  rfl

end Calls

end Fragments

/-! ## Pulls one after another -/

namespace MemoryFeed

/-- What is done with a pull. -/
inductive Use where
  /-- It is called until it gives nothing. -/
  | collect
  /-- It is called until it gives nothing, or as often as is said. -/
  | take (count : Nat)
  /-- It is called as often as is said, also after it gave nothing. -/
  | calls (count : Nat)
  deriving DecidableEq, Repr

/-- How often a pull is called that can give so many fragments. -/
def Use.count (available : Nat) : Use → Nat
  | collect => available + 1
  | take count => min count (available + 1)
  | calls count => count

/-- The fragments that a pull with a budget of `max` gives. -/
def pull (feed : MemoryFeed) (max : Nat) : Use → List Bytes × MemoryFeed
  | .collect => feed.collect max
  | .take count => feed.take max count
  | .calls count => ((feed.calls max count).1.reduceOption, (feed.calls max count).2)

/-- What can happen to a feed. -/
inductive Action where
  /-- A fragment comes in. -/
  | inject (fragment : Bytes)
  /-- An event record comes in, if it fits a fragment. -/
  | injectEvent (record : Bytes)
  /-- Someone polls the subscription. -/
  | poll
  /-- Someone pulls with a budget of `max`. -/
  | pull (max : Nat) (use : Use)
  /-- The far end goes away. -/
  | closeFarEnd
  /-- Someone takes what is published, or nobody does. -/
  | setConnected (value : Bool)
  /-- There is no room for what is published, or there is some again. -/
  | setBackPressured (value : Bool)
  /-- A buffer is offered to the publication. -/
  | offer (buffer : Bytes)
  /-- What was published is taken. -/
  | takePublished
  deriving DecidableEq, Repr

/-- The fragments that come in. -/
def Action.arrivals : Action → List Bytes
  | inject fragment => [fragment]
  | injectEvent record => (Fragment.frame record).toOption.toList
  | _ => []

/-- The fragments that an action gives, and what it leaves. -/
def act (feed : MemoryFeed) : Action → List Bytes × MemoryFeed
  | .inject fragment => ([], feed.inject fragment)
  | .injectEvent record => ([], (feed.injectEvent record).toOption.getD feed)
  | .poll => (feed.poll.1.toList, feed.poll.2)
  | .pull max use => feed.pull max use
  | .closeFarEnd => ([], feed.closeFarEnd)
  | .setConnected value => ([], feed.setConnected value)
  | .setBackPressured value => ([], feed.setBackPressured value)
  | .offer buffer => ([], (feed.offer buffer).2)
  | .takePublished => ([], feed.takePublished.2)

/-- The fragments that are given in the course of a list of actions, and what is left. -/
def run : List Action → MemoryFeed → List Bytes × MemoryFeed
  | [], feed => ([], feed)
  | action :: actions, feed =>
    let (given, feed) := feed.act action
    let (more, feed) := run actions feed
    (given ++ more, feed)

section Pulls

/-- What a number of calls to a pull give, and what they leave of the feed. -/
lemma calls_eq (feed : MemoryFeed) (max count : Nat) :
    feed.calls max count =
      let f := feed.subscription.fragments max
      ((feed.subscription.pending.take (min count f.available)).map some
          ++ List.replicate (count - f.available) none,
        { feed with subscription := feed.subscription.polled (f.asked count) }) := by
  rw [calls, Fragments.calls_eq]
  rfl

/-- However a pull is used, it gives what it can in so many calls, and leaves what they leave. -/
lemma pull_eq (feed : MemoryFeed) (max : Nat) (use : Use) :
    feed.pull max use =
      let available := (feed.subscription.fragments max).available
      let count := use.count available
      (feed.subscription.pending.take (min count available), (feed.calls max count).2) := by
  cases use with
  | collect =>
      rw [pull, collect, Fragments.collect_eq]
      simp only [Use.count, Nat.min_eq_right (Nat.le_succ _)]
      rfl
  | take count =>
      rw [pull, take, Fragments.take_eq]
      simp only [Use.count, Nat.min_assoc, Nat.min_eq_right (Nat.le_succ _)]
      rfl
  | calls count =>
      have hsome : ∀ fragments : List Bytes, (fragments.map some).reduceOption = fragments := by
        simp [List.reduceOption]
      simp only [pull, calls_eq, Use.count, List.reduceOption_append,
        List.reduceOption_replicate_none, List.append_nil, hsome]

/-- What comes into a feed with an action is given by it, or waits behind what waited before. -/
lemma balance_act (feed : MemoryFeed) (action : Action) :
    (feed.act action).1 ++ (feed.act action).2.subscription.pending
      = feed.subscription.pending ++ action.arrivals := by
  cases action with
  | inject fragment => rfl
  | injectEvent record =>
      cases hframe : Fragment.frame record with
      | error fault =>
          simp [act, injectEvent, Action.arrivals, hframe, Except.map, Except.toOption]
      | ok fragment =>
          simp [act, injectEvent, Action.arrivals, hframe, Except.map, Except.toOption, inject,
            Subscription.push]
  | poll =>
      rw [act, poll, Subscription.poll_eq]
      cases h : feed.subscription.pending <;> simp [h, Action.arrivals]
  | pull max use =>
      have hdrop := Fragments.drop_asked
        (use.count (feed.subscription.fragments max).available) (feed.subscription.fragments max)
      simp only [act, pull_eq, calls_eq, Subscription.pending_polled, Action.arrivals,
        List.append_nil]
      exact (congrArg _ hdrop).trans (List.take_append_drop _ _)
  | _ => exact (List.append_nil _).symm

/-- **What came into a feed was given, or waits, in its order.** -/
theorem balance_run (actions : List Action) (feed : MemoryFeed) :
    (run actions feed).1 ++ (run actions feed).2.subscription.pending
      = feed.subscription.pending ++ actions.flatMap Action.arrivals := by
  induction actions generalizing feed with
  | nil => exact (List.append_nil _).symm
  | cons action actions ih =>
      rw [run, List.append_assoc, ih, ← List.append_assoc, balance_act, List.flatMap_cons,
        List.append_assoc]

/-- **What pulls give.**  Fragments wait in a feed, and one pull with a budget of `max` is called a
number of times.  The first calls give the fragments that wait, in their order, as many as there are
calls, as the budget allows and as wait; the calls after them give nothing.  What was given has left
the feed and the rest still waits.  If enough fragments wait for the budget then each call up to the
last of the budget was a poll, and otherwise each call was one; nothing else is different.

To collect, to take the first few fragments and to go on after the end are each a number of calls to
a pull.  And with as many pulls one after another as one likes, whatever else happens to the feed,
what they gave is the beginning of what there was to give: with what still waits behind it, it is
what waited at first with what has come in since. -/
theorem given_of_pulls (feed : MemoryFeed) :
    let waiting := feed.subscription.pending
    (∀ max count,
      let given := min count (min max waiting.length)
      let asked := if max ≤ waiting.length then min count max else count
      (feed.calls max count).1
          = (waiting.take given).map some ++ List.replicate (count - given) none
        ∧ (feed.calls max count).2.subscription.pending = waiting.drop given
        ∧ (feed.calls max count).2.subscription.polls = feed.subscription.polls + asked
        ∧ (feed.calls max count).2 = { feed with subscription := feed.subscription.polled asked })
      ∧ (∀ max use,
        let available := min max waiting.length
        let count := use.count available
        feed.pull max use = (waiting.take (min count available), (feed.calls max count).2))
      ∧ ∀ actions, (run actions feed).1 ++ (run actions feed).2.subscription.pending
        = waiting ++ actions.flatMap Action.arrivals := by
  intro waiting
  refine ⟨fun max count => ?_, fun max use => pull_eq feed max use,
    fun actions => balance_run actions feed⟩
  intro given asked
  have hdrop : waiting.drop asked = waiting.drop given :=
    Fragments.drop_asked count (feed.subscription.fragments max)
  have hcount : count - given = count - min max waiting.length := by omega
  rw [calls_eq, hcount]
  exact ⟨rfl, hdrop, rfl, rfl⟩

/-- Two fragments wait.  A budget of two is spent on them, and the calls behind them are no polls;
of a budget of three something is left, and every call is one. -/
example :
    let feed : MemoryFeed := { subscription := { pending := [[0, 1, 65], [0, 1, 69]] } }
    (feed.calls 2 4).1 = [some [0, 1, 65], some [0, 1, 69], none, none]
      ∧ (feed.calls 3 4).1 = (feed.calls 2 4).1
      ∧ (feed.calls 2 4).2.subscription.polls = 2
      ∧ (feed.calls 3 4).2.subscription.polls = 4 := by
  decide

end Pulls

end MemoryFeed

end MarketGate
