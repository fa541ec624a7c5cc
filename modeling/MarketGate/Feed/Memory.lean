import MarketGate.Feed.Publication
import MarketGate.Feed.Subscription

/-!
# A feed in memory

A feed without a network: fragments are put in by hand, and what is published is collected.  Both
halves may be held by any number of users, who all see the same feed.
-/

namespace MarketGate

/-- A feed in memory. -/
structure MemoryFeed where
  subscription : Subscription := {}
  publication : MemoryPublication := {}
  deriving DecidableEq, Repr

namespace MemoryFeed

/-- Puts in a fragment. -/
def inject (feed : MemoryFeed) (fragment : Bytes) : MemoryFeed :=
  { feed with subscription := feed.subscription.push fragment }

/-- Puts in the fragment of an event record. -/
def injectEvent (feed : MemoryFeed) (record : Bytes) : Except Fault MemoryFeed :=
  (Fragment.frame record).map feed.inject

/-- How many fragments wait. -/
def pending (feed : MemoryFeed) : Nat := feed.subscription.pending.length

/-- Polls the subscription. -/
def poll (feed : MemoryFeed) : Option Bytes × MemoryFeed :=
  let (fragment, subscription) := feed.subscription.poll
  (fragment, { feed with subscription })

/-- Takes at most `take` fragments from a pull with a budget of `max`. -/
def take (feed : MemoryFeed) (max take : Nat) : List Bytes × MemoryFeed :=
  let (fragments, f) := Fragments.take take (feed.subscription.fragments max)
  (fragments, { feed with subscription := f.source })

/-- All that a pull with a budget of `max` gives. -/
def collect (feed : MemoryFeed) (max : Nat) : List Bytes × MemoryFeed :=
  let (fragments, f) := (feed.subscription.fragments max).collect
  (fragments, { feed with subscription := f.source })

/-- The results of a number of calls to a pull with a budget of `max`. -/
def calls (feed : MemoryFeed) (max calls : Nat) : List (Option Bytes) × MemoryFeed :=
  let (results, f) := Fragments.calls calls (feed.subscription.fragments max)
  (results, { feed with subscription := f.source })

/-- The far end goes away. -/
def closeFarEnd (feed : MemoryFeed) : MemoryFeed :=
  { feed with subscription := feed.subscription.lose }

/-- Says whether anyone takes what is published. -/
def setConnected (feed : MemoryFeed) (value : Bool) : MemoryFeed :=
  { feed with publication := { feed.publication with connected := value } }

/-- Says whether there is no room for what is published. -/
def setBackPressured (feed : MemoryFeed) (value : Bool) : MemoryFeed :=
  { feed with publication := { feed.publication with backPressured := value } }

/-- Offers a buffer to the publication. -/
def offer (feed : MemoryFeed) (buffer : Bytes) : Int × MemoryFeed :=
  let (code, publication) := feed.publication.offer buffer
  (code, { feed with publication })

/-- Takes what was published. -/
def takePublished (feed : MemoryFeed) : List Bytes × MemoryFeed :=
  let (buffers, publication) := feed.publication.drain
  (buffers, { feed with publication })

end MemoryFeed

end MarketGate
