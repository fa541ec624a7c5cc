import MarketGate.Feed.Publication
import MarketGate.Feed.Subscription
import MarketGate.Notice

/-!
# A feed over sockets

A feed has two sockets, one for events and one for orders.  Each is announced with the number of its
stream in four bytes; from then on both carry fragments, one right behind the other.

Each socket has a task of its own.  The *feed reader* puts fragments together from the bytes that
come in, in pieces of any size, and passes whole ones on to the subscription; while that has no room
for another, it waits and reads nothing.  The *feed writer* takes the buffers that were accepted for
publication and writes them out, each up to its last byte.  A task that meets the end of its socket,
or a failure, is over for good.

`SocketFeed.step?` makes one step of either task or of those who use the feed.  What the sockets do
is the choice of the action: into which pieces the incoming bytes are cut, how many of the outgoing
bytes are taken at once, and when either socket fails.

* **`FeedReader.gathered_afterReceiving`**: the pieces of a fragment are put together as they come.
* **`FeedReader.length_gathered_le`**: a reader never asks for a byte behind the fragment it is in.
-/

namespace MarketGate

/-- The bytes that announce a stream. -/
def streamHello (stream : UInt32) : Bytes := Bytes.ofNat 4 stream.toNat

/-- How many fragments may wait to be polled. -/
def subscriptionCapacity : Nat := 4096

/-! ## The socket for events -/

/-- The task that reads fragments, by where it stands. -/
inductive FeedReader where
  /-- Has these bytes of a header, and it takes more. -/
  | header (got : Bytes)
  /-- Has a header and these bytes of the record behind it, and it takes more. -/
  | record (head got : Bytes)
  /-- Has a whole fragment, and waits for room to pass it on. -/
  | holding (fragment : Bytes)
  | done
  deriving DecidableEq, Repr

namespace FeedReader

/-- How many bytes the reader asks its socket for at most. -/
def wanted : FeedReader → Nat
  | header got => Fragment.headerLength - got.length
  | record head got => Bytes.toNat head - got.length
  | holding _ | done => 0

/-- The bytes of the fragment that the reader is in. -/
def gathered : FeedReader → Bytes
  | header got => got
  | record head got => head ++ got
  | holding fragment => fragment
  | done => []

/-- Where the reader stands behind a header: an empty record takes no more bytes. -/
def afterHeader (head : Bytes) : FeedReader :=
  if Bytes.toNat head = 0 then holding head else record head []

/-- Where the reader stands with more bytes. -/
def afterReceiving (data : Bytes) : FeedReader → FeedReader
  | header got =>
    if (got ++ data).length < Fragment.headerLength then header (got ++ data)
    else afterHeader (got ++ data)
  | record head got =>
    if (got ++ data).length < Bytes.toNat head then record head (got ++ data)
    else holding (head ++ (got ++ data))
  | reader => reader

/-- What is told when the socket ends. -/
def farewell : FeedReader → List Notice
  | header _ => [.feedEnded (.ofKind .unexpectedEnd)]
  | record .. => [.feedEndedMidRecord (.custom "early eof")]
  | holding _ | done => []

/-- What is told when the socket fails. -/
def complaint (error : Io.Error) : FeedReader → List Notice
  | header _ => [.feedEnded error]
  | record .. => [.feedEndedMidRecord error]
  | holding _ | done => []

theorem gathered_afterHeader (bytes : Bytes) : (afterHeader bytes).gathered = bytes := by
  unfold afterHeader
  split <;> simp [gathered]

/-- What comes in is put behind what is there. -/
theorem gathered_afterReceiving {reader : FeedReader} (data : Bytes) (h : 0 < reader.wanted) :
    (reader.afterReceiving data).gathered = reader.gathered ++ data := by
  cases reader with
  | header got =>
    simp only [afterReceiving]
    split
    · rfl
    · exact gathered_afterHeader _
  | record head got =>
    simp only [afterReceiving]
    split <;> simp [gathered]
  | holding fragment => simp [wanted] at h
  | done => simp [wanted] at h

/-- The bytes that a reader has and asks for stay within the fragment that its header announces. -/
theorem length_gathered_le {head got : Bytes} (h : got.length ≤ Bytes.toNat head) :
    (record head got).gathered.length + (record head got).wanted
      = head.length + Bytes.toNat head := by
  simp only [gathered, wanted, List.length_append]
  omega

end FeedReader

/-- What the reader of a feed can do next. -/
inductive FeedReader.Move where
  /-- The socket gives some of the bytes that are asked for. -/
  | receive (data : Bytes)
  /-- The socket is at its end. -/
  | finish
  /-- The socket fails. -/
  | fail (error : Io.Error)
  /-- A whole fragment is passed on. -/
  | deliver
  deriving DecidableEq, Repr

/-! ## The socket for orders -/

/-- The task that writes buffers, by where it stands. -/
inductive FeedWriter where
  | waiting
  /-- Has these bytes of a buffer still to write. -/
  | writing (rest : Bytes)
  | done
  deriving DecidableEq, Repr

/-- Where the writer stands with these bytes of a buffer still to write. -/
def FeedWriter.withRest (rest : Bytes) : FeedWriter :=
  if rest.isEmpty then .waiting else .writing rest

/-- What the writer of a feed can do next. -/
inductive FeedWriter.Move where
  /-- Take up the queue: its next buffer, or that it is finished. -/
  | dequeue
  /-- The socket takes this many bytes. -/
  | sent (count : Nat)
  /-- The socket fails. -/
  | fail (error : Io.Error)
  deriving DecidableEq, Repr

/-! ## Both together -/

/-- A feed over two sockets. -/
structure SocketFeed where
  endpoint : String
  subscription : Subscription := { kind := .buffered }
  /-- Whether anyone still holds the subscription. -/
  subscribed : Bool := true
  reader : FeedReader := .header []
  /-- All bytes that the socket for events gave. -/
  received : Bytes := []
  /-- All fragments that were polled. -/
  yielded : List Bytes := []
  publication : SocketPublication := {}
  writer : FeedWriter := .waiting
  /-- All bytes that the socket for orders took. -/
  sent : Bytes := []
  /-- What was told so far, newest first. -/
  notices : List Notice := []
  deriving Repr

/-- A step of a feed over sockets. -/
inductive SocketFeed.Action where
  | read (move : FeedReader.Move)
  | write (move : FeedWriter.Move)
  | poll
  | offer (buffer : Bytes)
  /-- Nobody holds the subscription any more. -/
  | dropSubscription
  /-- Nobody holds the publication any more. -/
  | dropPublication
  /-- Both tasks are stopped where they stand. -/
  | disconnect
  deriving DecidableEq, Repr

namespace SocketFeed

/-- A feed that was just connected. -/
def connected (config : Config) : SocketFeed :=
  { endpoint := config.feedEndpoint
    sent := streamHello config.orderStream
    notices := [.feedConnected config.feedEndpoint config.eventStream config.orderStream] }

/-- Tells something. -/
def tell (notices : List Notice) (f : SocketFeed) : SocketFeed :=
  { f with notices := notices.reverse ++ f.notices }

/-- The reader ends, and with it what comes to the subscription. -/
def endReader (f : SocketFeed) : SocketFeed :=
  { f with reader := .done, subscription := f.subscription.lose }

/-- Changes the queue of the publication. -/
def onQueue (change : Queue → Queue) (f : SocketFeed) : SocketFeed :=
  { f with publication := { f.publication with queue := change f.publication.queue } }

/-- The writer ends, and with it what is taken from the publication. -/
def endWriter (f : SocketFeed) : SocketFeed :=
  { f with writer := .done }.onQueue Queue.dropReceiver

/-- A move of the reader. -/
def read? (move : FeedReader.Move) (f : SocketFeed) : Option SocketFeed :=
  match move with
  | .receive data =>
    if 0 < data.length ∧ data.length ≤ f.reader.wanted then
      some { f with reader := f.reader.afterReceiving data, received := f.received ++ data }
    else none
  | .finish =>
    if 0 < f.reader.wanted then some (f.tell f.reader.farewell).endReader else none
  | .fail error =>
    if 0 < f.reader.wanted then some (f.tell (f.reader.complaint error)).endReader else none
  | .deliver =>
    match f.reader with
    | .holding fragment =>
      if !f.subscribed then some f.endReader
      else if f.subscription.pending.length < subscriptionCapacity then
        some { f with reader := .header [], subscription := f.subscription.push fragment }
      else none
    | _ => none

/-- A move of the writer. -/
def write? (move : FeedWriter.Move) (f : SocketFeed) : Option SocketFeed :=
  match f.writer, move with
  | .waiting, .dequeue =>
    match f.publication.queue.take? with
    | some (buffer, queue) => some ({ f with writer := .withRest buffer }.onQueue fun _ => queue)
    | none => if f.publication.queue.hasSender then none else some f.endWriter
  | .writing rest, .sent count =>
    if 0 < count ∧ count ≤ rest.length then
      some { f with writer := .withRest (rest.drop count), sent := f.sent ++ rest.take count }
    else none
  | .writing _, .fail error => some (f.tell [.publicationEnded error]).endWriter
  | _, _ => none

/-- Polls the subscription. -/
def poll (f : SocketFeed) : Option Bytes × SocketFeed :=
  let (fragment?, subscription) := f.subscription.poll
  (fragment?, { f with subscription, yielded := f.yielded ++ fragment?.toList })

/-- Offers a buffer to the publication. -/
def offer (buffer : Bytes) (f : SocketFeed) : Int × SocketFeed :=
  let (code, publication) := f.publication.offer buffer
  (code, { f with publication })

/-- Stops both tasks where they stand. -/
def disconnect (f : SocketFeed) : SocketFeed :=
  f.endReader.endWriter.tell [.feedDisconnected f.endpoint]

/-- One step, if it is possible. -/
def step? (action : Action) (f : SocketFeed) : Option SocketFeed :=
  match action with
  | .read move => f.read? move
  | .write move => f.write? move
  | .poll => if f.subscribed then some f.poll.2 else none
  | .offer buffer => if f.publication.queue.hasSender then some (f.offer buffer).2 else none
  | .dropSubscription => some { f with subscribed := false }
  | .dropPublication => some (f.onQueue Queue.dropSender)
  | .disconnect => some f.disconnect

/-- The state after a list of actions, if all of them are possible in turn. -/
def run? : List Action → SocketFeed → Option SocketFeed
  | [], f => some f
  | action :: rest, f => (f.step? action).bind (run? rest)

end SocketFeed

end MarketGate
