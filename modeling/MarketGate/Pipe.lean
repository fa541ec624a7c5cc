import MarketGate.Bytes

/-!
# Pipes

One direction of a connection between two ends: a bounded line of bytes.  Either end may close it.
A closed pipe takes nothing any more; what is in it can still be read, and then comes the end.
-/

namespace MarketGate

/-- A bounded line of bytes. -/
structure Pipe where
  capacity : Nat
  bytes : Bytes := []
  isClosed : Bool := false
  deriving DecidableEq, Repr

namespace Pipe

/-- How many more bytes fit. -/
def room (p : Pipe) : Nat := p.capacity - p.bytes.length

/-- What came of writing to a pipe. -/
inductive Written where
  /-- The pipe is closed. -/
  | broken
  /-- These bytes did not fit. -/
  | rest (bytes : Bytes)
  deriving DecidableEq, Repr

/-- Writes as many bytes as fit.  Writing nothing never fails. -/
def write (p : Pipe) (data : Bytes) : Written × Pipe :=
  if data.isEmpty then (.rest [], p)
  else if p.isClosed then (.broken, p)
  else (.rest (data.drop p.room), { p with bytes := p.bytes ++ data.take p.room })

/-- What came of reading from a pipe. -/
inductive Read where
  | bytes (data : Bytes)
  /-- There is nothing now. -/
  | blocked
  /-- There will never be anything. -/
  | finished
  deriving DecidableEq, Repr

/-- Reads at most `max` bytes. -/
def read (p : Pipe) (max : Nat) : Read × Pipe :=
  match p.bytes with
  | [] => (if p.isClosed then .finished else .blocked, p)
  | bytes => (.bytes (bytes.take max), { p with bytes := bytes.drop max })

/-- Closes the pipe. -/
def close (p : Pipe) : Pipe := { p with isClosed := true }

end Pipe

end MarketGate
