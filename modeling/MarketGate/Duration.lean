import MarketGate.Text.Numeral

/-!
# Durations

Spans of time in whole nanoseconds.  The number of full seconds in a span fits 64 bits; that bound
is part of the type, so every way of making a span has to check it.
-/

namespace MarketGate

/-- Nanoseconds in one second. -/
abbrev nanosPerSecond : Nat := 1000000000

/-- Nanoseconds in one millisecond. -/
abbrev nanosPerMilli : Nat := 1000000

/-- A span of time. -/
structure Duration where
  /-- Its length in nanoseconds. -/
  nanos : Nat
  /-- The full seconds in it fit 64 bits. -/
  fits : nanos < UInt64.size * nanosPerSecond := by decide
  deriving DecidableEq, Repr

namespace Duration

instance : Inhabited Duration := ⟨⟨0, by decide⟩⟩

/-- A span of `n` milliseconds. -/
def ofMillis (n : UInt64) : Duration :=
  ⟨n.toNat * nanosPerMilli, by
    have := n.toNat_lt
    simp only [nanosPerSecond, nanosPerMilli, UInt64.size]
    omega⟩

/-- A span of seconds and nanoseconds, if its full seconds fit 64 bits; nanoseconds beyond one
second are carried over. -/
def ofParts? (seconds nanos : Nat) : Option Duration :=
  if h : seconds * nanosPerSecond + nanos < UInt64.size * nanosPerSecond then
    some ⟨seconds * nanosPerSecond + nanos, h⟩
  else none

/-- The full seconds of a span. -/
def seconds (d : Duration) : Nat := d.nanos / nanosPerSecond

/-- The nanoseconds beyond the full seconds. -/
def subsecNanos (d : Duration) : Nat := d.nanos % nanosPerSecond

/-- The full milliseconds of a span. -/
def millis (d : Duration) : Nat := d.nanos / nanosPerMilli

/-- The full microseconds of a span. -/
def micros (d : Duration) : Nat := d.nanos / 1000

/-- The parts of a span make it up again. -/
theorem ofParts?_parts (d : Duration) : ofParts? d.seconds d.subsecNanos = some d := by
  have h : d.seconds * nanosPerSecond + d.subsecNanos = d.nanos := by
    rw [seconds, subsecNanos, Nat.mul_comm]
    exact Nat.div_add_mod _ _
  simp only [ofParts?, h]
  rw [dif_pos d.fits]

end Duration

end MarketGate
