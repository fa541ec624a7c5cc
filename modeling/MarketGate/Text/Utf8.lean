import MarketGate.Bytes

/-!
# UTF-8

The syntax of UTF-8 as a machine of eight states that takes one byte at a time.  Because it
refuses at the first byte that no character can hold, a text that arrives in pieces is checked
piece by piece with the state carried over (`Utf8.run`), and the text is whole exactly when the
machine ends between two characters.

* `Utf8.encode` writes characters as bytes, `Utf8.decode?` reads them back and refuses what the
  machine refuses.
* **`Utf8.run_append`**: cutting a byte string in two does not change the verdict on it.
-/

namespace MarketGate.Utf8

/-- Where the machine stands: how many bytes the character still needs, and for three- and
four-byte characters which second bytes are allowed. -/
inductive State where
  /-- Between two characters. -/
  | between
  /-- One byte is missing. -/
  | one
  /-- Two bytes are missing. -/
  | two
  /-- Three bytes are missing. -/
  | three
  /-- After the byte `E0`, which must not start a character that fits two bytes. -/
  | afterE0
  /-- After the byte `ED`, which must not start a surrogate. -/
  | afterED
  /-- After the byte `F0`, which must not start a character that fits three bytes. -/
  | afterF0
  /-- After the byte `F4`, which must not go beyond the last code point. -/
  | afterF4
  deriving DecidableEq, Repr

/-- The state after the first byte of a character. -/
def first (b : Nat) : Option State :=
  if b ≤ 0x7f then some .between
  else if 0xc2 ≤ b ∧ b ≤ 0xdf then some .one
  else if b = 0xe0 then some .afterE0
  else if b = 0xed then some .afterED
  else if 0xe1 ≤ b ∧ b ≤ 0xef then some .two
  else if b = 0xf0 then some .afterF0
  else if 0xf1 ≤ b ∧ b ≤ 0xf3 then some .three
  else if b = 0xf4 then some .afterF4
  else none

/-- `next` if the byte lies between the bounds. -/
def within (low high b : Nat) (next : State) : Option State :=
  if low ≤ b ∧ b ≤ high then some next else none

/-- One byte: the state after it, or nothing where UTF-8 cannot hold it. -/
def step (state : State) (byte : UInt8) : Option State :=
  match state with
  | .between => first byte.toNat
  | .one => within 0x80 0xbf byte.toNat .between
  | .two => within 0x80 0xbf byte.toNat .one
  | .three => within 0x80 0xbf byte.toNat .two
  | .afterE0 => within 0xa0 0xbf byte.toNat .one
  | .afterED => within 0x80 0x9f byte.toNat .one
  | .afterF0 => within 0x90 0xbf byte.toNat .two
  | .afterF4 => within 0x80 0x8f byte.toNat .two

/-- The state after a byte string, or nothing if a byte of it was refused. -/
def run : State → Bytes → Option State
  | state, [] => some state
  | state, b :: rest =>
    match step state b with
    | some next => run next rest
    | none => none

/-- A byte string may be checked in two pieces. -/
theorem run_append (state : State) (front back : Bytes) :
    run state (front ++ back) = (run state front).bind fun next => run next back := by
  induction front generalizing state with
  | nil => rfl
  | cons b rest ih =>
    simp only [List.cons_append, run]
    cases step state b with
    | none => rfl
    | some next => exact ih next

/-- Whether a byte string is UTF-8. -/
def isValid (bytes : Bytes) : Bool := run .between bytes = some .between

/-- The bytes of one character. -/
def encodeChar (c : Char) : Bytes :=
  let n := c.toNat
  let tail (shift : Nat) : UInt8 := UInt8.ofNat (0x80 + n / shift % 64)
  if n < 0x80 then [UInt8.ofNat n]
  else if n < 0x800 then [UInt8.ofNat (0xc0 + n / 64), tail 1]
  else if n < 0x10000 then [UInt8.ofNat (0xe0 + n / 4096), tail 64, tail 1]
  else [UInt8.ofNat (0xf0 + n / 262144), tail 4096, tail 64, tail 1]

/-- The bytes of a text. -/
def encode (cs : List Char) : Bytes := cs.flatMap encodeChar

/-- The bytes of a string. -/
def ofString (s : String) : Bytes := encode s.toList

/-- Gathers characters: `code` holds the bits of the character that is being read and `read` the
characters before it, last one first. -/
def gather (state : State) (code : Nat) (read : List Char) : Bytes → Option (List Char)
  | [] => if state = .between then some read.reverse else none
  | b :: rest =>
    match step state b with
    | none => none
    | some next =>
      let bits :=
        if state = .between then
          if b.toNat < 0x80 then b.toNat
          else if b.toNat < 0xe0 then b.toNat % 32
          else if b.toNat < 0xf0 then b.toNat % 16
          else b.toNat % 8
        else code * 64 + b.toNat % 64
      if next = .between then gather .between 0 (Char.ofNat bits :: read) rest
      else gather next bits read rest

/-- The characters of a byte string, if it is UTF-8. -/
def decode? (bytes : Bytes) : Option (List Char) := gather .between 0 [] bytes

end MarketGate.Utf8
