import MarketGate.Bytes
import MarketGate.WebSocket.Failure

/-!
# WebSocket frames

The frame is the unit of a WebSocket stream: two bytes with flags, kind and a short length, then a
longer length if need be, then the key of the mask if there is one, then the payload.

* `Frame.encode` writes a frame with the shortest form of its length.
* `Header.read` reads the front of a stream up to the payload.  It says that more bytes are needed,
  or that the kind of the frame is not defined, or where the payload starts and how long it is.
-/

namespace MarketGate.WebSocket

/-- The kinds of frames by their numbers. -/
def continuationOpcode : Nat := 0

/-- Number of the frames that start a text. -/
def textOpcode : Nat := 1

/-- Number of the frames that start a binary message. -/
def binaryOpcode : Nat := 2

/-- Number of the frames that close a stream. -/
def closeOpcode : Nat := 8

/-- Number of the frames that ask whether the peer is there. -/
def pingOpcode : Nat := 9

/-- Number of the frames that answer a ping. -/
def pongOpcode : Nat := 10

/-- Whether a number is that of a defined kind. -/
def isDefinedOpcode (opcode : Nat) : Bool :=
  opcode ≤ binaryOpcode || (closeOpcode ≤ opcode && opcode ≤ pongOpcode)

/-- The name of a kind of frame. -/
def opcodeName (opcode : Nat) : String :=
  match opcode with
  | 0 => "continuation"
  | 1 => "text"
  | 2 => "binary"
  | 8 => "close"
  | 9 => "ping"
  | 10 => "pong"
  | n => Text.decimal n

/-- A frame. -/
structure Frame where
  opcode : Nat
  payload : Bytes := []
  /-- Whether it is the last frame of its message. -/
  fin : Bool := true
  /-- The three reserved bits. -/
  reserved : Nat := 0
  /-- The key that the payload is masked with. -/
  mask? : Option Bytes := none
  deriving DecidableEq, Repr

/-- Puts a mask on, or takes it off: the bytes of the key are used in turn. -/
def applyMask (key : Bytes) (payload : Bytes) : Bytes :=
  match key with
  | [a, b, c, d] => go a b c d [] payload
  | _ => payload
where
  /-- Masks the rest of a payload; `masked` holds the bytes before, last one first. -/
  go (a b c d : UInt8) (masked : Bytes) : Bytes → Bytes
    | [] => masked.reverse
    | x :: rest => go b c d a ((x ^^^ a) :: masked) rest

namespace Frame

/-- The length of a payload, in the shortest of the three forms: the value for the second byte, and
the bytes behind it. -/
def lengthField (length : Nat) : Nat × Bytes :=
  if length < 126 then (length, [])
  else if length < 65536 then (126, Bytes.ofNat 2 length)
  else (127, Bytes.ofNat 8 length)

/-- The bytes of a frame. -/
def encode (f : Frame) : Bytes :=
  let (short, long) := lengthField f.payload.length
  let first := (if f.fin then 128 else 0) + f.reserved % 8 * 16 + f.opcode % 16
  let second := (if f.mask?.isSome then 128 else 0) + short
  let front := UInt8.ofNat first :: UInt8.ofNat second :: long
  match f.mask? with
  | none => front ++ f.payload
  | some key => front ++ (key ++ applyMask key f.payload)

end Frame

/-- The front of a frame. -/
structure Header where
  fin : Bool
  reserved : Nat
  opcode : Nat
  mask? : Option Bytes
  /-- How many bytes come before the payload. -/
  offset : Nat
  /-- How long the payload is. -/
  length : Nat
  deriving DecidableEq, Repr

/-- What the front of a stream is. -/
inductive Header.Result where
  /-- The front of a header. -/
  | incomplete
  /-- A header of a kind that is not defined. -/
  | undefined (opcode : Nat)
  | ready (header : Header)
  deriving DecidableEq, Repr

/-- Reads the header at the front of a stream. -/
def Header.read (stream : Bytes) : Header.Result :=
  match stream with
  | first :: second :: rest =>
    let short := second.toNat % 128
    let width := if short = 126 then 2 else if short = 127 then 8 else 0
    let masked := 128 ≤ second.toNat
    let maskWidth := if masked then 4 else 0
    let front := rest.take (width + maskWidth)
    if front.length < width + maskWidth then .incomplete
    else
      let opcode := first.toNat % 16
      if isDefinedOpcode opcode then
        .ready
          { fin := 128 ≤ first.toNat
            reserved := first.toNat / 16 % 8
            opcode
            mask? := if masked then some (front.drop width) else none
            offset := 2 + width + maskWidth
            length := if width = 0 then short else Bytes.toNat (front.take width) }
      else .undefined opcode
  | _ => .incomplete

/-- The frame of a header, at the front of a stream that holds all of it, and the rest. -/
def Header.frame (h : Header) (stream : Bytes) : Frame × Bytes :=
  let body := stream.drop h.offset
  ({ opcode := h.opcode, payload := body.take h.length, fin := h.fin, reserved := h.reserved,
     mask? := h.mask? }, body.drop h.length)

/-- The frame without its mask. -/
def Frame.unmasked (f : Frame) : Frame :=
  match f.mask? with
  | none => f
  | some key => { f with payload := applyMask key f.payload, mask? := none }

/-- Splits a stream into its frames, masks taken off, and what is left. -/
def Frame.split : (steps : Nat) → Bytes → List Frame × Bytes
  | 0, stream => ([], stream)
  | steps + 1, stream =>
    match Header.read stream with
    | .ready h =>
      if h.offset + h.length ≤ stream.length then
        let (frame, rest) := h.frame stream
        let (frames, rest) := split steps rest
        (frame.unmasked :: frames, rest)
      else ([], stream)
    | .incomplete | .undefined _ => ([], stream)

end MarketGate.WebSocket
