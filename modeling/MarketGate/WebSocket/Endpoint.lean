import MarketGate.Pipe
import MarketGate.Text.Utf8
import MarketGate.WebSocket.Frame

/-!
# The serving end of a WebSocket stream

The end of a stream that faces a client.  It takes messages out of the frames that come in, answers
pings and closing frames, and keeps what it has to send until the pipe takes it.

Reading and writing go over a `Link`, the two pipes between the ends.  Every operation goes as far
as the pipes allow and says that it is blocked when they allow no more; it can then be tried again.
A failure ends the stream.

Rules that are easy to miss:

* Frames must be masked, have no reserved bits, and fit the limits; control frames are short and in
  one piece.  Which of two faults is reported follows the order of the checks in `Endpoint.accept`.
* A closing frame with a code that must not appear on the wire is taken for a protocol error.
* Answers to pings and closing frames wait until the next time the stream is read or flushed.
* Once the peer has closed, the end flushes what it has and is then over.
-/

namespace MarketGate.WebSocket

/-- The largest payload of one frame. -/
def frameLimit : Nat := 16777216

/-- The largest message. -/
def messageLimit : Nat := 67108864

/-- The largest payload of a control frame. -/
def controlLimit : Nat := 125

/-- How many bytes are read at once. -/
def chunkSize : Nat := 4096

/-- How many bytes may wait before a write is attempted without being asked for. -/
def writeThreshold : Nat := 131072

/-- Where an end stands. -/
inductive Status where
  | active
  /-- This end has sent a closing frame. -/
  | closedByUs
  /-- The peer has sent a closing frame. -/
  | closedByPeer
  /-- Both have. -/
  | acknowledged
  /-- The stream is over. -/
  | terminated
  deriving DecidableEq, Repr

/-- Whether the peer may still send. -/
def Status.canRead : Status → Bool
  | active | closedByUs => true
  | _ => false

/-- What a stream carries. -/
inductive Message where
  | text (data : Bytes)
  | binary (data : Bytes)
  | ping (data : Bytes)
  | pong (data : Bytes)
  /-- The code and the reason of a closing frame, if it has them. -/
  | close (frame? : Option (Nat × Bytes))
  deriving DecidableEq, Repr

/-- A message whose last fragment has not come. -/
structure Partial where
  isText : Bool
  data : Bytes := []
  /-- Where the check of the text stands. -/
  utf8 : Utf8.State := .between
  deriving DecidableEq, Repr

/-- The pipes between a client and its server. -/
structure Link where
  toServer : Pipe
  toClient : Pipe
  deriving DecidableEq, Repr

/-- The serving end of a stream. -/
structure Endpoint where
  status : Status := .active
  /-- Bytes that were read and not used yet. -/
  input : Bytes := []
  /-- Bytes that wait for the pipe. -/
  output : Bytes := []
  /-- The answer to a ping or a closing frame. -/
  reply? : Option Frame := none
  /-- Whether an answer may still be in the output. -/
  unflushed : Bool := false
  partial? : Option Partial := none
  /-- Whether reading has failed. -/
  readEnded : Bool := false
  deriving DecidableEq, Repr

/-- The result of an operation on a stream. -/
inductive Attempt (α : Type) where
  | done (value : α)
  /-- The pipes allow no more. -/
  | blocked
  | failed (failure : Failure)
  deriving DecidableEq, Repr

/-- Codes that a closing frame may carry. -/
def isAllowedCode (code : Nat) : Bool :=
  (1000 ≤ code && code ≤ 1003) || (1007 ≤ code && code ≤ 1013) || (3000 ≤ code && code ≤ 4999)

/-- The closing frame with a code and a reason. -/
def closeFrame (frame? : Option (Nat × Bytes)) : Frame :=
  match frame? with
  | none => { opcode := closeOpcode }
  | some (code, reason) => { opcode := closeOpcode, payload := Bytes.ofNat 2 code ++ reason }

/-- Code of a protocol error. -/
def protocolErrorCode : Nat := 1002

/-- What a closing frame is taken for. -/
def effectiveClose (frame? : Option (Nat × Bytes)) : Option (Nat × Bytes) :=
  frame?.map fun (code, reason) =>
    if isAllowedCode code then (code, reason)
    else (protocolErrorCode, Utf8.ofString "Protocol violation")

/-- The code and the reason in the payload of a closing frame. -/
def closePayload (payload : Bytes) : Except Failure (Option (Nat × Bytes)) :=
  match payload with
  | [] => .ok none
  | [_] => .error (.protocol .invalidCloseSequence)
  | a :: b :: reason =>
    if Utf8.isValid reason then .ok (some (Bytes.toNat [a, b], reason)) else .error .invalidUtf8

namespace Partial

/-- Adds a fragment. -/
def extend (m : Partial) (data : Bytes) : Except Failure Partial :=
  if messageLimit < m.data.length + data.length then
    .error (.messageTooLong (m.data.length + data.length) messageLimit)
  else if m.isText then
    match Utf8.run m.utf8 data with
    | some utf8 => .ok { m with data := m.data ++ data, utf8 }
    | none => .error .invalidUtf8
  else .ok { m with data := m.data ++ data }

/-- The whole message. -/
def complete (m : Partial) : Except Failure Message :=
  if !m.isText then .ok (.binary m.data)
  else if m.utf8 = .between then .ok (.text m.data)
  else .error .invalidUtf8

end Partial

namespace Endpoint

/-! ## Writing -/

/-- Writes the output to the pipe. -/
def writeOut (e : Endpoint) (link : Link) : Attempt Unit × Endpoint × Link :=
  match link.toClient.write e.output with
  | (.broken, _) => (.failed (.io (.ofKind .brokenPipe)), e, link)
  | (.rest output, toClient) =>
    (if output.isEmpty then .done () else .blocked, { e with output }, { link with toClient })

/-- Puts a frame into the output, and writes if too much has gathered there. -/
def buffer (e : Endpoint) (link : Link) (frame : Frame) : Attempt Unit × Endpoint × Link :=
  let e := { e with output := e.output ++ frame.encode }
  if writeThreshold < e.output.length then e.writeOut link else (.done (), e, link)

/-- Puts an answer that waits into the output, and ends the stream if the peer has closed it. -/
def settle (e : Endpoint) (link : Link) : Attempt Unit × Endpoint × Link :=
  let (attempt, e, link) : Attempt Unit × Endpoint × Link :=
    match e.reply? with
    | none => (.done (), e, link)
    | some frame => { e with reply? := none }.buffer link frame
  match attempt with
  | .done () =>
    if e.status.canRead then (.done (), e, link)
    else
      match e.writeOut link with
      | (.done (), e, link) => (.failed .connectionClosed, { e with status := .terminated }, link)
      | other => other
  | other => (other, e, link)

/-- Sends everything that waits. -/
def flush (e : Endpoint) (link : Link) : Attempt Unit × Endpoint × Link :=
  match e.settle link with
  | (.done (), e, link) =>
    match e.writeOut link with
    | (.done (), e, link) => (.done (), { e with unflushed := false }, link)
    | other => other
  | other => other

/-- Takes a message frame for sending.  A blocked pipe does not matter here: the frame waits. -/
def submit (e : Endpoint) (link : Link) (frame : Frame) : Attempt Unit × Endpoint × Link :=
  if e.status = .terminated then (.failed .alreadyClosed, e, link)
  else if e.status ≠ .active then (.failed (.protocol .sendAfterClosing), e, link)
  else
    let e := if frame.opcode = closeOpcode then { e with status := .closedByUs } else e
    match e.buffer link frame with
    | (.done (), e, link) =>
      let answering := e.reply?.isSome || e.unflushed
      match e.settle link with
      | (.done (), e, link) =>
        if answering || frame.opcode = closeOpcode then e.flush link else (.done (), e, link)
      | other => other
    | other => other

/-! ## Reading -/

/-- Whether a control frame keeps the rules for control frames. -/
def checkControl (frame : Frame) : Except Failure Unit :=
  if !frame.fin then .error (.protocol .fragmentedControlFrame)
  else if controlLimit < frame.payload.length then .error (.protocol .controlFrameTooBig)
  else .ok ()

/-- What a closing frame leads to. -/
def acceptClose (e : Endpoint) (frame : Frame) : Except Failure (Option Message × Endpoint) := do
  let content := ← closePayload frame.payload
  match e.status with
  | .active =>
    let content := effectiveClose content
    return (some (.close content),
      { e with status := .closedByPeer, reply? := some (closeFrame content) })
  | .closedByUs => return (some (.close content), { e with status := .acknowledged })
  | _ => return (none, e)

/-- What a data frame leads to. -/
def acceptData (e : Endpoint) (frame : Frame) : Except Failure (Option Message × Endpoint) := do
  let m ←
    match e.partial? with
    | some m =>
      if frame.opcode = continuationOpcode then m.extend frame.payload
      else
        .error (.protocol (.expectedFragment
          (if frame.opcode = textOpcode then "TEXT" else "BINARY")))
    | none =>
      if frame.opcode = continuationOpcode then .error (.protocol .nothingToContinue)
      else Partial.extend { isText := frame.opcode = textOpcode } frame.payload
  if frame.fin then return (some (← m.complete), { e with partial? := none })
  else return (none, { e with partial? := some m })

/-- What a frame leads to: a message, or nothing yet. -/
def accept (e : Endpoint) (frame : Frame) : Except Failure (Option Message × Endpoint) :=
  if !e.status.canRead then .error (.protocol .receivedAfterClosing)
  else if frame.reserved ≠ 0 then .error (.protocol .nonZeroReservedBits)
  else if frame.mask?.isNone then .error (.protocol .unmaskedFrameFromClient)
  else
    let frame := frame.unmasked
    if frame.opcode < closeOpcode then e.acceptData frame
    else
      match checkControl frame with
      | .error failure => .error failure
      | .ok () =>
        if frame.opcode = closeOpcode then e.acceptClose frame
        else if frame.opcode = pingOpcode then
          let reply? :=
            if e.status = .active then
              some { opcode := pongOpcode, payload := frame.payload : Frame }
            else e.reply?
          .ok (some (.ping frame.payload), { e with reply? })
        else .ok (some (.pong frame.payload), e)

/-- Whether the bytes that were read are enough for the next frame, or for its refusal. -/
def hasFrame (e : Endpoint) : Bool :=
  match Header.read e.input with
  | .incomplete => false
  | .undefined _ => true
  | .ready h => frameLimit < h.length || h.offset + h.length ≤ e.input.length

/-- Reads one frame, chunk by chunk; nothing at the end of the pipe. -/
def readFrame : (steps : Nat) → Endpoint → Link → Attempt (Option Frame) × Endpoint × Link
  | 0, e, link => (.blocked, e, link)
  | steps + 1, e, link =>
    let more (e : Endpoint) : Attempt (Option Frame) × Endpoint × Link :=
      match link.toServer.read chunkSize with
      | (.bytes data, toServer) =>
        readFrame steps { e with input := e.input ++ data } { link with toServer }
      | (.blocked, _) => (.blocked, e, link)
      | (.finished, _) => (.done none, e, link)
    match Header.read e.input with
    | .incomplete => more e
    | .undefined opcode => (.failed (.protocol (.invalidOpcode opcode)), e, link)
    | .ready h =>
      if frameLimit < h.length then (.failed (.messageTooLong h.length frameLimit), e, link)
      else if e.input.length < h.offset + h.length then more e
      else
        let (frame, rest) := h.frame e.input
        (.done (some frame), { e with input := rest }, link)

/-- Sends answers that wait, as far as that is possible now; then it is time to read. -/
def beforeReading (e : Endpoint) (link : Link) : Attempt Unit × Endpoint × Link :=
  if e.reply?.isSome || e.unflushed then
    match e.flush link with
    | (.blocked, e, link) => (.done (), { e with unflushed := true }, link)
    | other => other
  else if !e.status.canRead then
    (.failed .connectionClosed, { e with status := .terminated }, link)
  else (.done (), e, link)

/-- Reads one message, frame by frame. -/
def readMessage : (steps : Nat) → Endpoint → Link → Attempt Message × Endpoint × Link
  | 0, e, link => (.blocked, e, link)
  | steps + 1, e, link =>
    match e.beforeReading link with
    | (.blocked, e, link) => (.blocked, e, link)
    | (.failed failure, e, link) => (.failed failure, e, link)
    | (.done (), e, link) =>
      match readFrame (link.toServer.bytes.length + 1) e link with
      | (.blocked, e, link) => (.blocked, e, link)
      | (.failed failure, e, link) => (.failed failure, e, link)
      | (.done none, e, link) =>
        let failure :=
          if e.status = .closedByPeer ∨ e.status = .acknowledged then Failure.connectionClosed
          else .protocol .resetWithoutClosing
        (.failed failure, { e with status := .terminated }, link)
      | (.done (some frame), e, link) =>
        match e.accept frame with
        | .error failure => (.failed failure, e, link)
        | .ok (some message, e) => (.done message, e, link)
        | .ok (none, e) => readMessage steps e link

/-- The next message of the stream: nothing once it has ended, and an end that is regular counts as
the end and not as a failure. -/
def next (e : Endpoint) (link : Link) : Attempt (Option Message) × Endpoint × Link :=
  if e.readEnded then (.done none, e, link)
  else if e.status = .terminated then (.done none, { e with readEnded := true }, link)
  else
    match e.readMessage (e.input.length + link.toServer.bytes.length + 1) link with
    | (.done message, e, link) => (.done (some message), e, link)
    | (.blocked, e, link) => (.blocked, e, link)
    | (.failed failure, e, link) =>
      let e := { e with readEnded := true }
      if failure = .connectionClosed ∨ failure = .alreadyClosed then (.done none, e, link)
      else (.failed failure, e, link)

/-- Sends everything that waits; that the stream is over by now is no failure. -/
def drain (e : Endpoint) (link : Link) : Attempt Unit × Endpoint × Link :=
  match e.flush link with
  | (.failed .connectionClosed, e, link) => (.done (), e, link)
  | other => other

end Endpoint

end MarketGate.WebSocket
