import MarketGate.Io.Error

/-!
# Failures of a WebSocket stream

Why a stream of WebSocket messages can end other than by a message: the peer broke the protocol,
a limit was passed, the text was not UTF-8, the transport failed, or the stream is over.  Each cause
has its words in `Failure.message`; nothing else in the project builds these texts.
-/

namespace MarketGate.WebSocket

/-- Ways to break the protocol, in the opening handshake or in a frame. -/
inductive Violation where
  | wrongMethod
  | wrongVersion
  | missingConnectionUpgrade
  | missingUpgrade
  | missingVersion
  | missingKey
  | acceptKeyMismatch
  | junkAfterRequest
  | customResponseSuccessful
  | invalidHeader (name : String)
  | handshakeIncomplete
  /-- The bytes of the handshake are no request; the text says where they go wrong. -/
  | unreadableRequest (detail : String)
  | sendAfterClosing
  | receivedAfterClosing
  | nonZeroReservedBits
  | unmaskedFrameFromClient
  | maskedFrameFromServer
  | fragmentedControlFrame
  | controlFrameTooBig
  | unknownControlFrame (opcode : Nat)
  | unknownDataFrame (opcode : Nat)
  | nothingToContinue
  /-- A data frame of the named kind came before the fragments of another message were complete. -/
  | expectedFragment (kind : String)
  | resetWithoutClosing
  | invalidOpcode (opcode : Nat)
  | invalidCloseSequence
  deriving DecidableEq, Repr

/-- The words for a broken rule of the protocol. -/
def Violation.message : Violation → String
  | .wrongMethod => "Unsupported HTTP method used - only GET is allowed"
  | .wrongVersion => "HTTP version must be 1.1 or higher"
  | .missingConnectionUpgrade => "No \"Connection: upgrade\" header"
  | .missingUpgrade => "No \"Upgrade: websocket\" header"
  | .missingVersion => "No \"Sec-WebSocket-Version: 13\" header"
  | .missingKey => "No \"Sec-WebSocket-Key\" header"
  | .acceptKeyMismatch => "Key mismatch in \"Sec-WebSocket-Accept\" header"
  | .junkAfterRequest => "Junk after client request"
  | .customResponseSuccessful => "Custom response must not be successful"
  | .invalidHeader name => "Missing, duplicated or incorrect header " ++ name
  | .handshakeIncomplete => "Handshake not finished"
  | .unreadableRequest detail => "httparse error: " ++ detail
  | .sendAfterClosing => "Sending after closing is not allowed"
  | .receivedAfterClosing => "Remote sent after having closed"
  | .nonZeroReservedBits => "Reserved bits are non-zero"
  | .unmaskedFrameFromClient => "Received an unmasked frame from client"
  | .maskedFrameFromServer => "Received a masked frame from server"
  | .fragmentedControlFrame => "Fragmented control frame"
  | .controlFrameTooBig => "Control frame too big (payload must be 125 bytes or less)"
  | .unknownControlFrame opcode => "Unknown control frame type: " ++ Text.decimal opcode
  | .unknownDataFrame opcode => "Unknown data frame type: " ++ Text.decimal opcode
  | .nothingToContinue => "Continue frame but nothing to continue"
  | .expectedFragment kind => "While waiting for more fragments received: " ++ kind
  | .resetWithoutClosing => "Connection reset without closing handshake"
  | .invalidOpcode opcode => "Encountered invalid opcode: " ++ Text.decimal opcode
  | .invalidCloseSequence => "Invalid close sequence"

/-- What is wrong with an address that a stream was to be opened to. -/
inductive AddressFault where
  | noHostName
  | unableToConnect (address : String)
  | schemeNotSupported
  | emptyHostName
  | noPathOrQuery
  | encryptionNotAvailable
  deriving DecidableEq, Repr

/-- The words for a useless address. -/
def AddressFault.message : AddressFault → String
  | .noHostName => "No host name in the URL"
  | .unableToConnect address => "Unable to connect to " ++ address
  | .schemeNotSupported => "URL scheme not supported"
  | .emptyHostName => "URL contains empty host name"
  | .noPathOrQuery => "No path/query in URL"
  | .encryptionNotAvailable => "TLS support not compiled in"

/-- Why a stream stopped. -/
inductive Failure where
  /-- The closing handshake is over. -/
  | connectionClosed
  /-- The stream was used after its end. -/
  | alreadyClosed
  | io (error : Io.Error)
  | protocol (violation : Violation)
  | tooManyHeaders
  | messageTooLong (size limit : Nat)
  | writeBufferFull
  | invalidUtf8
  | attackAttempt
  | address (fault : AddressFault)
  deriving DecidableEq, Repr

/-- The words for a failure. -/
def Failure.message : Failure → String
  | .connectionClosed => "Connection closed normally"
  | .alreadyClosed => "Trying to work with closed connection"
  | .io error => "IO error: " ++ error.message
  | .protocol violation => "WebSocket protocol error: " ++ violation.message
  | .tooManyHeaders => "Space limit exceeded: Too many headers"
  | .messageTooLong size limit =>
    "Space limit exceeded: Message too long: " ++ Text.decimal size ++ " > " ++ Text.decimal limit
  | .writeBufferFull => "Write buffer is full"
  | .invalidUtf8 => "UTF-8 encoding error"
  | .attackAttempt => "Attack attempt detected"
  | .address fault => "URL error: " ++ fault.message

end MarketGate.WebSocket
