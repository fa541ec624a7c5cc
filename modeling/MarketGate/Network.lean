import MarketGate.Config
import MarketGate.Io.Error
import MarketGate.Network.Address
import MarketGate.Network.HostName

/-!
# The network around a gateway

What a gateway can know of the network before a connection stands: which address a text means, and
what comes of connecting to an address or listening at one.

A text gives a host and the number of a service with a colon in between, and the last colon counts.
The host is an address, or a name that the network is asked about.  A network is given by its
answers; `Network.isolated` is one host of its own, where listening works but no connection can be
made.  `Network.locate` finds the address that a text means.
-/

namespace MarketGate

/-- What comes of connecting. -/
inductive Reach where
  | connected
  | failed (error : Io.Error)
  /-- Nothing, for as long as anyone waits. -/
  | silent
  deriving DecidableEq, Repr

/-- A network, by its answers. -/
structure Network where
  /-- The address of the host with a name. -/
  lookup : List Char → Except Io.Error HostAddress
  /-- The number of the zone with a name. -/
  zone? : List Char → Option UInt32
  /-- What comes of connecting to an address. -/
  reach : SocketAddress → Reach
  /-- Why it is not possible to listen at an address. -/
  refuses? : SocketAddress → Option Io.Error

namespace Network

/-! ## Finding addresses -/

/-- A failure to find a host. -/
def lookupFailure (reason : String) : Io.Error :=
  .custom ("failed to lookup address information: " ++ reason)

/-- The failure to find a host that cannot be. -/
def unknownName : Io.Error := lookupFailure "Name or service not known"

/-- The failure to find a host while no name service answers. -/
def noNameService : Io.Error := lookupFailure "Temporary failure in name resolution"

/-- The number of the zone that an address is meant for, by its name or as it is. -/
def zoneOf (net : Network) (value : BitVec 128) (name : List Char) : Option UInt32 :=
  match if HostAddress.isZoned value then net.zone? name else none with
  | some zone => some zone
  | none => HostAddress.readZone? name

/-- The address of a host. -/
def resolve (net : Network) (host : List Char) : Except Io.Error HostAddress :=
  if host.any fun c => c.toNat == 0 then
    .error (.custom Io.zeroByteMessage)
  else
    match HostAddress.readLoose? host with
    | some value => .ok (.short (.ofNat 32 value))
    | none =>
      match HostAddress.readLong? net.zoneOf host with
      | some address => .ok address
      | none => if HostName.isName host then net.lookup host else .error unknownName

/-- Finds the address that a text means, by looking for its host unless it is an address already. -/
def locate (net : Network) (text : String) : Except Io.Error SocketAddress :=
  match SocketAddress.read? text.toList with
  | some address => .ok address
  | none =>
    match Text.splitLast ':' text.toList with
    | none => .error (.custom "invalid socket address")
    | some (host, service) =>
      match Text.readNat? 65536 service with
      | none => .error (.custom "invalid port value")
      | some service => (net.resolve host).map fun host => ⟨host, service⟩

/-! ## Connecting and listening -/

/-- Connects to an address. -/
def connect (net : Network) (text : String) : Reach :=
  match net.locate text with
  | .ok address => net.reach address
  | .error e => .failed e

/-- The first of the numbers that are given out to those who ask for none. -/
def firstFreeService : Nat := 32768

/-- The address that listening at an address ends up with: a free service number for zero, and no
zone. -/
def bound (address : SocketAddress) : SocketAddress :=
  { host :=
      match address.host with
      | .short value => .short value
      | .long value _ => .long value 0
    service := if address.service = 0 then firstFreeService else address.service }

/-- Listens at an address. -/
def listen (net : Network) (text : String) : Except Io.Error SocketAddress := do
  let address ← net.locate text
  match net.refuses? address with
  | none => return bound address
  | some e => .error e

/-- The same network once an address is taken. -/
def occupy (net : Network) (taken : SocketAddress) : Network :=
  { net with
    refuses? := fun address =>
      if address = taken then some (.system Io.addressInUse) else net.refuses? address }

/-! ## A host of its own -/

/-- The zone of the host itself. -/
def ownZone : UInt32 := 1

/-- Why no connection to a host can be made from a host of its own. -/
def isolationError : HostAddress → Nat
  | .short _ => Io.networkUnreachable
  | .long value zone =>
    if HostAddress.isMapped value || HostAddress.isMulticast value then Io.networkUnreachable
    else if HostAddress.isLinkLocal value && zone == 0 then Io.invalidArgument
    else Io.addressNotAvailable

/-- Why a host of its own cannot listen at an address.  All short addresses count as its own, but
of the long ones only those that stand for a short one, and the one that stands for all. -/
def refusal? : HostAddress → Option Nat
  | .short _ => none
  | .long value zone =>
    if HostAddress.isMapped value || value == 0#128 then none
    else if HostAddress.isMulticast value then some Io.invalidArgument
    else if !HostAddress.isLinkLocal value then some Io.addressNotAvailable
    else if zone = 0 then some Io.invalidArgument
    else if zone = ownZone then some Io.addressNotAvailable
    else some Io.noSuchDevice

/-- A network of one host that no connection leads out of or back to, and that has no name
service. -/
def isolated : Network :=
  { lookup := fun name =>
      if name.map Char.toLower = "localhost".toList then .ok (.short 0x7f000001#32)
      else .error noNameService
    zone? := fun name => if name = "lo".toList then some ownZone else none
    reach := fun address => .failed (.system (isolationError address.host))
    refuses? := fun address => (refusal? address.host).map fun number => .system number }

end Network

end MarketGate
