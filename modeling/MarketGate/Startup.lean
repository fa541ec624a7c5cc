import MarketGate.Config.Load
import MarketGate.Network
import MarketGate.Notice

/-!
# Starting a gateway

A gateway starts by loading its configuration, connecting to its feed and listening for clients, in
that order; whatever fails first ends it.  Both sockets of the feed go to the same endpoint, the one
for events first.  `Startup.begin` goes through these steps on a network, and gives what is told on
the way.
-/

namespace MarketGate

/-- Listens for clients at an address. -/
def Listener.bind (net : Network) (address : String) : Except Fault SocketAddress × List Notice :=
  match net.listen address with
  | .ok bound => (.ok bound, [.listening address])
  | .error e =>
    (.error (.startupFailure ("failed to bind " ++ address ++ ": " ++ e.message)), [])

namespace Startup

/-- Opens one socket to the feed. -/
def openStream (net : Network) (endpoint : String) : Except Fault Unit :=
  match net.connect endpoint with
  | .connected => .ok ()
  | .failed e =>
    .error (.startupFailure
      ("failed to connect to feed at " ++ endpoint ++ ": " ++ e.message))
  | .silent => .error (.startupFailure ("timed out connecting to feed at " ++ endpoint))

/-- Connects to the feed. -/
def connectFeed (net : Network) (config : Config) : Except Fault Unit × List Notice :=
  match openStream net config.feedEndpoint, openStream net config.feedEndpoint with
  | .ok (), .ok () =>
    (.ok (), [.feedConnected config.feedEndpoint config.eventStream config.orderStream])
  | .error fault, _ => (.error fault, [])
  | _, .error fault => (.error fault, [])

/-- Why a gateway did not start. -/
inductive Failure where
  | configuration (error : Config.LoadError)
  | fault (fault : Fault)
  deriving DecidableEq, Repr

/-- The words for a gateway that did not start. -/
def Failure.message : Failure → String
  | configuration error => error.message
  | fault f => f.message

/-- What ends a process that could not start: a line for the error output. -/
def Failure.line (failure : Failure) : String := "Error: " ++ failure.message ++ "\n"

/-- Starts a gateway in an environment, with a settings file if there is one. -/
def begin (net : Network) (env : Environment) (file? : Option Bytes) :
    Except Failure Config × List Notice :=
  let assignments :=
    match file? with
    | some file => SettingsFile.assignments env file
    | none => []
  match Config.load env assignments with
  | .error e => (.error (.configuration e), [.starting])
  | .ok config =>
    let told := [.starting, .configured config]
    match connectFeed net config with
    | (.error fault, notices) => (.error (.fault fault), told ++ notices)
    | (.ok (), notices) =>
      match Listener.bind net config.listenAddr with
      | (.error fault, more) => (.error (.fault fault), told ++ notices ++ more)
      | (.ok _, more) => (.ok config, told ++ notices ++ more)

end Startup

end MarketGate
