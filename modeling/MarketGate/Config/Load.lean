import MarketGate.Config
import MarketGate.Config.File

/-!
# Loading the configuration

Every setting has a variable of its own, and a default where that says nothing of use; only the
route must be spelled correctly if it is given at all.  What was built is checked.

Before that, the assignments of a settings file are carried out one after the other, and one that a
process cannot carry out is the end of it, whichever variable it is for.
-/

namespace MarketGate.Config

/-- Why no configuration could be made. -/
inductive LoadError where
  /-- The settings file assigns this to a variable, which a process cannot carry out.  Unlike the
  others this is no result that a caller gets: the process breaks off. -/
  | unsettable (name value : String)
  /-- A route is given, but this text spells none. -/
  | unknownRoute (text : String)
  | invalid (defect : Defect)
  deriving DecidableEq, Repr

/-- The words for a text that spells no route. -/
def unknownRouteMessage (text : String) : String := "unknown inbound route: " ++ text

/-- The words for a configuration that could not be made. -/
def LoadError.message : LoadError → String
  | .unsettable name value => SettingsFile.unsettableMessage name value
  | .unknownRoute text => unknownRouteMessage text
  | .invalid defect => defect.message

/-- The route that the environment gives. -/
def routeOf (env : Environment) : Except LoadError Route :=
  match env.text? "INBOUND_ROUTE" with
  | none => .ok ({ : Config }).route
  | some text =>
    match Route.parse text with
    | .ok route => .ok route
    | .error text => .error (.unknownRoute text)

/-- The configuration that the environment gives, with a route. -/
def ofVariables (env : Environment) (route : Route) : Config :=
  let default : Config := {}
  { listenAddr := env.text "LISTEN_ADDR" default.listenAddr
    healthAddr := env.text "HEALTH_ADDR" default.healthAddr
    feedEndpoint := env.text "FEED_ENDPOINT" default.feedEndpoint
    orderStream := env.word32 "ORDER_STREAM_ID" default.orderStream
    eventStream := env.word32 "EVENT_STREAM_ID" default.eventStream
    queueCapacity := env.word64 "OUTBOUND_QUEUE_CAPACITY" default.queueCapacity
    writeWait := env.millis "WRITE_WAIT_MS" default.writeWait
    pongWait := env.millis "PONG_WAIT_MS" default.pongWait
    pingPeriod := env.millis "PING_PERIOD_MS" default.pingPeriod
    idleBackoff := env.millis "IDLE_BACKOFF_MS" default.idleBackoff
    pollBatch := env.word64 "POLL_BATCH_SIZE" default.pollBatch
    connectTimeout := env.millis "FEED_CONNECT_TIMEOUT_MS" default.connectTimeout
    route }

/-- The configuration that the environment gives, checked. -/
def build (env : Environment) : Except LoadError Config := do
  let config := ofVariables env (← routeOf env)
  match config.validate with
  | .ok () => return config
  | .error defect => .error (.invalid defect)

/-- The configuration of a process: its environment, completed by the assignments of a settings
file. -/
def load (env : Environment) (assignments : List (String × String)) : Except LoadError Config :=
  match SettingsFile.unsettable? env assignments with
  | some (name, value) => .error (.unsettable name value)
  | none => build (env.assignAll assignments)

end MarketGate.Config
