import MarketGate.Config
import MarketGate.Json.Reader

/-!
# Configurations as JSON

A configuration may also be read from a JSON text.  Here nothing has a default: every setting has to
be there, spans of time are given as seconds and nanoseconds, and the route has one spelling.
-/

namespace MarketGate

/-- Reads a span of time. -/
def Duration.ofJson? (value : Json) : Option Duration :=
  match value.fields? ["secs", "nanos"] true with
  | some [seconds, nanos] => do
    ofParts? (← seconds.natBelow? UInt64.size) (← nanos.natBelow? UInt32.size)
  | _ => none

/-- Reads a route. -/
def Route.ofValue? (value : Json) : Option Route := do
  let (name, content) ← value.variant?
  if Json.isEmptyContent content then
    match name with
    | "order-entry" => some orderEntry
    | "relay" => some relay
    | _ => none
  else none

/-- Reads a route from a text. -/
def Route.ofJson? (text : String) : Option Route := (Json.read? text).bind ofValue?

namespace Config

/-- The names of the settings, in their order. -/
def fieldNames : List String :=
  ["listen_addr", "health_addr", "feed_endpoint", "order_stream_id", "event_stream_id",
    "outbound_queue_capacity", "write_wait", "pong_wait", "ping_period", "idle_backoff",
    "poll_batch_size", "feed_connect_timeout", "inbound_route"]

/-- Reads a configuration from a value. -/
def ofValue? (value : Json) : Option Config :=
  match value.fields? fieldNames false with
  | some [listenAddr, healthAddr, feedEndpoint, orderStream, eventStream, queueCapacity, writeWait,
      pongWait, pingPeriod, idleBackoff, pollBatch, connectTimeout, route] => do
    return {
      listenAddr := ← listenAddr.text?
      healthAddr := ← healthAddr.text?
      feedEndpoint := ← feedEndpoint.text?
      orderStream := UInt32.ofNat (← orderStream.natBelow? UInt32.size)
      eventStream := UInt32.ofNat (← eventStream.natBelow? UInt32.size)
      queueCapacity := UInt64.ofNat (← queueCapacity.natBelow? UInt64.size)
      writeWait := ← Duration.ofJson? writeWait
      pongWait := ← Duration.ofJson? pongWait
      pingPeriod := ← Duration.ofJson? pingPeriod
      idleBackoff := ← Duration.ofJson? idleBackoff
      pollBatch := UInt64.ofNat (← pollBatch.natBelow? UInt64.size)
      connectTimeout := ← Duration.ofJson? connectTimeout
      route := ← Route.ofValue? route }
  | _ => none

/-- Reads a configuration from a text. -/
def ofJson? (text : String) : Option Config := (Json.read? text).bind ofValue?

end Config

end MarketGate
