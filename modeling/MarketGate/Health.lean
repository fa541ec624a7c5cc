import MarketGate.Json.Writer
import MarketGate.Metrics.Exposition
import MarketGate.System

/-!
# Health and metrics over HTTP

A gateway answers two questions for its operators.  At `/health` it says whether it is healthy: it
is, if its hub answers and its feed is live.  At `/metrics` it gives its metrics as text.

Whether the hub answers shows only when it has been asked.  An `Inquiry` goes through the same
mailbox as every other request: it asks for the number of connections, waits for the answer or for
the end of the hub, and then looks at the gauge of the feed.

* **`Report.code_eq_ok_iff`**: the gateway says that all is well exactly when the hub has answered
  and the feed is live.
-/

namespace MarketGate.Health

/-- What a gateway knows about its health. -/
structure Report where
  /-- How many connections the hub says there are, if it says anything. -/
  connections? : Option Nat
  feedConnected : Bool
  deriving DecidableEq, Repr

namespace Report

/-- The report on an answer of the hub and the metrics of the gateway. -/
def of (connections? : Option Nat) (metrics : Metrics) : Report :=
  ⟨connections?, metrics.feedConnected = 1⟩

/-- Whether all is well. -/
def isHealthy (r : Report) : Bool := r.connections?.isSome && r.feedConnected

/-- The word for a report. -/
def status (r : Report) : String := if r.isHealthy then "healthy" else "degraded"

/-- The status code of an answer that carries a report. -/
def code (r : Report) : Nat := if r.isHealthy then 200 else 503

/-- The text of a report at a time. -/
def body (timestamp : String) (r : Report) : String :=
  Json.objectText
    [Json.member "component" (Json.quotedName "order-gateway"),
      Json.member "connections" (match r.connections? with
        | some count => Text.decimal count
        | none => "null"),
      Json.member "feed_connected" (if r.feedConnected then "true" else "false"),
      Json.member "status" (Json.quotedName r.status),
      Json.member "timestamp" (Json.quotedName timestamp)]

/-- All is well exactly when the hub has answered and the feed is live. -/
theorem code_eq_ok_iff (connections? : Option Nat) (metrics : Metrics) :
    (of connections? metrics).code = 200
      ↔ connections?.isSome = true ∧ metrics.feedConnected = 1 := by
  simp [code, isHealthy, of]

end Report

/-! ## Asking the hub -/

/-- Where the answer to a question about health stands. -/
inductive Inquiry where
  /-- About to ask the hub, under a ticket. -/
  | asking (ticket : Nat)
  /-- Waiting for the hub. -/
  | awaiting (ticket : Nat)
  /-- Knows what the hub says, and is about to look at the gauge of the feed. -/
  | looking (connections? : Option Nat)
  | answered (report : Report)
  deriving DecidableEq, Repr

/-- The next step of an inquiry, if it does not have to wait. -/
def Inquiry.step? (s : System) : Inquiry → Option (Inquiry × System)
  | asking ticket =>
    (s.send? (.count ticket)).map fun (taken, s) =>
      (if taken then awaiting ticket else looking none, s)
  | awaiting ticket =>
    match s.answers.lookup ticket with
    | some count => some (looking (some count), s)
    | none => if s.loop = .running then none else some (looking none, s)
  | looking connections? => some (answered (Report.of connections? s.hub.metrics), s)
  | answered _ => none

/-! ## Requests -/

/-- The answer to a request. -/
structure Response where
  code : Nat
  contentType? : Option String := none
  /-- The methods that are allowed, where another was used. -/
  allow? : Option String := none
  body : String := ""
  deriving DecidableEq, Repr

/-- What can be asked for. -/
inductive Route where
  | health
  | metrics
  deriving DecidableEq, Repr

/-- The path of a target: what stands before the first question mark. -/
def pathOf (target : String) : List Char := target.toList.takeWhile (· != '?')

/-- What a target asks for. -/
def Route.of? (target : String) : Option Route :=
  if pathOf target = "/health".toList then some health
  else if pathOf target = "/metrics".toList then some metrics
  else none

/-- The methods that every route allows. -/
def allowedMethods : String := "GET,HEAD"

/-- The answer of a route. -/
def Route.response (report : Report) (timestamp : String) (m : Metrics) : Route → Response
  | health =>
    { code := report.code, contentType? := some "application/json", body := report.body timestamp }
  | metrics =>
    { code := 200, contentType? := some "text/plain; charset=utf-8", body := m.exposition }

/-- The answer to a request.  One for the head only gets no body. -/
def respond (method target : String) (report : Report) (timestamp : String) (m : Metrics) :
    Response :=
  match Route.of? target with
  | none => { code := 404 }
  | some route =>
    if method = "GET" then route.response report timestamp m
    else if method = "HEAD" then { route.response report timestamp m with body := "" }
    else { code := 405, allow? := some allowedMethods }

end MarketGate.Health
