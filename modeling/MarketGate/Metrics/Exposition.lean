import MarketGate.Metrics

/-!
# The text form of metrics

Metrics are published as a text of lines.  Each family has a line that explains it, a line with its
type, and a line for each of its members; families are sorted by name, members by label, and a
family without members is left out.
-/

namespace MarketGate.Metrics

/-- The types of metrics. -/
inductive Form where
  | gauge
  | counter
  deriving DecidableEq, Repr

/-- The name of a type. -/
def Form.name : Form → String
  | .gauge => "gauge"
  | .counter => "counter"

/-- A family of metrics: its members are the texts between its name and their values. -/
structure Family where
  name : String
  help : String
  form : Form
  members : List (String × Int)

/-- The lines of a family. -/
def Family.lines (family : Family) : List String :=
  if family.members.isEmpty then []
  else
    ("# HELP " ++ family.name ++ " " ++ family.help)
      :: ("# TYPE " ++ family.name ++ " " ++ family.form.name)
      :: family.members.map fun m => family.name ++ m.1 ++ " " ++ Text.integer m.2

/-- The members of a labelled family: those that were ever incremented. -/
def labelled (label : String) (counts : List (String × Nat)) : List (String × Int) :=
  (counts.filter fun c => c.2 ≠ 0).map fun c =>
    ("\x7b" ++ label ++ "=\"" ++ c.1 ++ "\"\x7d", Int.ofNat c.2)

/-- All families, sorted by name. -/
def families (m : Metrics) : List Family :=
  [⟨"gateway_active_connections", "Connections currently registered with the hub", .gauge,
      [("", m.activeConnections)]⟩,
    ⟨"gateway_backpressure_disconnects_total",
      "Connections dropped because their outbound queue was full", .counter,
      [("", m.backpressureDisconnects)]⟩,
    ⟨"gateway_broadcasts_total", "Messages fanned out by the hub", .counter,
      [("", m.broadcasts)]⟩,
    ⟨"gateway_feed_connected", "1 while the upstream feed subscription is live", .gauge,
      [("", m.feedConnected)]⟩,
    ⟨"gateway_feed_fragments_total", "Feed fragments by event kind", .counter,
      labelled "kind" (EventKind.all.map fun kind => (kind.name, m.fragments.get kind))⟩,
    ⟨"gateway_malformed_messages_total", "Client frames dropped as malformed", .counter,
      [("", m.malformed)]⟩,
    ⟨"gateway_publish_outcomes_total", "Order publish results", .counter,
      labelled "outcome"
        [("accepted", m.outcomes.accepted), ("back_pressured", m.outcomes.backPressured),
          ("not_connected", m.outcomes.notConnected), ("unrecognized", m.outcomes.unrecognized)]⟩,
    ⟨"gateway_registrations_total", "Connections registered with the hub", .counter,
      [("", m.registrations)]⟩]

/-- The text that metrics are published as. -/
def exposition (m : Metrics) : String :=
  String.join ((m.families.flatMap Family.lines).map fun line => line ++ "\n")

end MarketGate.Metrics
