import MarketGate.Event
import MarketGate.Feed.Outcome
import MarketGate.Json.Writer

/-!
# Kinds and outcomes as JSON

The JSON forms of the kinds of event records and of the outcomes of offers: a name, or an object
whose one member has the name and the number that comes with it.
-/

namespace MarketGate

/-- The JSON form of a kind. -/
def EventKind.toJson : EventKind → String
  | accepted => Json.quotedName "Accepted"
  | rejected => Json.quotedName "Rejected"
  | executed => Json.quotedName "Executed"
  | unknown => Json.quotedName "Unknown"

/-- The JSON form of an outcome. -/
def PublishOutcome.toJson : PublishOutcome → String
  | accepted position => Json.objectText [Json.member "Accepted" (Text.integer position)]
  | notConnected => Json.quotedName "NotConnectedYet"
  | backPressured => Json.quotedName "BackPressured"
  | unrecognized code => Json.objectText [Json.member "UnrecognizedCode" (Text.integer code)]

end MarketGate
