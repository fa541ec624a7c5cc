import MarketGate.Json.Writer
import MarketGate.Notice

/-!
# Notices as lines of JSON

A notice is written as one line: an object with its level and, under `fields`, its message and its
named fields.
-/

namespace MarketGate.Notice

/-- The line for a notice. -/
def line (notice : Notice) : String :=
  let named := ("message", notice.message) :: notice.fields
  Json.objectText
    [Json.member "level" (Json.quotedName notice.level.name),
      Json.member "fields"
        (Json.objectText (named.map fun field => Json.member field.1 (Json.quotedText field.2)))]

end MarketGate.Notice
