import MarketGate.Text.Numeral

/-!
# Writing JSON texts

The compact forms that reports need: texts in quotes, and objects with their members in the order
given.
-/

namespace MarketGate.Json

/-- A name in double quotes; it has no character that would need an escape. -/
def quotedName (name : String) : String := "\"" ++ name ++ "\""

/-- A character of a text in quotes, escaped if it has to be. -/
def escapedChar (c : Char) : List Char :=
  match c.toNat with
  | 0x22 => ['\\', '"']
  | 0x5c => ['\\', '\\']
  | 0x8 => ['\\', 'b']
  | 0x9 => ['\\', 't']
  | 0xa => ['\\', 'n']
  | 0xc => ['\\', 'f']
  | 0xd => ['\\', 'r']
  | n => if n < 0x20 then ['\\', 'u', '0', '0'] ++ Text.hexByte (UInt8.ofNat n) else [c]

/-- A text in double quotes. -/
def quotedText (text : String) : String :=
  quotedName (String.ofList (text.toList.flatMap escapedChar))

/-- A member of a printed object. -/
def member (name : String) (value : String) : String := quotedName name ++ ":" ++ value

/-- A printed object with the given members. -/
def objectText (members : List String) : String := "\x7b" ++ ",".intercalate members ++ "\x7d"

end MarketGate.Json
