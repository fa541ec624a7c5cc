import MarketGate.Text.ClassTable

/-!
# Quoted text

How a text is shown inside double quotes for inspection: what can be printed stays as it is, and
the rest is written with a backslash, the common control characters by a letter and all others by
their code point.
-/

namespace MarketGate.Text

/-- The digits of a code point, in hexadecimal. -/
def codePoint (c : Char) : List Char := Nat.toDigits 16 c.toNat

/-- One character between double quotes. -/
def quotedChar (c : Char) : List Char :=
  match c.toNat with
  | 0x00 => ['\\', '0']
  | 0x09 => ['\\', 't']
  | 0x0a => ['\\', 'n']
  | 0x0d => ['\\', 'r']
  | 0x22 => ['\\', '"']
  | 0x5c => ['\\', '\\']
  | _ =>
    if isUnprintable c then ['\\', 'u', '\x7b'] ++ codePoint c ++ ['\x7d'] else [c]

/-- A text between double quotes. -/
def quoted (s : String) : String :=
  String.ofList ('"' :: s.toList.flatMap quotedChar ++ ['"'])

/-- A text between double quotes, as the names and values of variables are shown: there single
quotes have a backslash as well. -/
def quotedValue (s : String) : String :=
  let mark (c : Char) : List Char := if c = '\'' then ['\\', c] else quotedChar c
  String.ofList ('"' :: s.toList.flatMap mark ++ ['"'])

end MarketGate.Text
