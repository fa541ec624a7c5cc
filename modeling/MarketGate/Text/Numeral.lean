/-!
# Decimal numerals

How an unsigned number is read from a setting: an optional plus sign and then decimal digits only,
with a value below a bound.  Leading zeros are allowed; blanks, signs other than one plus and
separators are not.  Beside it stand the texts that are written: decimal numbers and bytes as pairs
of hexadecimal digits.
-/

namespace MarketGate.Text

/-- The value of a decimal digit. -/
def digitValue? (c : Char) : Option Nat :=
  if 48 ≤ c.toNat ∧ c.toNat ≤ 57 then some (c.toNat - 48) else none

/-- Reads decimal digits behind a number that is already read. -/
def readDigits? (n : Nat) : List Char → Option Nat
  | [] => some n
  | c :: rest =>
    match digitValue? c with
    | some d => readDigits? (n * 10 + d) rest
    | none => none

/-- The digits of a numeral, without its optional plus sign. -/
def dropPlus : List Char → List Char
  | c :: rest => if c.toNat = 43 then rest else c :: rest
  | [] => []

/-- Reads a number below `bound`. -/
def readNat? (bound : Nat) (cs : List Char) : Option Nat :=
  match dropPlus cs with
  | [] => none
  | digits =>
    match readDigits? 0 digits with
    | some n => if n < bound then some n else none
    | none => none

/-- The value of a hexadecimal digit. -/
def hexValue? (c : Char) : Option Nat :=
  let n := c.toNat
  if 48 ≤ n ∧ n ≤ 57 then some (n - 48)
  else if 97 ≤ n ∧ n ≤ 102 then some (n - 87)
  else if 65 ≤ n ∧ n ≤ 70 then some (n - 55)
  else none

/-- Reads digits behind a number that is already read, in a base of at most sixteen. -/
def readRadixFrom? (radix n : Nat) : List Char → Option Nat
  | [] => some n
  | c :: rest =>
    match hexValue? c with
    | some d => if d < radix then readRadixFrom? radix (n * radix + d) rest else none
    | none => none

/-- Reads a number that is given by digits alone, at least one, in a base of at most sixteen. -/
def readRadix? (radix : Nat) (cs : List Char) : Option Nat :=
  if cs.isEmpty then none else readRadixFrom? radix 0 cs

/-- The decimal text of a number. -/
def decimal (n : Nat) : String := String.ofList (Nat.toDigits 10 n)

/-- The decimal text of a number that may be negative. -/
def integer (n : Int) : String :=
  if n < 0 then "-" ++ decimal n.natAbs else decimal n.natAbs

/-- One hexadecimal digit, in lower case. -/
def hexDigit (n : Nat) : Char :=
  if n < 10 then Char.ofNat (48 + n) else Char.ofNat (87 + n)

/-- A byte as two hexadecimal digits. -/
def hexByte (b : UInt8) : List Char := [hexDigit (b.toNat / 16), hexDigit (b.toNat % 16)]

end MarketGate.Text
