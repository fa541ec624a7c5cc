import MarketGate.Json.Value

/-!
# Reading JSON texts

A reader for the whole grammar of JSON and nothing beyond it: no leading zeros, no comments, no
trailing commas, no control characters inside strings.  Blanks are the four that the grammar names.

Every function takes characters from the front of the text and gives back the rest.  Values nest,
so they are read with a bound on the number of steps; each value takes at least one character, and
`Json.read?` starts with as many steps as the text has characters.
-/

namespace MarketGate.Json

/-- Whether a character may stand between the parts of a text. -/
def isSpace (c : Char) : Bool :=
  c.toNat == 0x20 || c.toNat == 0x9 || c.toNat == 0xa || c.toNat == 0xd

/-- The text without the blanks it starts with. -/
def skipSpace (cs : List Char) : List Char := cs.dropWhile isSpace

/-- The number of the four hexadecimal digits at the front. -/
def hexFour? : List Char → Option (Nat × List Char)
  | a :: b :: c :: d :: rest => do
    let a ← Text.hexValue? a
    let b ← Text.hexValue? b
    let c ← Text.hexValue? c
    let d ← Text.hexValue? d
    return (((a * 16 + b) * 16 + c) * 16 + d, rest)
  | _ => none

/-- What a string is made of: characters, and halves of surrogate pairs that were escaped. -/
inductive Unit where
  | char (c : Char)
  | high (n : Nat)
  | low (n : Nat)

/-- The unit that the code of an escape stands for. -/
def Unit.ofCode (n : Nat) : Unit :=
  if 0xd800 ≤ n ∧ n < 0xdc00 then .high (n - 0xd800)
  else if 0xdc00 ≤ n ∧ n < 0xe000 then .low (n - 0xdc00)
  else .char (Char.ofNat n)

/-- The characters of a string, if its halves of surrogate pairs pair up. -/
def joinUnits? : List Unit → Option (List Char)
  | [] => some []
  | .char c :: rest => (joinUnits? rest).map (c :: ·)
  | .high h :: .low l :: rest =>
    (joinUnits? rest).map (Char.ofNat (0x10000 + h * 0x400 + l) :: ·)
  | .high _ :: _ => none
  | .low _ :: _ => none

/-- The character that a letter stands for behind a backslash. -/
def escaped? (c : Char) : Option Char :=
  match c.toNat with
  | 0x22 => some '"'
  | 0x5c => some '\\'
  | 0x2f => some '/'
  | 0x62 => some (Char.ofNat 8)
  | 0x66 => some (Char.ofNat 12)
  | 0x6e => some (Char.ofNat 10)
  | 0x72 => some (Char.ofNat 13)
  | 0x74 => some (Char.ofNat 9)
  | _ => none

/-- Reads the rest of a string behind its opening quote; `read` holds what was read, last unit
first. -/
def readUnits? (steps : Nat) (read : List Unit) (cs : List Char) :
    Option (List Unit × List Char) :=
  match steps, cs with
  | 0, _ => none
  | _ + 1, [] => none
  | steps + 1, c :: rest =>
    if c.toNat = 0x22 then some (read.reverse, rest)
    else if c.toNat = 0x5c then
      match rest with
      | [] => none
      | e :: rest =>
        if e.toNat = 0x75 then
          match hexFour? rest with
          | some (n, rest) => readUnits? steps (Unit.ofCode n :: read) rest
          | none => none
        else
          match escaped? e with
          | some c => readUnits? steps (.char c :: read) rest
          | none => none
    else if c.toNat < 0x20 then none
    else readUnits? steps (.char c :: read) rest

/-- Reads the rest of a string behind its opening quote. -/
def readString? (cs : List Char) : Option (Option String × List Char) :=
  (readUnits? (cs.length + 1) [] cs).map fun r => ((joinUnits? r.1).map String.ofList, r.2)

/-- Splits off the digits at the front. -/
def spanDigits (cs : List Char) : List Char × List Char :=
  cs.span fun c => (Text.digitValue? c).isSome

/-- The rest behind the fraction at the front, and whether there was one. -/
def skipFraction? : List Char → Option (Bool × List Char)
  | '.' :: rest =>
    match spanDigits rest with
    | ([], _) => none
    | (_ :: _, rest) => some (true, rest)
  | cs => some (false, cs)

/-- The text without the sign of an exponent. -/
def skipSign : List Char → List Char
  | '+' :: rest => rest
  | '-' :: rest => rest
  | cs => cs

/-- The rest behind the exponent at the front, and whether there was one. -/
def skipExponent? : List Char → Option (Bool × List Char)
  | c :: rest =>
    if c = 'e' ∨ c = 'E' then
      match spanDigits (skipSign rest) with
      | ([], _) => none
      | (_ :: _, rest) => some (true, rest)
    else some (false, c :: rest)
  | [] => some (false, [])

/-- Reads a number without its sign. -/
def readUnsigned? (cs : List Char) : Option (Option Nat × List Char) := do
  let (digits, rest) := spanDigits cs
  let whole ←
    match digits with
    | [] => none
    | '0' :: _ :: _ => none
    | digits => Text.readDigits? 0 digits
  let (fraction, rest) ← skipFraction? rest
  let (exponent, rest) ← skipExponent? rest
  return (if fraction || exponent then none else some whole, rest)

/-- Reads a number. -/
def readNumber? : List Char → Option (Option Nat × List Char)
  | '-' :: rest => (readUnsigned? rest).map fun r => (none, r.2)
  | cs => readUnsigned? cs

mutual

/-- Reads the value at the front. -/
def readValue? : Nat → List Char → Option (Json × List Char)
  | 0, _ => none
  | steps + 1, cs =>
    match skipSpace cs with
    | 'n' :: 'u' :: 'l' :: 'l' :: rest => some (.null, rest)
    | 't' :: 'r' :: 'u' :: 'e' :: rest => some (.bool true, rest)
    | 'f' :: 'a' :: 'l' :: 's' :: 'e' :: rest => some (.bool false, rest)
    | '"' :: rest => (readString? rest).map fun r => (.string r.1, r.2)
    | '[' :: rest =>
      match skipSpace rest with
      | ']' :: rest => some (.array [], rest)
      | rest => (readItems? steps [] rest).map fun r => (.array r.1, r.2)
    | c :: rest =>
      if c.toNat = 0x7b then
        match skipSpace rest with
        | [] => none
        | d :: rest =>
          if d.toNat = 0x7d then some (.object [], rest)
          else (readMembers? steps [] (d :: rest)).map fun r => (.object r.1, r.2)
      else (readNumber? (c :: rest)).map fun r => (.number r.1, r.2)
    | [] => none

/-- Reads the items of an array up to its end; `read` holds those before, last one first. -/
def readItems? : Nat → List Json → List Char → Option (List Json × List Char)
  | 0, _, _ => none
  | steps + 1, read, cs =>
    match readValue? steps cs with
    | none => none
    | some (item, rest) =>
      match skipSpace rest with
      | ',' :: rest => readItems? steps (item :: read) rest
      | ']' :: rest => some ((item :: read).reverse, rest)
      | _ => none

/-- Reads the members of an object up to its end; `read` holds those before, last one first. -/
def readMembers? : Nat → List (Option String × Json) → List Char →
    Option (List (Option String × Json) × List Char)
  | 0, _, _ => none
  | steps + 1, read, cs =>
    match skipSpace cs with
    | '"' :: rest =>
      match readString? rest with
      | none => none
      | some (name, rest) =>
        match skipSpace rest with
        | ':' :: rest =>
          match readValue? steps rest with
          | none => none
          | some (value, rest) =>
            match skipSpace rest with
            | [] => none
            | c :: rest =>
              if c = ',' then readMembers? steps ((name, value) :: read) rest
              else if c.toNat = 0x7d then some (((name, value) :: read).reverse, rest)
              else none
        | _ => none
    | _ => none

end

/-- The value of a JSON text. -/
def read? (text : String) : Option Json :=
  let cs := text.toList
  match readValue? (2 * cs.length + 2) cs with
  | some (value, rest) => if (skipSpace rest).isEmpty then some value else none
  | none => none

end MarketGate.Json
