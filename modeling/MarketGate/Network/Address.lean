import MarketGate.Text.Numeral
import MarketGate.Text.Split

/-!
# Addresses on a network

The number that a host has on a network, in the two sizes that are in use, and how it is spelled,
with or without the number of a service behind it.

* The short form has 32 bits.  `readDotted?` reads the four bytes in decimal with points in between;
  `readLoose?` also reads fewer and larger parts, in bases eight and sixteen as well.
* The long form has 128 bits, as eight groups of sixteen with colons in between, and
  `readGroups?` reads it.  One gap stands for groups that are zero, and the last two groups may be
  spelled like a short address.  A long address may name the zone of the network that it is meant
  for.
-/

namespace MarketGate

/-- The number of a host. -/
inductive HostAddress where
  | short (value : BitVec 32)
  | long (value : BitVec 128) (zone : UInt32)
  deriving DecidableEq, Repr

namespace HostAddress

/-! ## Reading -/

/-- Puts digits of a number together, the highest digit first. -/
def join (radix : Nat) (digits : List Nat) : Nat := digits.foldl (fun n d => n * radix + d) 0

/-- Reads a byte in decimal, without needless zeros. -/
def readByte? : List Char → Option Nat
  | ['0'] => some 0
  | '0' :: _ => none
  | cs => do
    let n ← Text.readRadix? 10 cs
    if n < 256 then some n else none

/-- Reads four bytes with points in between. -/
def readDotted? (cs : List Char) : Option Nat := do
  let bytes ← (Text.splitOn '.' cs).mapM readByte?
  if bytes.length = 4 then some (join 256 bytes) else none

/-- Reads a number in the base that it starts with: sixteen behind `0x`, eight behind `0`. -/
def readPrefixed? : List Char → Option Nat
  | ['0'] => some 0
  | '0' :: c :: rest =>
    if c = 'x' ∨ c = 'X' then Text.readRadix? 16 rest else Text.readRadix? 8 (c :: rest)
  | cs => Text.readRadix? 10 cs

/-- Reads up to four numbers with points in between: all but the last are bytes, and the last one
fills the bytes that are left. -/
def readLoose? (cs : List Char) : Option Nat := do
  let parts ← (Text.splitOn '.' cs).mapM readPrefixed?
  let last ← parts.getLast?
  let bytes := parts.dropLast
  let bits := 8 * (5 - parts.length)
  if parts.length ≤ 4 ∧ bytes.all (· < 256) ∧ last < 1 <<< bits then
    some (join 256 bytes <<< bits + last)
  else none

/-- Reads one group: up to four hexadecimal digits. -/
def readGroup? (cs : List Char) : Option Nat :=
  if cs.length ≤ 4 then Text.readRadix? 16 cs else none

/-- Reads parts of a long address; the last one may stand for two groups. -/
def readParts? : List (List Char) → Option (List Nat)
  | [] => some []
  | [part] =>
    match readDotted? part with
    | some n => some [n / 65536, n % 65536]
    | none => (readGroup? part).map fun group => [group]
  | part :: parts => do
    let group ← readGroup? part
    return group :: (← readParts? parts)

/-- The parts between colons, of which an empty text has none. -/
def partsOf (cs : List Char) : List (List Char) :=
  if cs.isEmpty then [] else Text.splitOn ':' cs

/-- The text before and the text behind the first two colons in a row. -/
def splitGap : List Char → Option (List Char × List Char)
  | ':' :: ':' :: rest => some ([], rest)
  | c :: rest => (splitGap rest).map fun parts => (c :: parts.1, parts.2)
  | [] => none

/-- Reads the eight groups of a long address. -/
def readGroups? (cs : List Char) : Option (List Nat) :=
  match splitGap cs with
  | none => do
    let groups ← readParts? (partsOf cs)
    if groups.length = 8 then some groups else none
  | some (head, tail) => do
    let before ← (partsOf head).mapM readGroup?
    let behind ← readParts? (partsOf tail)
    let given := before.length + behind.length
    if given < 8 then some (before ++ List.replicate (8 - given) 0 ++ behind) else none

/-- Reads the number of a zone. -/
def readZone? (cs : List Char) : Option UInt32 := do
  let n ← Text.readRadix? 10 cs
  if n < UInt32.size then some (UInt32.ofNat n) else none

/-- Reads a long address; `zone?` reads the zone behind a percent sign. -/
def readLong? (zone? : BitVec 128 → List Char → Option UInt32) (cs : List Char) :
    Option HostAddress :=
  match Text.splitFirst '%' cs with
  | none => (readGroups? cs).map fun groups => .long (.ofNat 128 (join 65536 groups)) 0
  | some (cs, zone) => do
    let value := BitVec.ofNat 128 (join 65536 (← readGroups? cs))
    return .long value (← zone? value zone)

/-- Reads a long address in square brackets. -/
def readBracketed? : List Char → Option HostAddress
  | '[' :: cs =>
    match Text.splitLast ']' cs with
    | some (cs, []) => readLong? (fun _ => readZone?) cs
    | _ => none
  | _ => none

/-! ## Kinds of long addresses -/

/-- Whether a long address stands for a short one. -/
def isMapped (value : BitVec 128) : Bool := value >>> 32 == 0xffff#128

/-- Whether a long address is shared by a group of hosts. -/
def isMulticast (value : BitVec 128) : Bool := value >>> 120 == 0xff#128

/-- Whether a long address means a host in one zone only. -/
def isLinkLocal (value : BitVec 128) : Bool := value >>> 118 == 0x3fa#128

/-- Whether the zone of a long address may be called by its name: the address means one host or a
group of hosts in one zone only. -/
def isZoned (value : BitVec 128) : Bool :=
  isLinkLocal value || (isMulticast value && (value >>> 112) &&& 0xf#128 == 2#128)

/-! ## Writing -/

/-- The digits of a number, `count` of them, the highest first. -/
def digits (radix : Nat) : (count n : Nat) → List Nat
  | 0, _ => []
  | count + 1, n => digits radix count (n / radix) ++ [n % radix]

/-- Four bytes with points in between. -/
def dotted (n : Nat) : String := ".".intercalate ((digits 256 4 n).map Text.decimal)

/-- Groups with colons in between. -/
def groupsText (groups : List Nat) : String :=
  ":".intercalate (groups.map fun group => String.ofList (Nat.toDigits 16 group))

/-- Where the longest run of zeros starts, the first of them if there are several, and how long it
is. -/
def longestGap (groups : List Nat) : Nat × Nat :=
  (List.range groups.length).foldl (fun best start =>
    let length := ((groups.drop start).takeWhile (· == 0)).length
    if best.2 < length then (start, length) else best) (0, 0)

/-- A long address without its zone.  The longest run of zero groups is left out, if it is longer
than one. -/
def longText (value : BitVec 128) : String :=
  if isMapped value then "::ffff:" ++ dotted (value.toNat % UInt32.size)
  else
    let groups := digits 65536 8 value.toNat
    let (start, length) := longestGap groups
    if length < 2 then groupsText groups
    else groupsText (groups.take start) ++ "::" ++ groupsText (groups.drop (start + length))

/-- An address as it stands in front of the number of a service: a long one in brackets. -/
def text : HostAddress → String
  | short value => dotted value.toNat
  | long value zone =>
    "[" ++ longText value ++ (if zone = 0 then "" else "%" ++ Text.decimal zone.toNat) ++ "]"

end HostAddress

/-- A host, and the number of a service there. -/
structure SocketAddress where
  host : HostAddress
  service : Nat
  deriving DecidableEq, Repr

namespace SocketAddress

/-- Reads an address as it is spelled, a long host in brackets. -/
def read? (cs : List Char) : Option SocketAddress := do
  let (host, digits) ← Text.splitLast ':' cs
  let service ← Text.readRadix? 10 digits
  if service < 65536 then
    match HostAddress.readBracketed? host with
    | some host => return ⟨host, service⟩
    | none => return ⟨.short (.ofNat 32 (← HostAddress.readDotted? host)), service⟩
  else none

/-- An address as it is spelled. -/
def text (address : SocketAddress) : String :=
  address.host.text ++ ":" ++ Text.decimal address.service

end SocketAddress

end MarketGate
