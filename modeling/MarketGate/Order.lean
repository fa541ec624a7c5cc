import MarketGate.Bytes
import MarketGate.Fault

/-!
# Orders

An order that a client enters, and its record on the wire: 43 bytes, integers big-endian.

| offset | size | field |
|--------|------|-------|
| 0  | 1 | record tag `'O'` |
| 1  | 4 | order number |
| 5  | 1 | account tag `'C'` |
| 6  | 4 | account number |
| 10 | 1 | side, `'B'` or `'S'` |
| 11 | 8 | quantity |
| 19 | 4 | book number |
| 23 | 4 | price in thousandths |
| 27 | 4 | time in force, zero |
| 31 | 4 | client number, zero |
| 35 | 8 | least quantity, zero |

The record has no field for the kind of order: one price is set aside for market orders.  So a
decoded order takes its kind from its price, and its book from the number of the book.

* `Order.encode` writes a record, `Order.encodeInto` writes it over a buffer, `Order.decode` reads
  one and says in `DecodeError` why it refuses.
* **`Order.length_encode`**: a record has 43 bytes.
-/

namespace MarketGate

/-- The book that an order is entered in. -/
inductive OrderBook where
  | zilDai
  | ethDai
  | zilEth
  /-- A book known by its number only. -/
  | other (number : UInt32)
  deriving DecidableEq, Repr

namespace OrderBook

/-- The number of a book on the wire. -/
def number : OrderBook → UInt32
  | zilDai => 777
  | ethDai => 778
  | zilEth => 779
  | other n => n

/-- The book with a number. -/
def ofNumber (n : UInt32) : OrderBook :=
  if n = 777 then zilDai else if n = 778 then ethDai else if n = 779 then zilEth else other n

/-- The name of a book in reports. -/
def name : OrderBook → String
  | zilDai => "ZIL_DAI"
  | ethDai => "ETH_DAI"
  | zilEth => "ZIL_ETH"
  | other n => "BOOK_" ++ Text.decimal n.toNat

/-- A book as it is shown for inspection. -/
def inspect : OrderBook → String
  | zilDai => "ZilDai"
  | ethDai => "EthDai"
  | zilEth => "ZilEth"
  | other n => "Other(" ++ Text.decimal n.toNat ++ ")"

/-- The book of a number has that number. -/
@[simp] theorem number_ofNumber (n : UInt32) : (ofNumber n).number = n := by
  unfold ofNumber
  split
  · next h => exact h.symm
  · split
    · next h => exact h.symm
    · split
      · next h => exact h.symm
      · rfl

end OrderBook

/-- Whether an order buys or sells. -/
inductive Side where
  | buy
  | sell
  deriving DecidableEq, Repr

namespace Side

/-- The byte of a side on the wire. -/
def byte : Side → UInt8
  | buy => 66
  | sell => 83

/-- The side with a byte. -/
def ofByte? (b : UInt8) : Option Side :=
  if b = 66 then some buy else if b = 83 then some sell else none

/-- A side as it is shown in reports. -/
def name : Side → String
  | buy => "Buy"
  | sell => "Sell"

@[simp] theorem ofByte?_byte (s : Side) : ofByte? s.byte = some s := by cases s <;> rfl

end Side

/-- The price that stands for "at the market". -/
def marketPrice : UInt32 := 0x7fffffff

/-- Whether an order names its price or takes the market's. -/
inductive OrderKind where
  | limit
  | market
  deriving DecidableEq, Repr

namespace OrderKind

/-- The kind of the orders with a price: the price set aside means a market order. -/
def ofPrice (price : UInt32) : OrderKind := if price = marketPrice then market else limit

/-- A kind as it is shown in reports. -/
def name : OrderKind → String
  | limit => "Limit"
  | market => "Market"

end OrderKind

/-- An order. -/
structure Order where
  account : UInt32
  book : OrderBook
  id : UInt32
  kind : OrderKind
  side : Side
  quantity : UInt64
  /-- In thousandths; `marketPrice` for market orders. -/
  price : UInt32
  deriving DecidableEq, Repr

namespace Order

/-- A limit order. -/
def limit (account : UInt32) (book : OrderBook) (id : UInt32) (side : Side) (quantity : UInt64)
    (price : UInt32) : Order :=
  { account, book, id, kind := .limit, side, quantity, price }

/-- A market order. -/
def market (account : UInt32) (book : OrderBook) (id : UInt32) (side : Side) (quantity : UInt64) :
    Order :=
  { account, book, id, kind := .market, side, quantity, price := marketPrice }

/-- The first byte of a record. -/
def recordTag : UInt8 := 79

/-- The byte in front of the account number. -/
def accountTag : UInt8 := 67

/-- The length of a record. -/
def recordLength : Nat := 43

/-- The record of an order. -/
def encode (o : Order) : Bytes :=
  recordTag :: Bytes.ofNat 4 o.id.toNat
    ++ accountTag :: Bytes.ofNat 4 o.account.toNat
    ++ o.side.byte :: Bytes.ofNat 8 o.quantity.toNat
    ++ Bytes.ofNat 4 o.book.number.toNat
    ++ Bytes.ofNat 4 o.price.toNat
    ++ Bytes.ofNat 4 0 ++ Bytes.ofNat 4 0 ++ Bytes.ofNat 8 0

/-- Every record has the same length. -/
@[simp] theorem length_encode (o : Order) : o.encode.length = recordLength := by
  simp [encode, recordLength]

/-- Writes the record of an order over the start of a buffer. -/
def encodeInto (o : Order) (buffer : Bytes) : Bytes := buffer.overwrite 0 o.encode

/-- Why a byte string is no record of an order. -/
inductive DecodeError where
  | wrongLength (length : Nat)
  | wrongTag (tag : UInt8)
  | unknownSide (side : UInt8)
  deriving DecidableEq, Repr

/-- The words for a refused record. -/
def DecodeError.message : DecodeError → String
  | .wrongLength length =>
    "EnterOrder must be " ++ Text.decimal recordLength ++ " bytes, got " ++ Text.decimal length
  | .wrongTag tag => "unexpected EnterOrder type tag 0x" ++ String.ofList (Text.hexByte tag)
  | .unknownSide side => "unknown order side 0x" ++ String.ofList (Text.hexByte side)

/-- The fault that a refused record amounts to. -/
def DecodeError.fault (e : DecodeError) : Fault := .malformedMessage e.message

/-- The bytes of a field. -/
def field (data : Bytes) (offset width : Nat) : Bytes := (data.drop offset).take width

/-- Reads a record.  The account tag and the last three fields are not looked at. -/
def decode (data : Bytes) : Except DecodeError Order :=
  if data.length ≠ recordLength then .error (.wrongLength data.length)
  else
    let tag := data.getD 0 0
    if tag ≠ recordTag then .error (.wrongTag tag)
    else
      let sideByte := data.getD 10 0
      match Side.ofByte? sideByte with
      | none => .error (.unknownSide sideByte)
      | some side =>
        let price := UInt32.ofNat (field data 23 4).toNat
        .ok
          { account := UInt32.ofNat (field data 6 4).toNat
            book := .ofNumber (UInt32.ofNat (field data 19 4).toNat)
            id := UInt32.ofNat (field data 1 4).toNat
            kind := .ofPrice price
            side
            quantity := UInt64.ofNat (field data 11 8).toNat
            price }

end Order

end MarketGate
