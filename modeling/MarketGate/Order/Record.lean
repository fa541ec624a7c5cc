import MarketGate.Cursor
import MarketGate.Order

/-!
# Records of orders, field by field

A record is written and read with a cursor.  `Order.encode` and `Order.decode` say where each field
stands; here the fields come one after the other, and where they stand is what the cursor has
passed.  The cursor may run past the end, so `Order.write?` and `Order.read?` may give nothing.

* `Order.fields` are the fields in the order in which they are written, `Order.write?` writes them
  over the front of a buffer, and `Order.record?` writes them into a fresh one.
* `Order.read?` looks at the length of a byte string, and then reads one field after the other until
  one of them is wrong.
-/

namespace MarketGate

namespace Order

/-- The fields of a record, first to last. -/
def fields (o : Order) : List Bytes :=
  [[recordTag], Bytes.ofNat 4 o.id.toNat, [accountTag], Bytes.ofNat 4 o.account.toNat,
    [o.side.byte], Bytes.ofNat 8 o.quantity.toNat, Bytes.ofNat 4 o.book.number.toNat,
    Bytes.ofNat 4 o.price.toNat,
    -- time in force, client number and least quantity
    Bytes.ofNat 4 0, Bytes.ofNat 4 0, Bytes.ofNat 8 0]

/-- Writes the record of an order over the front of a buffer. -/
def write? (o : Order) (buffer : Bytes) : Option Bytes :=
  ((Cursor.putAll o.fields).run (.past buffer 0)).map fun r => r.2.bytes

/-- Writes the record of an order into a buffer of its own. -/
def record? (o : Order) : Option Bytes := o.write? (List.replicate recordLength 0)

/-- Reads the fields of a record.  What stands in the account tag does not matter, and what stands
behind the price is not read. -/
def take : Cursor.Walk (Except DecodeError Order) := do
  let tag ← Cursor.takeByte
  if tag ≠ recordTag then
    pure (.error (.wrongTag tag))
  else
    let id ← Cursor.takeNat 4
    let _accountTag ← Cursor.takeByte
    let account ← Cursor.takeNat 4
    let sideByte ← Cursor.takeByte
    match Side.ofByte? sideByte with
    | none => pure (.error (.unknownSide sideByte))
    | some side =>
      let quantity ← Cursor.takeNat 8
      let book ← Cursor.takeNat 4
      let price ← Cursor.takeNat 4
      pure <| .ok
        { account := UInt32.ofNat account
          book := .ofNumber (UInt32.ofNat book)
          id := UInt32.ofNat id
          kind := .ofPrice (UInt32.ofNat price)
          side
          quantity := UInt64.ofNat quantity
          price := UInt32.ofNat price }

/-- Reads a record. -/
def read? (data : Bytes) : Option (Except DecodeError Order) :=
  if data.length ≠ recordLength then some (.error (.wrongLength data.length))
  else (take.run (.past data 0)).map Prod.fst

end Order

end MarketGate
