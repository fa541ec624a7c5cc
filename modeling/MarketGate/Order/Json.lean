import MarketGate.Json.Reader
import MarketGate.Json.Writer
import MarketGate.Order

/-!
# Orders as JSON

The JSON form of an order: its fields in a fixed order, unit choices as strings, and a book that is
known by its number only as an object with that number.

* `Order.toJson` prints the compact form, `Order.ofJson?` reads any form that the record and choice
  rules of `MarketGate.Json.Value` allow.
-/

namespace MarketGate

namespace OrderBook

/-- The name of a book's choice, and what comes with it. -/
def toJson : OrderBook → String
  | other n => Json.objectText [Json.member "Other" (Text.decimal n.toNat)]
  | book => Json.quotedName book.inspect

/-- Reads a book. -/
def ofJson? (value : Json) : Option OrderBook := do
  let (name, content) ← value.variant?
  match name, content with
  | "Other", some content => return other (UInt32.ofNat (← content.natBelow? UInt32.size))
  | name, content =>
    if Json.isEmptyContent content then
      match name with
      | "ZilDai" => some zilDai
      | "EthDai" => some ethDai
      | "ZilEth" => some zilEth
      | _ => none
    else none

end OrderBook

/-- Reads a side. -/
def Side.ofJson? (value : Json) : Option Side := do
  let (name, content) ← value.variant?
  if Json.isEmptyContent content then
    match name with
    | "Buy" => some buy
    | "Sell" => some sell
    | _ => none
  else none

/-- Reads a kind of order. -/
def OrderKind.ofJson? (value : Json) : Option OrderKind := do
  let (name, content) ← value.variant?
  if Json.isEmptyContent content then
    match name with
    | "Limit" => some limit
    | "Market" => some market
    | _ => none
  else none

namespace Order

/-- The names of the fields, in their order. -/
def fieldNames : List String :=
  ["account_id", "order_book_id", "order_id", "order_type", "side", "quantity", "price"]

/-- The compact JSON form. -/
def toJson (o : Order) : String :=
  Json.objectText <| List.zipWith Json.member fieldNames
    [Text.decimal o.account.toNat, o.book.toJson, Text.decimal o.id.toNat,
      Json.quotedName o.kind.name, Json.quotedName o.side.name, Text.decimal o.quantity.toNat,
      Text.decimal o.price.toNat]

/-- Reads an order from a value. -/
def ofValue? (value : Json) : Option Order :=
  match value.fields? fieldNames false with
  | some [account, book, id, kind, side, quantity, price] => do
    return {
      account := UInt32.ofNat (← account.natBelow? UInt32.size)
      book := ← OrderBook.ofJson? book
      id := UInt32.ofNat (← id.natBelow? UInt32.size)
      kind := ← OrderKind.ofJson? kind
      side := ← Side.ofJson? side
      quantity := UInt64.ofNat (← quantity.natBelow? UInt64.size)
      price := UInt32.ofNat (← price.natBelow? UInt32.size) }
  | _ => none

/-- Reads an order from a text. -/
def ofJson? (text : String) : Option Order := (Json.read? text).bind ofValue?

end Order

end MarketGate
