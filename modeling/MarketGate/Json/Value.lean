import MarketGate.Text.Numeral

/-!
# Values of JSON texts

What a JSON text says, as far as a reader of settings and orders can tell.  Members of an object
stay in the order of the text and may repeat, because whether a repeated member is acceptable is for
the reader of the object to judge.  For the same reason a number that is no plain natural number,
and a string with half of a surrogate pair, are values that nothing can be made of: they are fine
where a value is skipped.

`Json.fields?` and `Json.variant?` are the two ways in which records and choices are spelled.
-/

namespace MarketGate

/-- A JSON value. -/
inductive Json where
  | null
  | bool (value : Bool)
  /-- A number; its value if it is written with digits only. -/
  | number (value? : Option Nat)
  /-- A string; its text if every escape in it means a character. -/
  | string (text? : Option String)
  | array (items : List Json)
  | object (members : List (Option String × Json))
  deriving Inhabited

namespace Json

/-- The natural number below `bound` that a value is. -/
def natBelow? (bound : Nat) : Json → Option Nat
  | number (some n) => if n < bound then some n else none
  | _ => none

/-- The text that a value is. -/
def text? : Json → Option String
  | string text => text
  | _ => none

/-- The one value that the members give to a name; nothing if the name is missing or repeated. -/
def only? (members : List (String × Json)) (name : String) : Option Json :=
  match members.filter fun m => m.1 == name with
  | [(_, value)] => some value
  | _ => none

/-- The members of an object, if all names are texts. -/
def named? (members : List (Option String × Json)) : Option (List (String × Json)) :=
  members.mapM fun m => m.1.map fun name => (name, m.2)

/-- The fields of a record with the given names, in that order.  A record is written as an object,
where every name occurs once and other names are passed over, or as an array of just the fields.
With `strict`, other names are refused. -/
def fields? (names : List String) (strict : Bool) : Json → Option (List Json)
  | array items => if items.length = names.length then some items else none
  | object members => do
    let members ← named? members
    if strict && members.any (fun m => !names.contains m.1) then none
    else names.mapM (only? members)
  | _ => none

/-- The name of a choice and what comes with it.  A choice is written as its name alone, or as an
object whose one member has that name. -/
def variant? : Json → Option (String × Option Json)
  | string (some name) => some (name, none)
  | object [(some name, content)] => some (name, some content)
  | _ => none

/-- Whether what comes with a choice that carries nothing is in order. -/
def isEmptyContent : Option Json → Bool
  | none => true
  | some null => true
  | some _ => false

end Json

end MarketGate
