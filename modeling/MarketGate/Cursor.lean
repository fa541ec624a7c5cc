import MarketGate.Bytes

/-!
# Cursors

A record of fixed fields is written and read from the front, one field after the other.  A cursor
stands in a byte string, with what it has passed behind it and the rest ahead.  It moves on only as
far as there are bytes ahead: a reader that runs past the end of its input, or a writer that runs
past the end of its buffer, gives nothing.

* `Cursor.take` and `Cursor.takeByte` read the next field, `Cursor.put` writes over it, and
  `Cursor.putAll` writes over one field after the other.
* **`Cursor.take_past`**: a reader that has not reached the end finds the bytes at its place.
* **`Cursor.putAll_overwriting`**: a writer for whose fields there is room puts them over the front
  of its buffer and leaves the rest of it alone.
-/

namespace MarketGate

/-- A place in a byte string. -/
structure Cursor where
  behind : Bytes
  ahead : Bytes
  deriving DecidableEq, Repr

namespace Cursor

/-- What is done at a cursor, and moves it on.  Nothing comes of what runs past the end. -/
abbrev Walk (α : Type) := StateT Cursor Option α

/-- The place behind the first `n` bytes. -/
def past (data : Bytes) (n : Nat) : Cursor := ⟨data.take n, data.drop n⟩

/-- The whole byte string. -/
def bytes (c : Cursor) : Bytes := c.behind ++ c.ahead

/-- Reads the next `width` bytes. -/
def take (width : Nat) : Walk Bytes := fun c =>
  if width ≤ c.ahead.length then
    some (c.ahead.take width, ⟨c.behind ++ c.ahead.take width, c.ahead.drop width⟩)
  else none

/-- Reads the next byte. -/
def takeByte : Walk UInt8 := fun c =>
  match c.ahead with
  | [] => none
  | b :: rest => some (b, ⟨c.behind ++ [b], rest⟩)

/-- Reads the next `width` bytes as a number. -/
def takeNat (width : Nat) : Walk Nat := Bytes.toNat <$> take width

/-- Writes over the next bytes. -/
def put (patch : Bytes) : Walk Unit := fun c =>
  if patch.length ≤ c.ahead.length then
    some ((), ⟨c.behind ++ patch, c.ahead.drop patch.length⟩)
  else none

/-- Writes over the next bytes, one field after the other. -/
def putAll : List Bytes → Walk Unit
  | [] => pure ()
  | field :: rest => do
    put field
    putAll rest

section Read

variable {data : Bytes} {n width : Nat}

/-- A reader that has not reached the end finds the bytes at its place. -/
theorem take_past (h : n + width ≤ data.length) :
    (take width).run (.past data n) = some ((data.drop n).take width, .past data (n + width)) := by
  have hroom : width ≤ (data.drop n).length := by
    rw [List.length_drop]
    omega
  simp only [take, past, StateT.run, if_pos hroom, List.take_add, List.drop_drop]

theorem takeNat_past (h : n + width ≤ data.length) :
    (takeNat width).run (.past data n)
      = some (Bytes.toNat ((data.drop n).take width), .past data (n + width)) := by
  simp only [takeNat, StateT.run_map, take_past h, Option.map_eq_map, Option.map_some]

theorem takeByte_past (h : n < data.length) :
    takeByte.run (.past data n) = some (data.getD n 0, .past data (n + 1)) := by
  have hcons : data.drop n = data[n] :: data.drop (n + 1) := List.drop_eq_getElem_cons h
  have hbyte : data.getD n 0 = data[n] := (List.getElem_eq_getD 0).symm
  simp only [takeByte, past, StateT.run, hcons, hbyte, List.take_succ_eq_append_getElem h]

end Read

section Write

variable {buffer written patch : Bytes}

/-- A buffer whose front is written. -/
def overwriting (buffer written : Bytes) : Cursor := ⟨written, buffer.drop written.length⟩

/-- A writer for whose field there is room puts it behind what is written. -/
theorem put_overwriting (h : written.length + patch.length ≤ buffer.length) :
    (put patch).run (.overwriting buffer written)
      = some ((), .overwriting buffer (written ++ patch)) := by
  have hroom : patch.length ≤ (buffer.drop written.length).length := by
    rw [List.length_drop]
    omega
  simp only [put, overwriting, StateT.run, if_pos hroom, List.drop_drop, List.length_append]

/-- A writer for whose fields there is room puts them behind what is written. -/
theorem putAll_overwriting {fields : List Bytes}
    (h : written.length + fields.flatten.length ≤ buffer.length) :
    (putAll fields).run (.overwriting buffer written)
      = some ((), .overwriting buffer (written ++ fields.flatten)) := by
  induction fields generalizing written with
  | nil => simp [putAll]
  | cons field rest ih =>
      rw [List.flatten_cons, List.length_append] at h
      have hfirst : (put field).run (.overwriting buffer written)
          = some ((), .overwriting buffer (written ++ field)) := put_overwriting (by omega)
      have hrest : (putAll rest).run (.overwriting buffer (written ++ field))
          = some ((), .overwriting buffer (written ++ field ++ rest.flatten)) :=
        ih (by rw [List.length_append]; omega)
      rw [putAll, StateT.run_bind, hfirst, List.flatten_cons, ← List.append_assoc]
      exact hrest

end Write

end Cursor

end MarketGate
