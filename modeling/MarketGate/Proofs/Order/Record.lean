import MarketGate.Order.Record
import Mathlib.Data.List.Basic

/-!
# What a record says of an order

A record has a place for each number of an order, but none for its kind, and a book is in it with
its number alone.  So a reader takes the kind from the price and the book from the number, and what
comes back is the *normal form* of the order that was written (`Order.normal`).

Of the bytes of a record a reader looks at some only: it skips the account tag and everything behind
the price.  `Order.Spells` says what the others have to be for an order, and `Order.LaidOut` adds
what a writer puts into the places that are skipped.

* **`decode_eq_ok_iff`**: a byte string is read as an order exactly when it spells the order and the
  order is normal.
* **`LaidOut.eq_encode`**: the layout leaves no byte open.
* **`write?_eq`**, **`read?_eq`**: the cursors never run past the end, and put and find every field
  where the layout has it.
* **`decode_encode`**: what comes back of an order that was written.
* `getElem?_encode_of_spells`: how a byte string differs from what is written when the order that
  was read from it is written again.
-/

namespace MarketGate

/-! ## Numbers of a fixed width -/

namespace Bytes

@[simp] lemma toNat_ofNat_uint32 (n : UInt32) : toNat (ofNat 4 n.toNat) = n.toNat :=
  toNat_ofNat_of_lt n.toNat_lt

@[simp] lemma toNat_ofNat_uint64 (n : UInt64) : toNat (ofNat 8 n.toNat) = n.toNat :=
  toNat_ofNat_of_lt n.toNat_lt

end Bytes

namespace Side

/-- Only the byte of a side is read as it. -/
lemma eq_byte_of_ofByte? {b : UInt8} {side : Side} (h : ofByte? b = some side) : b = side.byte := by
  unfold ofByte? at h
  split_ifs at h with hbuy hsell
  · cases h
    exact hbuy
  · cases h
    exact hsell

end Side

namespace Order

section Field

variable {data other : Bytes} {n width : Nat}

@[simp] lemma length_field (h : n + width ≤ data.length) : (field data n width).length = width := by
  rw [field, List.length_take, List.length_drop]
  omega

lemma toNat_field_lt (h : n + width ≤ data.length) :
    Bytes.toNat (field data n width) < Bytes.bound width := by
  have hlt := Bytes.toNat_lt (field data n width)
  rwa [length_field h] at hlt

/-- A field of four bytes is read as it stands. -/
lemma toNat_uint32 (h : n + 4 ≤ data.length) :
    (UInt32.ofNat (Bytes.toNat (field data n 4))).toNat = Bytes.toNat (field data n 4) :=
  UInt32.toNat_ofNat_of_lt' (toNat_field_lt h)

/-- So is a field of eight. -/
lemma toNat_uint64 (h : n + 8 ≤ data.length) :
    (UInt64.ofNat (Bytes.toNat (field data n 8))).toNat = Bytes.toNat (field data n 8) :=
  UInt64.toNat_ofNat_of_lt' (toNat_field_lt h)

/-- The bytes of a field are bytes of the whole. -/
lemma getElem?_field {i : Nat} (h : i < width) : (field data n width)[i]? = data[n + i]? := by
  rw [field, List.getElem?_take_of_lt h, List.getElem?_drop]

/-- The bytes of a field are those of its number. -/
lemma ofNat_toNat_field (h : n + width ≤ data.length) :
    Bytes.ofNat width (Bytes.toNat (field data n width)) = field data n width := by
  have hback := Bytes.ofNat_toNat (field data n width)
  rwa [length_field h] at hback

/-- Two byte strings with the same number in a field have the same bytes in it. -/
lemma getElem?_eq_of_toNat_field (hdata : n + width ≤ data.length)
    (hother : n + width ≤ other.length)
    (heq : Bytes.toNat (field data n width) = Bytes.toNat (field other n width)) {i : Nat}
    (hfrom : n ≤ i) (hto : i < n + width) : data[i]? = other[i]? := by
  have hbytes : field data n width = field other n width := by
    rw [← ofNat_toNat_field hdata, heq, ofNat_toNat_field hother]
  have hat (bytes : Bytes) : (field bytes n width)[i - n]? = bytes[i]? := by
    rw [getElem?_field (by omega), Nat.add_sub_cancel' hfrom]
  rw [← hat data, hbytes, hat]

end Field

/-! ## Orders and what spells them -/

/-- What a record keeps of an order: its book is the one with its number, and its kind is the one
that goes with its price. -/
def normal (o : Order) : Order :=
  { o with book := .ofNumber o.book.number, kind := .ofPrice o.price }

/-- What a reader looks at spells an order. -/
structure Spells (o : Order) (data : Bytes) : Prop where
  length : data.length = recordLength
  tag : data[0]? = some recordTag
  id : Bytes.toNat (field data 1 4) = o.id.toNat
  account : Bytes.toNat (field data 6 4) = o.account.toNat
  side : data[10]? = some o.side.byte
  quantity : Bytes.toNat (field data 11 8) = o.quantity.toNat
  book : Bytes.toNat (field data 19 4) = o.book.number.toNat
  price : Bytes.toNat (field data 23 4) = o.price.toNat

/-- The layout of a record: it spells the order, has the account tag in its place, and ends with
zeros. -/
structure LaidOut (o : Order) (data : Bytes) : Prop extends Spells o data where
  accountTag : data[5]? = some accountTag
  zeros : field data 27 16 = List.replicate 16 0

section Spells

variable {o o' : Order} {data other : Bytes}

/-- A record is laid out like one. -/
lemma laidOut_encode (o : Order) : o.LaidOut o.encode where
  length := length_encode o
  tag := rfl
  id := Bytes.toNat_ofNat_uint32 o.id
  account := Bytes.toNat_ofNat_uint32 o.account
  side := rfl
  quantity := Bytes.toNat_ofNat_uint64 o.quantity
  book := Bytes.toNat_ofNat_uint32 o.book.number
  price := Bytes.toNat_ofNat_uint32 o.price
  accountTag := rfl
  zeros := rfl

/-- Nothing but the normal form of an order is in its record. -/
@[simp] lemma encode_normal (o : Order) : o.normal.encode = o.encode := by
  simp [encode, normal]

@[simp] lemma normal_normal (o : Order) : o.normal.normal = o.normal := by
  simp [normal]

lemma Spells.normal (h : o.Spells data) : o.normal.Spells data where
  length := h.length
  tag := h.tag
  id := h.id
  account := h.account
  side := h.side
  quantity := h.quantity
  book := by rw [h.book, Order.normal, OrderBook.number_ofNumber]
  price := h.price

/-- Byte strings that spell the same order agree wherever a reader looks. -/
lemma Spells.getElem?_eq (h : o.Spells data) (h' : o.Spells other) {i : Nat} (hlt : i < 27)
    (hne : i ≠ 5) : data[i]? = other[i]? := by
  have hlength : data.length = 43 := h.length
  have hlength' : other.length = 43 := h'.length
  have hfield {n width : Nat} (hwithin : n + width ≤ 43)
      (heq : Bytes.toNat (field data n width) = Bytes.toNat (field other n width))
      (hfrom : n ≤ i) (hto : i < n + width) : data[i]? = other[i]? :=
    getElem?_eq_of_toNat_field (by omega) (by omega) heq hfrom hto
  rcases (by omega : i = 0 ∨ (1 ≤ i ∧ i < 1 + 4) ∨ (6 ≤ i ∧ i < 6 + 4) ∨ i = 10
      ∨ (11 ≤ i ∧ i < 11 + 8) ∨ (19 ≤ i ∧ i < 19 + 4) ∨ (23 ≤ i ∧ i < 23 + 4)) with
    rfl | hid | haccount | rfl | hquantity | hbook | hprice
  · rw [h.tag, h'.tag]
  · exact hfield (by omega) (h.id.trans h'.id.symm) hid.1 hid.2
  · exact hfield (by omega) (h.account.trans h'.account.symm) haccount.1 haccount.2
  · rw [h.side, h'.side]
  · exact hfield (by omega) (h.quantity.trans h'.quantity.symm) hquantity.1 hquantity.2
  · exact hfield (by omega) (h.book.trans h'.book.symm) hbook.1 hbook.2
  · exact hfield (by omega) (h.price.trans h'.price.symm) hprice.1 hprice.2

/-- What ends a record, byte by byte. -/
lemma zeros_iff (hlength : data.length = recordLength) :
    field data 27 16 = List.replicate 16 0 ↔ ∀ i, 27 ≤ i → i < 43 → data[i]? = some 0 := by
  have hlength : data.length = 43 := hlength
  constructor
  · intro hzeros i hfrom hto
    have hat : (field data 27 16)[i - 27]? = data[i]? := by
      rw [getElem?_field (by omega), Nat.add_sub_cancel' hfrom]
    rw [← hat, hzeros, List.getElem?_replicate_of_lt (by omega)]
  · intro hzeros
    rw [List.eq_replicate_iff]
    refine ⟨length_field (by omega), ?_⟩
    intro b hb
    obtain ⟨i, hi⟩ := List.mem_iff_getElem?.1 hb
    have hlt : i < 16 := by
      obtain ⟨hlt, -⟩ := List.getElem?_eq_some_iff.1 hi
      rwa [length_field (by omega)] at hlt
    rw [getElem?_field hlt, hzeros (27 + i) (by omega) (by omega)] at hi
    exact (Option.some.inj hi).symm

/-- **The layout leaves no byte open.** -/
theorem LaidOut.eq_encode (h : o.LaidOut data) : data = o.encode := by
  have hrecord := laidOut_encode o
  have hlength : data.length = 43 := h.length
  have hlength' : o.encode.length = 43 := hrecord.length
  refine List.ext_getElem? fun i => ?_
  by_cases hend : 43 ≤ i
  · rw [List.getElem?_eq_none (by omega), List.getElem?_eq_none (by omega)]
  · rw [Nat.not_le] at hend
    by_cases htag : i = 5
    · rw [htag, h.accountTag, hrecord.accountTag]
    · by_cases hzero : 27 ≤ i
      · rw [(zeros_iff h.length).1 h.zeros i hzero hend,
          (zeros_iff hrecord.length).1 hrecord.zeros i hzero hend]
      · exact h.toSpells.getElem?_eq hrecord.toSpells (Nat.not_le.1 hzero) htag

/-- One byte string spells one order only, but for its kind and the name of its book. -/
lemma Spells.normal_eq (h : o.Spells data) (h' : o'.Spells data) : o.normal = o'.normal := by
  have hbook : o.book.number = o'.book.number := UInt32.toNat_inj.1 (h.book.symm.trans h'.book)
  have hprice : o.price = o'.price := UInt32.toNat_inj.1 (h.price.symm.trans h'.price)
  have hside : o.side = o'.side := by
    have hbyte := h.side.symm.trans h'.side
    rw [← Option.some_inj, ← Side.ofByte?_byte, Option.some.inj hbyte, Side.ofByte?_byte]
  simp only [Order.normal, mk.injEq, hbook, hprice, hside, true_and, and_true]
  exact ⟨UInt32.toNat_inj.1 (h.account.symm.trans h'.account),
    UInt32.toNat_inj.1 (h.id.symm.trans h'.id),
    UInt64.toNat_inj.1 (h.quantity.symm.trans h'.quantity)⟩

/-- The order that a reader makes of a byte string, once it knows the side. -/
def spelled (side : Side) (data : Bytes) : Order :=
  { account := UInt32.ofNat (Bytes.toNat (field data 6 4))
    book := .ofNumber (UInt32.ofNat (Bytes.toNat (field data 19 4)))
    id := UInt32.ofNat (Bytes.toNat (field data 1 4))
    kind := .ofPrice (UInt32.ofNat (Bytes.toNat (field data 23 4)))
    side
    quantity := UInt64.ofNat (Bytes.toNat (field data 11 8))
    price := UInt32.ofNat (Bytes.toNat (field data 23 4)) }

lemma normal_spelled (side : Side) (data : Bytes) :
    (spelled side data).normal = spelled side data := by
  simp only [Order.normal, spelled, OrderBook.number_ofNumber]

lemma spells_spelled {side : Side} (hlength : data.length = recordLength)
    (htag : data[0]? = some recordTag) (hside : data[10]? = some side.byte) :
    (spelled side data).Spells data := by
  have hlong : data.length = 43 := hlength
  refine ⟨hlength, htag, ?_, ?_, hside, ?_, ?_, ?_⟩
  · exact (toNat_uint32 (by omega)).symm
  · exact (toNat_uint32 (by omega)).symm
  · exact (toNat_uint64 (by omega)).symm
  · rw [spelled, OrderBook.number_ofNumber, toNat_uint32 (by omega)]
  · exact (toNat_uint32 (by omega)).symm

/-- **What comes of a byte string.**  The length, the tag and the side are looked at in this order,
and all else is an order. -/
theorem decode_cases (data : Bytes) :
    (data.length ≠ recordLength ∧ decode data = .error (.wrongLength data.length))
      ∨ (data.length = recordLength
          ∧ ∃ tag, data[0]? = some tag ∧ tag ≠ recordTag ∧ decode data = .error (.wrongTag tag))
      ∨ (data.length = recordLength ∧ data[0]? = some recordTag
          ∧ ∃ b, data[10]? = some b ∧ Side.ofByte? b = none
            ∧ decode data = .error (.unknownSide b))
      ∨ ∃ o : Order, o.Spells data ∧ o.normal = o ∧ decode data = .ok o := by
  by_cases hlength : data.length = recordLength
  · have hlong : data.length = 43 := hlength
    have hat {i : Nat} (hlt : i < 43) : data[i]? = some (data.getD i 0) := by
      rw [List.getD_eq_getElem?_getD, List.getElem?_eq_getElem (hlong ▸ hlt), Option.getD_some]
    by_cases htag : data.getD 0 0 = recordTag
    · have hfirst : data[0]? = some recordTag := htag ▸ hat (by omega)
      cases hside : Side.ofByte? (data.getD 10 0) with
      | none =>
          refine Or.inr (Or.inr (Or.inl ⟨hlength, hfirst, _, hat (by omega), hside, ?_⟩))
          rw [decode, if_neg (not_not.2 hlength)]
          simp only [htag, hside, ne_eq, not_true_eq_false, if_false]
      | some side =>
          have hbyte : data[10]? = some side.byte :=
            (hat (by omega)).trans (congrArg some (Side.eq_byte_of_ofByte? hside))
          refine Or.inr (Or.inr (Or.inr
            ⟨spelled side data, spells_spelled hlength hfirst hbyte, normal_spelled side data, ?_⟩))
          rw [decode, if_neg (not_not.2 hlength)]
          simp only [htag, hside, ne_eq, not_true_eq_false, if_false, spelled]
    · refine Or.inr (Or.inl ⟨hlength, _, hat (by omega), htag, ?_⟩)
      rw [decode, if_neg (not_not.2 hlength)]
      exact if_pos htag
  · exact Or.inl ⟨hlength, if_pos hlength⟩

/-- **What is read as an order** spells it, and the order is normal. -/
theorem decode_eq_ok_iff : decode data = .ok o ↔ o.Spells data ∧ o.normal = o := by
  constructor
  · intro hok
    rcases decode_cases data with ⟨-, herror⟩ | ⟨-, _, -, -, herror⟩ | ⟨-, -, _, -, -, herror⟩
      | ⟨o', hspells, hnormal, hother⟩
    · cases hok.symm.trans herror
    · cases hok.symm.trans herror
    · cases hok.symm.trans herror
    · cases hok.symm.trans hother
      exact ⟨hspells, hnormal⟩
  · rintro ⟨hspells, hnormal⟩
    rcases decode_cases data with ⟨hlength, -⟩ | ⟨-, tag, htag, hne, -⟩ | ⟨-, -, b, hb, hnone, -⟩
      | ⟨o', hspells', hnormal', hok⟩
    · exact absurd hspells.length hlength
    · exact absurd (Option.some.inj (htag.symm.trans hspells.tag)) hne
    · obtain rfl : b = o.side.byte := Option.some.inj (hb.symm.trans hspells.side)
      rw [Side.ofByte?_byte] at hnone
      cases hnone
    · rw [hok, ← hnormal', hspells'.normal_eq hspells, hnormal]

end Spells

/-! ## The cursors -/

section Cursors

/-- The fields of a record, one after the other, are the record. -/
lemma flatten_fields (o : Order) : o.fields.flatten = o.encode := by
  simp [fields, encode]

/-- **A writer with room for a record puts it over the front of the buffer**, and leaves the rest of
the buffer alone. -/
theorem write?_eq (o : Order) {buffer : Bytes} (h : recordLength ≤ buffer.length) :
    o.write? buffer = some (o.encode ++ buffer.drop recordLength) := by
  have hstart : Cursor.past buffer 0 = Cursor.overwriting buffer [] := rfl
  have hroom : ([] : Bytes).length + o.fields.flatten.length ≤ buffer.length := by
    rwa [flatten_fields, length_encode, List.length_nil, Nat.zero_add]
  rw [write?, hstart, Cursor.putAll_overwriting hroom, flatten_fields]
  simp [Cursor.overwriting, Cursor.bytes]

/-- So what was in a buffer of the length of a record does not matter. -/
lemma write?_of_length (o : Order) {buffer : Bytes} (h : buffer.length = recordLength) :
    o.write? buffer = some o.encode := by
  rw [write?_eq o (Nat.le_of_eq h.symm), List.drop_eq_nil_of_le (Nat.le_of_eq h), List.append_nil]

lemma encodeInto_of_length (o : Order) {buffer : Bytes} (h : buffer.length = recordLength) :
    o.encodeInto buffer = o.encode := by
  have hwhole : o.encode.take recordLength = o.encode :=
    List.take_of_length_le (Nat.le_of_eq (length_encode o))
  simp [encodeInto, Bytes.overwrite, h, hwhole]

/-- **A reader finds every field**, and never runs past the end. -/
theorem read?_eq (data : Bytes) : read? data = some (decode data) := by
  by_cases hlength : data.length = recordLength
  · have hlong : data.length = 43 := hlength
    rw [read?, if_neg (not_not.2 hlength), take, StateT.run_bind, Cursor.takeByte_past (by omega)]
    rw [decode, if_neg (not_not.2 hlength)]
    simp only [Option.bind_eq_bind, Option.bind_some]
    by_cases htag : data.getD 0 0 = recordTag
    · simp (disch := omega) only [htag, Cursor.takeByte_past, Cursor.takeNat_past, StateT.run_bind,
        ne_eq, not_true_eq_false, if_false, Option.bind_eq_bind, Option.bind_some, Nat.reduceAdd]
      cases hside : Side.ofByte? (data.getD 10 0) with
      | none => rfl
      | some side =>
          dsimp only
          simp (disch := omega) only [Cursor.takeNat_past, StateT.run_bind, Option.bind_eq_bind,
            Option.bind_some, Nat.reduceAdd]
          rfl
    · simp only [htag, ne_eq, not_false_eq_true, if_true]
      rfl
  · rw [read?, if_pos hlength, decode, if_pos hlength]

end Cursors

/-! ## There and back -/

section RoundTrip

variable {o o' : Order} {data : Bytes}

/-- What was written is read back in its normal form. -/
theorem decode_encode (o : Order) : decode o.encode = .ok o.normal :=
  decode_eq_ok_iff.2 ⟨(laidOut_encode o).toSpells.normal, normal_normal o⟩

/-- A book is the one with its number, unless it is known by the number of another. -/
lemma ofNumber_number_iff {book : OrderBook} :
    OrderBook.ofNumber book.number = book
      ↔ book ≠ .other 777 ∧ book ≠ .other 778 ∧ book ≠ .other 779 := by
  cases book with
  | other n =>
      by_cases hzil : n = 777
      · simp [OrderBook.ofNumber, OrderBook.number, hzil]
      · by_cases heth : n = 778
        · simp [OrderBook.ofNumber, OrderBook.number, heth]
        · by_cases hzilEth : n = 779
          · simp [OrderBook.ofNumber, OrderBook.number, hzilEth]
          · simp [OrderBook.ofNumber, OrderBook.number, hzil, heth, hzilEth]
  | _ => decide

/-- An order is normal if its kind goes with its price, and its book with its number. -/
lemma normal_eq_self_iff : o.normal = o ↔ o.kind = .ofPrice o.price
    ∧ o.book ≠ .other 777 ∧ o.book ≠ .other 778 ∧ o.book ≠ .other 779 := by
  rw [← ofNumber_number_iff]
  cases o with
  | mk account book id kind side quantity price =>
      simp only [normal, mk.injEq, true_and, and_true]
      exact and_comm.trans (and_congr_left' eq_comm)

/-- Two orders have the same record exactly when they have the same normal form. -/
lemma encode_eq_iff : o.encode = o'.encode ↔ o.normal = o'.normal := by
  constructor
  · intro heq
    have hread := decode_encode o
    rw [heq, decode_encode] at hread
    exact (Except.ok.inj hread).symm
  · intro heq
    rw [← encode_normal o, heq, encode_normal]

/-- How a byte string differs from the record of the order that it is read as. -/
lemma getElem?_encode_of_spells (h : o.Spells data) {i : Nat} (hlt : i < 43) :
    o.encode[i]? = if i = 5 then some accountTag else if 27 ≤ i then some 0 else data[i]? := by
  have hrecord := laidOut_encode o
  split_ifs with htag hzero
  · rw [htag, hrecord.accountTag]
  · exact (zeros_iff hrecord.length).1 hrecord.zeros i hzero hlt
  · exact hrecord.toSpells.getElem?_eq h (Nat.not_le.1 hzero) htag

/-- Who writes again what was read gets the same bytes if those were there that are not read. -/
lemma encode_eq_iff_of_spells (h : o.Spells data) :
    o.encode = data ↔ data[5]? = some accountTag ∧ ∀ i, 27 ≤ i → i < 43 → data[i]? = some 0 := by
  rw [← zeros_iff h.length]
  constructor
  · rintro rfl
    exact ⟨(laidOut_encode o).accountTag, (laidOut_encode o).zeros⟩
  · rintro ⟨htag, hzeros⟩
    exact (LaidOut.eq_encode ⟨h, htag, hzeros⟩).symm

/-- **Writing an order and reading it back.**  Written over a buffer of the right length, whatever
was in it, an order gives one byte string only: the one that is laid out as a record of it.  The
same comes of writing it into a fresh buffer, and without a cursor.  What is read back is the order
in its normal form; that is the order itself exactly when its kind goes with its price and its book
is not a named one in disguise.  And two orders have the same record exactly when they have the same
normal form. -/
theorem record_round_trip (o : Order) (buffer : Bytes) (hbuffer : buffer.length = recordLength) :
    (∀ data, o.write? buffer = some data ↔ o.LaidOut data)
      ∧ o.write? buffer = some o.encode ∧ o.record? = some o.encode
      ∧ o.encodeInto buffer = o.encode
      ∧ read? o.encode = some (.ok o.normal) ∧ decode o.encode = .ok o.normal
      ∧ o.normal = { o with book := .ofNumber o.book.number, kind := .ofPrice o.price }
      ∧ (decode o.encode = .ok o ↔ o.kind = .ofPrice o.price
          ∧ o.book ≠ .other 777 ∧ o.book ≠ .other 778 ∧ o.book ≠ .other 779)
      ∧ ∀ o' : Order, o.encode = o'.encode ↔ o.normal = o'.normal := by
  have hwrite : o.write? buffer = some o.encode := write?_of_length o hbuffer
  refine ⟨?_, hwrite, write?_of_length o List.length_replicate, encodeInto_of_length o hbuffer, ?_,
    decode_encode o, rfl, ?_, fun o' => encode_eq_iff⟩
  · intro data
    rw [hwrite, Option.some.injEq]
    constructor
    · rintro rfl
      exact laidOut_encode o
    · intro hlaid
      exact hlaid.eq_encode.symm
  · rw [read?_eq, decode_encode]
  · rw [decode_encode, Except.ok.injEq, normal_eq_self_iff]

/-- A limit order at the price set aside, in a book known by the number of a named one: what comes
back is a market order in the named book. -/
theorem record_round_trip_of_disguised :
    let o : Order := .limit 2 (.other 778) 0x01020304 .buy 100 marketPrice
    let buffer : Bytes := List.replicate 43 0xff
    buffer.length = recordLength
      ∧ o.write? buffer = some
          ([79, 1, 2, 3, 4, 67, 0, 0, 0, 2, 66, 0, 0, 0, 0, 0, 0, 0, 100, 0, 0, 3, 10, 127, 255,
            255, 255] ++ List.replicate 16 0)
      ∧ decode o.encode = .ok (.market 2 .ethDai 0x01020304 .buy 100)
      ∧ decode o.encode ≠ .ok o
      ∧ o.encode = (Order.market 2 .ethDai 0x01020304 .buy 100).encode := by
  intro o buffer
  have hbuffer : buffer.length = recordLength := by decide
  obtain ⟨-, hwrite, -, -, -, hread, -, hself, hsame⟩ := record_round_trip o buffer hbuffer
  refine ⟨hbuffer, hwrite.trans (by decide), hread.trans (by decide), ?_, (hsame _).2 (by decide)⟩
  intro hok
  exact (hself.1 hok).2.2.1 rfl

/-- **Which byte strings are read as orders.**  The reader never runs past the end of what it reads.
It takes exactly the byte strings of the length of a record that have the tag and a side in their
places; all others are malformed messages.  Who writes the order again gets the same bytes but for
the account tag and the last three fields, where the record has its own: so it is the same byte
string exactly when it had them already, and it is read as the same order. -/
theorem accepted_records (data : Bytes) :
    read? data = some (decode data)
      ∧ ((∃ o, decode data = .ok o) ↔ data.length = 43 ∧ data[0]? = some 'O'.toUInt8
          ∧ (data[10]? = some 'B'.toUInt8 ∨ data[10]? = some 'S'.toUInt8))
      ∧ (∀ e, decode data = .error e → ∃ words, e.fault = .malformedMessage words)
      ∧ ∀ o, decode data = .ok o →
          o.record? = some o.encode
          ∧ (∀ i < 43, o.encode[i]?
              = if i = 5 then some 'C'.toUInt8 else if 27 ≤ i then some 0 else data[i]?)
          ∧ (o.encode = data
              ↔ data[5]? = some 'C'.toUInt8 ∧ ∀ i, 27 ≤ i → i < 43 → data[i]? = some 0)
          ∧ decode o.encode = .ok o := by
  refine ⟨read?_eq data, ?_, fun e _ => ⟨e.message, rfl⟩, ?_⟩
  · constructor
    · rintro ⟨o, hok⟩
      obtain ⟨hspells, -⟩ := decode_eq_ok_iff.1 hok
      refine ⟨hspells.length, hspells.tag, ?_⟩
      rw [hspells.side]
      cases o.side with
      | buy => exact Or.inl rfl
      | sell => exact Or.inr rfl
    · rintro ⟨hlength, htag, hside⟩
      have hbyte : ∃ side : Side, data[10]? = some side.byte :=
        hside.elim (fun hbuy => ⟨.buy, hbuy⟩) fun hsell => ⟨.sell, hsell⟩
      obtain ⟨side, hside⟩ := hbyte
      exact ⟨spelled side data,
        decode_eq_ok_iff.2 ⟨spells_spelled hlength htag hside, normal_spelled side data⟩⟩
  · intro o hok
    obtain ⟨hspells, hnormal⟩ := decode_eq_ok_iff.1 hok
    refine ⟨write?_of_length o List.length_replicate,
      fun i hi => getElem?_encode_of_spells hspells hi, encode_eq_iff_of_spells hspells, ?_⟩
    rw [decode_encode, hnormal]

/-- A byte string with another account tag and with ones where a record has zeros is read, and what
is written again has a place of its own for each of them. -/
theorem accepted_records_of_stray_bytes :
    let data : Bytes :=
      [79, 0, 0, 0, 1, 88, 0, 0, 0, 2, 83, 0, 0, 0, 0, 0, 0, 0, 5, 0, 0, 3, 9, 0, 0, 0, 7]
        ++ List.replicate 16 1
    let o : Order := .limit 2 .zilDai 1 .sell 5 7
    read? data = some (.ok o) ∧ o.encode ≠ data ∧ o.encode[5]? = some 67 ∧ o.encode[30]? = some 0
      ∧ o.encode[22]? = some 9 ∧ decode o.encode = .ok o := by
  intro data o
  have hok : decode data = .ok o := by decide
  obtain ⟨hread, -, -, hwritten⟩ := accepted_records data
  obtain ⟨-, hbytes, hsame, hback⟩ := hwritten o hok
  refine ⟨hread.trans (congrArg some hok), ?_, hbytes 5 (by decide), hbytes 30 (by decide),
    hbytes 22 (by decide), hback⟩
  intro heq
  exact absurd (hsame.1 heq).1 (by decide)

end RoundTrip

end Order

end MarketGate
