/-!
# Byte strings and big-endian integers

Everything that crosses a socket here is a list of bytes, and every integer on the wire is
unsigned, of a fixed width and most significant byte first.

* `Bytes.ofNat` writes a number in a given width, `Bytes.toNat` reads a byte string back.
* **`Bytes.toNat_ofNat`**: reading what was written gives the number reduced modulo the width, so
  the two are inverse on numbers that fit.
* **`Bytes.ofNat_toNat`**: writing what was read, in the width it had, gives the same bytes.
* `Bytes.overwrite` puts a byte string over part of a buffer.
-/

namespace MarketGate

/-- A finite string of bytes, first byte first. -/
abbrev Bytes := List UInt8

namespace Bytes

/-- The first number that does not fit `width` bytes. -/
def bound : (width : Nat) → Nat
  | 0 => 1
  | width + 1 => bound width * 256

/-- `n` in `width` bytes, most significant first; what does not fit is cut off at the top. -/
def ofNat : (width : Nat) → (n : Nat) → Bytes
  | 0, _ => []
  | width + 1, n => UInt8.ofNat (n / bound width) :: ofNat width n

/-- The number that a byte string spells, most significant byte first. -/
def toNat (bytes : Bytes) : Nat :=
  bytes.foldl (fun n b => n * 256 + b.toNat) 0

theorem bound_pos (width : Nat) : 0 < bound width := by
  induction width with
  | zero => decide
  | succ width ih => exact Nat.mul_pos ih (by decide)

@[simp] theorem length_ofNat (width n : Nat) : (ofNat width n).length = width := by
  induction width with
  | zero => rfl
  | succ width ih => simp [ofNat, ih]

/-- Reading with something already read in front. -/
theorem foldl_eq (bytes : Bytes) (n : Nat) :
    bytes.foldl (fun n b => n * 256 + b.toNat) n = n * bound bytes.length + toNat bytes := by
  induction bytes generalizing n with
  | nil => simp [toNat, bound]
  | cons b rest ih =>
    simp only [List.foldl_cons, List.length_cons, toNat]
    rw [ih, ih (0 * 256 + b.toNat), bound]
    simp only [Nat.zero_mul, Nat.zero_add, Nat.add_mul, Nat.mul_assoc, Nat.mul_comm 256,
      Nat.add_assoc]

@[simp] theorem toNat_nil : toNat [] = 0 := rfl

theorem toNat_cons (b : UInt8) (rest : Bytes) :
    toNat (b :: rest) = b.toNat * bound rest.length + toNat rest := by
  have h := foldl_eq rest (0 * 256 + b.toNat)
  simpa [toNat] using h

theorem toNat_lt (bytes : Bytes) : toNat bytes < bound bytes.length := by
  induction bytes with
  | nil => simp [bound]
  | cons b rest ih =>
    rw [toNat_cons, List.length_cons, bound]
    have hb : b.toNat + 1 ≤ 256 := b.toNat_lt
    have := Nat.mul_le_mul_right (bound rest.length) hb
    rw [Nat.add_mul, Nat.one_mul] at this
    rw [Nat.mul_comm (bound rest.length) 256]
    omega

/-- Reading back what was written gives the number as far as it fits the width. -/
theorem toNat_ofNat (width n : Nat) : toNat (ofNat width n) = n % bound width := by
  induction width with
  | zero => simp [ofNat, bound, Nat.mod_one]
  | succ width ih =>
    rw [ofNat, toNat_cons, length_ofNat, ih, UInt8.toNat_ofNat', bound]
    have h := Nat.mod_mul (x := n) (a := bound width) (b := 256)
    have hbyte : (2 : Nat) ^ 8 = 256 := rfl
    rw [h, hbyte, Nat.mul_comm (bound width) (n / bound width % 256)]
    omega

/-- A number that fits its width survives the round trip. -/
theorem toNat_ofNat_of_lt {width n : Nat} (h : n < bound width) :
    toNat (ofNat width n) = n := by
  rw [toNat_ofNat, Nat.mod_eq_of_lt h]

/-- Writing what was read, in the width it had, gives the same bytes. -/
theorem ofNat_toNat (bytes : Bytes) : ofNat bytes.length (toNat bytes) = bytes := by
  have key : ∀ (rest : Bytes) (m : Nat),
      ofNat rest.length (m * bound rest.length + toNat rest) = rest := by
    intro rest
    induction rest with
    | nil => intro m; rfl
    | cons b rest ih =>
      intro m
      have hpos := bound_pos rest.length
      have hlt := toNat_lt rest
      have hregroup : m * bound (rest.length + 1) + toNat (b :: rest)
          = (m * 256 + b.toNat) * bound rest.length + toNat rest := by
        rw [toNat_cons, bound, Nat.add_mul, Nat.mul_assoc m 256,
          Nat.mul_comm 256 (bound rest.length)]
        omega
      rw [List.length_cons, hregroup, ofNat, ih]
      have hdiv : ((m * 256 + b.toNat) * bound rest.length + toNat rest) / bound rest.length
          = m * 256 + b.toNat := by
        rw [Nat.mul_comm, Nat.mul_add_div hpos, Nat.div_eq_of_lt hlt, Nat.add_zero]
      rw [hdiv]
      have hb : UInt8.ofNat (m * 256 + b.toNat) = b := by
        apply UInt8.toNat_inj.1
        rw [UInt8.toNat_ofNat']
        have := b.toNat_lt
        have h8 : (2 : Nat) ^ 8 = 256 := rfl
        omega
      rw [hb]
  simpa using key bytes 0

/-- `buffer` with `patch` written over it from position `at` on; the patch is cut off where the
buffer ends. -/
def overwrite (buffer : Bytes) (position : Nat) (patch : Bytes) : Bytes :=
  buffer.take position
    ++ (patch.take (buffer.length - position) ++ buffer.drop (position + patch.length))

@[simp] theorem length_overwrite (buffer : Bytes) (position : Nat) (patch : Bytes) :
    (overwrite buffer position patch).length = buffer.length := by
  simp only [overwrite, List.length_append, List.length_take, List.length_drop]
  omega

end Bytes

end MarketGate
