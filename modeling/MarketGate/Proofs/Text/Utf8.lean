import Mathlib.Tactic.Lemma
import Mathlib.Tactic.SplitIfs
import MarketGate.Text.Utf8

/-!
# Reading back what was written as UTF-8

A character is written as one to four bytes, and the machine of UTF-8 takes them one at a time.  The
first byte brings the upper bits of the character and says how many bytes follow; each of these
brings six more bits.  What the machine is particular about after some first bytes, namely that a
character is not spelled longer than it has to be, and that it is none of those that do not exist,
holds of every character that is written.

* `Utf8.gather_first` and `Utf8.gather_next` take one byte.
* **`Utf8.gather_encodeChar`**: the bytes of a character are read as this character.
* **`Utf8.decode?_ofString`**: so every text can be read back.
-/

namespace MarketGate.Utf8

/-- The bits of a character that its first byte brings. -/
def leadBits (n : Nat) : Nat :=
  if n < 0x80 then n else if n < 0xe0 then n % 32 else if n < 0xf0 then n % 16 else n % 8

section Gather

variable {state state' : State} {code bits n : Nat} {read : List Char} {rest : Bytes}

lemma toNat_byte (hn : n < 256) : (UInt8.ofNat n).toNat = n := UInt8.toNat_ofNat_of_lt' hn

/-- The first byte of a character, if others follow. -/
lemma gather_first (hn : n < 256) (hfirst : first n = some state) (hstate : state ≠ .between)
    (hbits : leadBits n = bits) :
    gather .between code read (UInt8.ofNat n :: rest) = gather state bits read rest := by
  have hbyte := toNat_byte hn
  have hstep : step .between (UInt8.ofNat n) = some state := by rw [step, hbyte, hfirst]
  rw [gather, hstep, ← hbits]
  simp only [hbyte, if_true, if_neg hstate, leadBits]

/-- A byte that follows brings six bits, and the last one completes the character. -/
lemma gather_next (hbits : bits < 64) (hstate : state ≠ .between)
    (hstep : step state (UInt8.ofNat (0x80 + bits)) = some state') :
    gather state code read (UInt8.ofNat (0x80 + bits) :: rest)
      = if state' = .between then gather .between 0 (Char.ofNat (code * 64 + bits) :: read) rest
        else gather state' (code * 64 + bits) read rest := by
  have hbyte := toNat_byte (show 0x80 + bits < 256 by omega)
  have hlow : (0x80 + bits) % 64 = bits := by omega
  rw [gather, hstep]
  simp only [hbyte, if_neg hstate, hlow]

/-- The last byte of a character. -/
lemma gather_last (hbits : bits < 64) :
    gather .one code read (UInt8.ofNat (0x80 + bits) :: rest)
      = gather .between 0 (Char.ofNat (code * 64 + bits) :: read) rest := by
  have hstep : step .one (UInt8.ofNat (0x80 + bits)) = some .between := by
    rw [step, toNat_byte (by omega), within, if_pos (by omega)]
  rw [gather_next hbits State.noConfusion hstep, if_pos rfl]

/-- The last byte but one. -/
lemma gather_last_but_one (hbits : bits < 64) :
    gather .two code read (UInt8.ofNat (0x80 + bits) :: rest)
      = gather .one (code * 64 + bits) read rest := by
  have hstep : step .two (UInt8.ofNat (0x80 + bits)) = some .one := by
    rw [step, toNat_byte (by omega), within, if_pos (by omega)]
  rw [gather_next hbits State.noConfusion hstep, if_neg State.noConfusion]

variable {high upper lower low : Nat}

/-- A byte below 128 is a character of its own. -/
lemma gather_one_byte (hlow : low < 0x80) :
    gather .between code read (UInt8.ofNat low :: rest)
      = gather .between 0 (Char.ofNat low :: read) rest := by
  have hbyte := toNat_byte (show low < 256 by omega)
  have hstep : step .between (UInt8.ofNat low) = some .between := by
    rw [step, hbyte, first, if_pos (by omega)]
  rw [gather, hstep]
  simp only [hbyte, if_true, if_pos hlow]

/-- A character of two bytes. -/
lemma gather_two_bytes (hhigh : 2 ≤ high) (hhigh' : high < 32) (hlow : low < 64) :
    gather .between code read (UInt8.ofNat (0xc0 + high) :: UInt8.ofNat (0x80 + low) :: rest)
      = gather .between 0 (Char.ofNat (high * 64 + low) :: read) rest := by
  have hfirst : first (0xc0 + high) = some .one := by
    rw [first, if_neg (by omega), if_pos (by omega)]
  have hbits : leadBits (0xc0 + high) = high := by
    rw [leadBits, if_neg (by omega), if_pos (by omega)]
    omega
  rw [gather_first (by omega) hfirst State.noConfusion hbits, gather_last hlow]

/-- A character of three bytes, not too small and no surrogate. -/
lemma gather_three_bytes (hhigh : high < 16) (hlower : lower < 64) (hlow : low < 64)
    (hleast : high = 0 → 32 ≤ lower) (hsurrogate : high = 13 → lower < 32) :
    gather .between code read (UInt8.ofNat (0xe0 + high) :: UInt8.ofNat (0x80 + lower)
        :: UInt8.ofNat (0x80 + low) :: rest)
      = gather .between 0 (Char.ofNat ((high * 64 + lower) * 64 + low) :: read) rest := by
  obtain ⟨state, hfirst, hstate, hstep⟩ : ∃ state, first (0xe0 + high) = some state
      ∧ state ≠ .between ∧ step state (UInt8.ofNat (0x80 + lower)) = some .one := by
    have hbyte := toNat_byte (show 0x80 + lower < 256 by omega)
    by_cases hzero : high = 0
    · refine ⟨.afterE0, by rw [hzero]; rfl, State.noConfusion, ?_⟩
      have hleast := hleast hzero
      rw [step, hbyte, within, if_pos (by omega)]
    · by_cases hthirteen : high = 13
      · refine ⟨.afterED, by rw [hthirteen]; rfl, State.noConfusion, ?_⟩
        have hsurrogate := hsurrogate hthirteen
        rw [step, hbyte, within, if_pos (by omega)]
      · refine ⟨.two, ?_, State.noConfusion, ?_⟩
        · rw [first, if_neg (by omega), if_neg (by omega), if_neg (by omega), if_neg (by omega),
            if_pos (by omega)]
        · rw [step, hbyte, within, if_pos (by omega)]
  have hbits : leadBits (0xe0 + high) = high := by
    rw [leadBits, if_neg (by omega), if_neg (by omega), if_pos (by omega)]
    omega
  rw [gather_first (by omega) hfirst hstate hbits, gather_next hlower hstate hstep,
    if_neg State.noConfusion, gather_last hlow]

/-- A character of four bytes, not too small and not too large. -/
lemma gather_four_bytes (hhigh : high < 5) (hupper : upper < 64) (hlower : lower < 64)
    (hlow : low < 64) (hleast : high = 0 → 16 ≤ upper) (hmost : high = 4 → upper < 16) :
    gather .between code read (UInt8.ofNat (0xf0 + high) :: UInt8.ofNat (0x80 + upper)
        :: UInt8.ofNat (0x80 + lower) :: UInt8.ofNat (0x80 + low) :: rest)
      = gather .between 0 (Char.ofNat (((high * 64 + upper) * 64 + lower) * 64 + low) :: read)
        rest := by
  obtain ⟨state, hfirst, hstate, hstep⟩ : ∃ state, first (0xf0 + high) = some state
      ∧ state ≠ .between ∧ step state (UInt8.ofNat (0x80 + upper)) = some .two := by
    have hbyte := toNat_byte (show 0x80 + upper < 256 by omega)
    by_cases hzero : high = 0
    · refine ⟨.afterF0, by rw [hzero]; rfl, State.noConfusion, ?_⟩
      have hleast := hleast hzero
      rw [step, hbyte, within, if_pos (by omega)]
    · by_cases hfour : high = 4
      · refine ⟨.afterF4, by rw [hfour]; rfl, State.noConfusion, ?_⟩
        have hmost := hmost hfour
        rw [step, hbyte, within, if_pos (by omega)]
      · refine ⟨.three, ?_, State.noConfusion, ?_⟩
        · rw [first, if_neg (by omega), if_neg (by omega), if_neg (by omega), if_neg (by omega),
            if_neg (by omega), if_neg (by omega), if_pos (by omega)]
        · rw [step, hbyte, within, if_pos (by omega)]
  have hbits : leadBits (0xf0 + high) = high := by
    rw [leadBits, if_neg (by omega), if_neg (by omega), if_neg (by omega)]
    omega
  rw [gather_first (by omega) hfirst hstate hbits, gather_next hupper hstate hstep,
    if_neg State.noConfusion, gather_last_but_one hlower, gather_last hlow]

end Gather

/-- **The bytes of a character are read as this character.** -/
theorem gather_encodeChar (c : Char) (read : List Char) (rest : Bytes) :
    gather .between 0 read (encodeChar c ++ rest) = gather .between 0 (c :: read) rest := by
  have hvalid : c.toNat < 0xd800 ∨ 0xdfff < c.toNat ∧ c.toNat < 0x110000 := c.valid
  simp only [encodeChar]
  split_ifs with hone htwo hthree
  · rw [List.singleton_append, gather_one_byte hone, Char.ofNat_toNat]
  · have hcode : c.toNat / 64 * 64 + c.toNat / 1 % 64 = c.toNat := by omega
    simp only [List.cons_append, List.nil_append]
    rw [gather_two_bytes (by omega) (by omega) (by omega), hcode, Char.ofNat_toNat]
  · have hcode : (c.toNat / 4096 * 64 + c.toNat / 64 % 64) * 64 + c.toNat / 1 % 64 = c.toNat := by
      omega
    simp only [List.cons_append, List.nil_append]
    rw [gather_three_bytes (by omega) (by omega) (by omega) (by omega) (by omega), hcode,
      Char.ofNat_toNat]
  · have hcode : ((c.toNat / 262144 * 64 + c.toNat / 4096 % 64) * 64 + c.toNat / 64 % 64) * 64
        + c.toNat / 1 % 64 = c.toNat := by
      omega
    simp only [List.cons_append, List.nil_append]
    rw [gather_four_bytes (by omega) (by omega) (by omega) (by omega) (by omega) (by omega), hcode,
      Char.ofNat_toNat]

/-- What was read before a text is still there behind it. -/
lemma gather_encode (cs read : List Char) :
    gather .between 0 read (encode cs) = some (read.reverse ++ cs) := by
  induction cs generalizing read with
  | nil => rw [encode, List.flatMap_nil, gather, if_pos rfl, List.append_nil]
  | cons c rest ih =>
      have hih := ih (c :: read)
      rw [encode] at hih ⊢
      rw [List.flatMap_cons, gather_encodeChar, hih, List.reverse_cons, List.append_assoc]
      rfl

/-- **Every text can be read back.** -/
theorem decode?_ofString (text : String) :
    (decode? (ofString text)).map String.ofList = some text := by
  rw [decode?, ofString, gather_encode, Option.map_some]
  exact congrArg some String.ofList_toList

end MarketGate.Utf8
