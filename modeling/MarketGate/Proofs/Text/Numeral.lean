import Mathlib.Tactic.Lemma
import Mathlib.Tactic.SplitIfs
import MarketGate.Text.Blank
import MarketGate.Text.Numeral

/-!
# Numerals in settings

What is read from a setting as a number, said without reference to how it is read: when the blanks
around it are gone, there is a plus sign or none, and then decimal digits.  There are many ways to
write a number so that it can be read back (`Text.Dress`).

* **`Text.readNat?_eq_some_iff`**: numerals below the bound are read, and nothing else.
* `Text.trim_blanks`: what trimming takes away.
* **`Text.Dress.readNat?_write`**: a number can be read back however it was dressed.
-/

namespace MarketGate.Text

/-- Whether a text is a numeral for a number: an optional plus sign, and then decimal digits, at
least one. -/
def IsNumeral (n : Nat) (cs : List Char) : Prop :=
  ∃ plus digits, cs = plus ++ digits ∧ (plus = [] ∨ plus = ['+']) ∧ digits ≠ []
    ∧ (∀ c ∈ digits, c.isDigit = true) ∧ Nat.ofDigitChars 10 digits 0 = n

section Reading

variable {bound m n : Nat} {c : Char} {cs : List Char}

lemma isDigit_iff (c : Char) : c.isDigit = true ↔ 48 ≤ c.toNat ∧ c.toNat ≤ 57 := by
  simp only [Char.isDigit, Bool.and_eq_true, decide_eq_true_eq, ge_iff_le, UInt32.le_iff_toNat_le]
  rfl

lemma ne_plus_of_isDigit (h : c.isDigit = true) : c.toNat ≠ 43 := by
  have hrange := (isDigit_iff c).1 h
  omega

lemma digitValue?_of_isDigit (h : c.isDigit = true) : digitValue? c = some (c.toNat - 48) :=
  if_pos ((isDigit_iff c).1 h)

lemma digitValue?_of_not_isDigit (h : ¬c.isDigit = true) : digitValue? c = none :=
  if_neg (mt (isDigit_iff c).2 h)

/-- Digits behind a number are read to the last one. -/
lemma readDigits?_eq_some_iff :
    readDigits? m cs = some n ↔ (∀ c ∈ cs, c.isDigit = true) ∧ Nat.ofDigitChars 10 cs m = n := by
  induction cs generalizing m with
  | nil => simp [readDigits?]
  | cons c rest ih =>
      rw [readDigits?, List.forall_mem_cons, Nat.ofDigitChars_cons]
      by_cases hdigit : c.isDigit = true
      · have hvalue : m * 10 + (c.toNat - 48) = 10 * m + (c.toNat - '0'.toNat) := by
          rw [Nat.mul_comm]
          rfl
        simp only [digitValue?_of_isDigit hdigit, ih, hvalue, hdigit, true_and]
      · simp only [digitValue?_of_not_isDigit hdigit, hdigit, reduceCtorEq, Bool.false_eq_true,
          false_and]

/-- Without its plus sign a numeral is what its digits are. -/
lemma isNumeral_iff_dropPlus :
    IsNumeral n cs ↔ dropPlus cs ≠ [] ∧ (∀ c ∈ dropPlus cs, c.isDigit = true)
      ∧ Nat.ofDigitChars 10 (dropPlus cs) 0 = n := by
  constructor
  · rintro ⟨plus, digits, rfl, rfl | rfl, hsome, hdigits, hvalue⟩
    · have hsame : dropPlus ([] ++ digits) = digits := by
        cases digits with
        | nil => rfl
        | cons c rest =>
            exact if_neg (ne_plus_of_isDigit (hdigits c List.mem_cons_self))
      rw [hsame]
      exact ⟨hsome, hdigits, hvalue⟩
    · exact ⟨hsome, hdigits, hvalue⟩
  · rintro ⟨hsome, hdigits, hvalue⟩
    cases cs with
    | nil => exact absurd rfl hsome
    | cons c rest =>
        rw [dropPlus] at hsome hdigits hvalue
        split_ifs at hsome hdigits hvalue with hplus
        · have hchar : c = '+' := Char.toNat_inj.1 hplus
          exact ⟨['+'], rest, by rw [hchar]; rfl, Or.inr rfl, hsome, hdigits, hvalue⟩
        · exact ⟨[], c :: rest, rfl, Or.inl rfl, hsome, hdigits, hvalue⟩

/-- **What is read as a number below a bound** are the numerals for such numbers. -/
theorem readNat?_eq_some_iff : readNat? bound cs = some n ↔ IsNumeral n cs ∧ n < bound := by
  rw [isNumeral_iff_dropPlus, readNat?]
  split
  · next hnone => simp [hnone]
  · next hsome =>
      rw [← readDigits?_eq_some_iff]
      split
      · next m hread =>
          rw [hread, Option.some.injEq]
          split_ifs with hlt
          · rw [Option.some.injEq]
            exact ⟨fun h => ⟨⟨hsome, h⟩, h ▸ hlt⟩, fun h => h.1.2⟩
          · exact ⟨False.elim, fun h => absurd (h.1.2 ▸ h.2) hlt⟩
      · next hread =>
          rw [hread]
          exact ⟨fun h => absurd h.symm (Option.some_ne_none n),
            fun h => absurd h.1.2.symm (Option.some_ne_none n)⟩

end Reading

/-! ## Trimming -/

section Trimming

variable {before cs after : List Char}

/-- **Trimming takes away the blanks around a text**, and no more. -/
theorem trim_blanks (hbefore : ∀ c ∈ before, isBlank c = true)
    (hafter : ∀ c ∈ after, isBlank c = true) (hsome : cs ≠ [])
    (hcore : ∀ c ∈ cs, isBlank c = false) : trim (before ++ cs ++ after) = cs := by
  have hstart : trimStart (before ++ cs ++ after) = cs ++ after := by
    obtain ⟨c, rest, rfl⟩ := List.exists_cons_of_ne_nil hsome
    rw [trimStart, List.append_assoc, List.dropWhile_append_of_pos hbefore]
    exact trimStart_cons_of_not (hcore c List.mem_cons_self)
  have hend : trimEnd (cs ++ after) = trimEnd cs := by
    have hafter' : ∀ c ∈ after.reverse, isBlank c = true := fun c hc =>
      hafter c (List.mem_reverse.1 hc)
    rw [trimEnd, List.reverse_append, List.dropWhile_append_of_pos hafter', trimEnd]
  have hself : trimStart cs = cs := by
    obtain ⟨c, rest, rfl⟩ := List.exists_cons_of_ne_nil hsome
    exact trimStart_cons_of_not (hcore c List.mem_cons_self)
  have hcs : trim cs = cs := trim_eq_self (fun c hc => hcore c (List.mem_of_mem_head? hc))
    fun c hc => hcore c (List.mem_of_mem_getLast? hc)
  rw [trim, hself] at hcs
  rw [trim, hstart, hend, hcs]

lemma isBlank_of_isDigit {c : Char} (h : c.isDigit = true) : isBlank c = false := by
  have hrange := (isDigit_iff c).1 h
  simp only [isBlank, Bool.or_eq_false_iff, Bool.and_eq_false_iff, decide_eq_false_iff_not,
    beq_eq_false_iff_ne]
  omega

end Trimming

/-! ## Ways to write a number -/

/-- How a number may be dressed: with blanks around it, and with a plus sign and zeros in front. -/
structure Dress where
  before : List Char := []
  plus : Bool := false
  zeros : Nat := 0
  after : List Char := []
  blank_before : before.all isBlank = true := by decide
  blank_after : after.all isBlank = true := by decide

namespace Dress

variable (d : Dress) {n bound : Nat}

/-- A number without the blanks around it. -/
def numeral (n : Nat) : List Char :=
  (if d.plus then ['+'] else []) ++ (List.replicate d.zeros '0' ++ Nat.toDigits 10 n)

/-- A number as it is written. -/
def write (n : Nat) : String := String.ofList (d.before ++ d.numeral n ++ d.after)

lemma isDigit_of_mem_digits {c : Char} (h : c ∈ List.replicate d.zeros '0' ++ Nat.toDigits 10 n) :
    c.isDigit = true := by
  rcases List.mem_append.1 h with hzero | hdigit
  · rw [List.eq_of_mem_replicate hzero]
    rfl
  · exact Nat.isDigit_of_mem_toDigits (by decide) (by decide) hdigit

lemma isNumeral_numeral (n : Nat) : IsNumeral n (d.numeral n) := by
  refine ⟨if d.plus then ['+'] else [], _, rfl, ?_, ?_, fun c hc => d.isDigit_of_mem_digits hc, ?_⟩
  · cases d.plus
    · exact Or.inl rfl
    · exact Or.inr rfl
  · exact List.append_ne_nil_of_right_ne_nil _ Nat.toDigits_ne_nil
  · rw [Nat.ofDigitChars_append, Nat.ofDigitChars_replicate_zero, Nat.mul_zero,
      Nat.ofDigitChars_ten_toDigits]

lemma trim_write (n : Nat) : trim (d.write n).toList = d.numeral n := by
  rw [write, String.toList_ofList]
  refine trim_blanks (List.all_eq_true.1 d.blank_before) (List.all_eq_true.1 d.blank_after) ?_ ?_
  · exact List.append_ne_nil_of_right_ne_nil _
      (List.append_ne_nil_of_right_ne_nil _ Nat.toDigits_ne_nil)
  · intro c hc
    rcases List.mem_append.1 hc with hplus | hdigit
    · split_ifs at hplus
      · rw [List.mem_singleton.1 hplus]
        rfl
      · cases hplus
    · exact isBlank_of_isDigit (d.isDigit_of_mem_digits hdigit)

/-- **A number can be read back however it was dressed.** -/
theorem readNat?_write (hn : n < bound) : readNat? bound (trim (d.write n).toList) = some n := by
  rw [trim_write]
  exact readNat?_eq_some_iff.2 ⟨d.isNumeral_numeral n, hn⟩

end Dress

end MarketGate.Text
