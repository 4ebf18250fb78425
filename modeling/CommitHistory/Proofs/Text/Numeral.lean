/-
# Numerals that are read as they were written

A count that is written in decimal digits is read as the same count, and a whole number of 64
bits as the same number. A numeral is a run of ASCII digits, so it is never blank and every
reader of digits takes it to its end.

## Main results

* `Text.isBlank_of_isDecimalDigit` — digits of every script are apart from blanks.
* `Numeral.natUpTo?_ofNat`, `Numeral.int64?_ofInt` — reading undoes writing.
* `Numeral.isDecimalDigit_of_mem_ofNat`, `Numeral.isBlank_of_mem_ofInt` — what numerals are
  made of.
-/

import CommitHistory.Text.Blank
import CommitHistory.Text.Digit
import CommitHistory.Text.Numeral

namespace CommitHistory.Text

theorem toNat_of_isDigit {c : Char} (digit : c.isDigit = true) :
    0x30 ≤ c.toNat ∧ c.toNat ≤ 0x39 := by
  simpa [Char.isDigit, UInt32.le_iff_toNat_le] using digit

/-- The ASCII digits are decimal digits. -/
theorem isDecimalDigit_of_isDigit {c : Char} (digit : c.isDigit = true) :
    isDecimalDigit c = true := by
  simp [isDecimalDigit, Ranges.holds, decimalDigitRanges, toNat_of_isDigit digit]

/-- The numbers of the blank characters. -/
def blankNumbers : List Nat :=
  List.range' 0x09 5 ++ [0x20, 0x85, 0xa0, 0x1680] ++ List.range' 0x2000 11 ++
    [0x2028, 0x2029, 0x202f, 0x205f, 0x3000]

theorem toNat_of_isBlank {c : Char} (blank : isBlank c = true) : c.toNat ∈ blankNumbers := by
  have same : c.toNat = c.val.toNat := rfl
  have tab : '\t'.val.toNat = 0x09 := rfl
  have last : '\r'.val.toNat = 0x0d := rfl
  have first : '\u2000'.val.toNat = 0x2000 := rfl
  have final : '\u200a'.val.toNat = 0x200a := rfl
  simp only [isBlank, Bool.or_eq_true, Bool.and_eq_true, decide_eq_true_eq, beq_iff_eq,
    Char.le_def, UInt32.le_iff_toNat_le, or_assoc] at blank
  simp only [blankNumbers, List.mem_append, List.mem_range'_1]
  rcases blank with ⟨_, _⟩ | rfl | rfl | rfl | rfl | ⟨_, _⟩ | rfl | rfl | rfl | rfl | rfl
  -- Two ranges are bounded by the facts above, and the characters named one by one are listed.
  · omega
  · decide
  · decide
  · decide
  · decide
  · omega
  all_goals decide

/-- No decimal digit of any script is blank. -/
theorem isBlank_of_isDecimalDigit {c : Char} (digit : isDecimalDigit c = true) :
    isBlank c = false := by
  have outside : ∀ range ∈ decimalDigitRanges, ∀ n ∈ blankNumbers, n < range.1 ∨ range.2 < n := by
    decide
  rw [Bool.eq_false_iff]
  intro blank
  obtain ⟨range, listed, within⟩ := List.any_eq_true.mp digit
  rw [Bool.and_eq_true, decide_eq_true_eq, decide_eq_true_eq] at within
  have apart := outside range listed _ (toNat_of_isBlank blank)
  omega

theorem isBlank_of_isDigit {c : Char} (digit : c.isDigit = true) : isBlank c = false :=
  isBlank_of_isDecimalDigit (isDecimalDigit_of_isDigit digit)

namespace Numeral

variable {n limit : Nat}

theorem ofNat_ne_nil (n : Nat) : ofNat n ≠ [] := Nat.toDigits_ne_nil

theorem isDigit_of_mem_ofNat {c : Char} (member : c ∈ ofNat n) : c.isDigit = true :=
  Nat.isDigit_of_mem_toDigits (by decide) (by decide) member

theorem isDecimalDigit_of_mem_ofNat {c : Char} (member : c ∈ ofNat n) :
    isDecimalDigit c = true :=
  isDecimalDigit_of_isDigit (isDigit_of_mem_ofNat member)

/-- A whole number is written in digits, with a minus sign or without. -/
theorem mem_ofInt {value : Int} {c : Char} (member : c ∈ ofInt value) :
    c = '-' ∨ c.isDigit = true := by
  cases value with
  | ofNat n => exact Or.inr (isDigit_of_mem_ofNat member)
  | negSucc n => exact (List.mem_cons.mp member).imp_right isDigit_of_mem_ofNat

theorem isBlank_of_mem_ofInt {value : Int} {c : Char} (member : c ∈ ofInt value) :
    isBlank c = false := by
  rcases mem_ofInt member with rfl | digit
  · decide
  · exact isBlank_of_isDigit digit

theorem digitsValue_ofNat (n : Nat) : digitsValue (ofNat n) = n :=
  Nat.ofDigitChars_toDigits (by decide) (by decide)

/-- A count within the limit is read as it was written. -/
theorem natUpTo?_ofNat (bounded : n ≤ limit) : natUpTo? limit (ofNat n) = some n := by
  have digits : digits? (ofNat n) = some n := by
    rw [digits?, if_pos ⟨ofNat_ne_nil n, List.all_eq_true.mpr fun _ => isDigit_of_mem_ofNat⟩,
      digitsValue_ofNat]
  simp [natUpTo?, digits, bounded]

/-- A whole number of 64 bits is read as it was written. -/
theorem int64?_ofInt {value : Int} (low : -(maxInt + 1 : Nat) ≤ value) (high : value ≤ maxInt) :
    int64? (ofInt value) = some value := by
  cases value with
  | ofNat n =>
    -- No sign is written, and none is read.
    have bounded : n ≤ maxInt := Int.ofNat_le.mp high
    have first : ∀ c ∈ ofNat n, c ≠ '+' ∧ c ≠ '-' := by
      intro c member
      have digit := isDigit_of_mem_ofNat member
      constructor <;> rintro rfl <;> exact absurd digit (by decide)
    have read := natUpTo?_ofNat bounded
    rw [ofInt, int64?]
    · rw [read]; rfl
    · intro rest same
      exact (first '+' (same ▸ List.mem_cons_self)).1 rfl
    · intro rest same
      exact (first '-' (same ▸ List.mem_cons_self)).2 rfl
  | negSucc n =>
    have bounded : n + 1 ≤ maxInt + 1 := by omega
    rw [ofInt, int64?, natUpTo?_ofNat bounded]
    rfl

end Numeral

end CommitHistory.Text
