/-
# Decimal numerals

Whole numbers are written in ASCII digits without leading zeros. A numeral that is
read may start with a plus sign and with zeros, and it is refused when its value
exceeds the largest number that the reader can hold.
-/

namespace CommitHistory.Text.Numeral

/-- The largest count that a reader holds: 64 bits. -/
def maxCount : Nat := 18446744073709551615

/-- The largest whole number that a reader of 64 bits and a sign holds. The smallest lies one
further from zero. -/
def maxInt : Nat := 9223372036854775807

/-- A number in decimal digits. -/
def ofNat (n : Nat) : List Char := Nat.toDigits 10 n

/-- A whole number in decimal digits, with a minus sign when it is negative. -/
def ofInt : Int → List Char
  | .ofNat n => ofNat n
  | .negSucc n => '-' :: ofNat (n + 1)

/-- The number that a run of decimal digits stands for. -/
def digitsValue (s : List Char) : Nat := s.foldl (fun n c => 10 * n + (c.toNat - '0'.toNat)) 0

/-- The value of a non-empty run of ASCII digits. -/
def digits? (s : List Char) : Option Nat :=
  if s ≠ [] ∧ s.all Char.isDigit then some (digitsValue s) else none

/-- The value of a run of ASCII digits that is at most `limit`. -/
def natUpTo? (limit : Nat) (s : List Char) : Option Nat :=
  (digits? s).filter (· ≤ limit)

/-- A count, with a plus sign or without. -/
def count? : List Char → Option Nat
  | '+' :: rest => natUpTo? maxCount rest
  | s => natUpTo? maxCount s

/-- A whole number of at most 64 bits with its sign. -/
def int64? : List Char → Option Int
  | '+' :: rest => (natUpTo? maxInt rest).map Int.ofNat
  | '-' :: rest => (natUpTo? (maxInt + 1) rest).map fun n => -Int.ofNat n
  | s => (natUpTo? maxInt s).map Int.ofNat

end CommitHistory.Text.Numeral
