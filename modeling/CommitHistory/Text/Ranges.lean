/-
# Ranges of characters

A class of characters is given by the ranges of their numbers, in ascending order.
-/

namespace CommitHistory.Text

/-- Ranges of numbers: the first and the last of each. -/
abbrev Ranges : Type := List (Nat × Nat)

/-- Whether a character lies in one of the ranges. -/
def Ranges.holds (ranges : Ranges) (c : Char) : Bool :=
  ranges.any fun range => range.1 ≤ c.toNat && c.toNat ≤ range.2

end CommitHistory.Text
