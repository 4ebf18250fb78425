/-
# Binary fractions of 64 bits

A binary fraction counts a power of two with at most 53 binary digits. Every decimal
number has a nearest one, and beyond the largest there is infinity. The other way
round, a binary fraction is shown by the fewest decimal digits that no other binary
fraction is nearer to.

## Main definitions

* `Binary`, `Binary.nearest` — rounding a decimal number, a half to the even neighbour.
* `Binary.shortest` — the fewest digits that lead back to a binary fraction.
-/

import CommitHistory.Decimal

namespace CommitHistory

/-- A binary fraction that is not negative, or infinity. -/
inductive Binary where
  /-- The significand is below 2 to the power of 53, and at least half of that unless the exponent
  is the smallest. -/
  | finite (significand : Nat) (exponent : Int)
  | infinite
deriving DecidableEq, Repr

namespace Binary

/-- The smallest significand of a binary fraction whose exponent is not the smallest. -/
def leastSignificand : Nat := Nat.pow 2 52

/-- The smallest exponent. -/
def leastExponent : Int := -1074

/-- The largest exponent. -/
def greatestExponent : Int := 971

/-- Zero. -/
def zero : Binary := .finite 0 leastExponent

/-- The whole number nearest to a quotient, a half to the even neighbour. -/
def roundQuotient (a b : Nat) : Nat :=
  let floor := a / b
  let rest := 2 * (a % b)
  if b < rest || (b = rest && floor % 2 = 1) then floor + 1 else floor

/-- A quotient divided by a power of two, as numerator and denominator. -/
def shifted (a b : Nat) (exponent : Int) : Nat × Nat :=
  if 0 ≤ exponent then (a, b * Nat.pow 2 exponent.toNat) else (a * Nat.pow 2 exponent.natAbs, b)

/-- The binary fraction nearest to a quotient that is not zero. -/
def ofQuotient (a b : Nat) : Binary :=
  -- The quotient has this number of binary digits before its point, or one less.
  let guess : Int := (a.log2 : Int) - b.log2 - 52
  let (x, y) := shifted a b guess
  let exponent := max leastExponent (if x / y < leastSignificand then guess - 1 else guess)
  let (x, y) := shifted a b exponent
  let rounded := roundQuotient x y
  let (significand, exponent) :=
    if rounded = 2 * leastSignificand then (leastSignificand, exponent + 1)
    else (rounded, exponent)
  if greatestExponent < exponent then .infinite else .finite significand exponent

/-- The binary fraction nearest to a decimal number. -/
def nearest (number : Decimal) : Binary :=
  if number.digits = 0 then zero
  -- Far from the exponents of binary fractions the digits do not matter.
  else if 400 < number.power then .infinite
  else if number.power < -(400 + number.digits.log2 : Int) then zero
  else if 0 ≤ number.power then ofQuotient (number.digits * Nat.pow 10 number.power.toNat) 1
  else ofQuotient number.digits (Nat.pow 10 number.power.natAbs)

/-- Whether a decimal number is nearer to some binary fraction than to infinity. -/
def holds (number : Decimal) : Bool := nearest number != .infinite

/-- The multiple of a power of ten that is nearest to a binary fraction among those that lead back
to it. -/
def onGrid? (significand : Nat) (exponent : Int) (power : Int) : Option Nat :=
  -- Everything is counted in quarters of the last binary digit.
  let (unit, point) := shifted 1 1 (2 - exponent)
  let (unit, point) := if 0 ≤ power then (unit, point * Nat.pow 10 power.toNat)
    else (unit * Nat.pow 10 power.natAbs, point)
  let value := 4 * significand * unit
  let above := (4 * significand + 2) * unit
  let isLeast := significand = leastSignificand && leastExponent < exponent
  let below := (4 * significand - (if isLeast then 1 else 2)) * unit
  let leadsBack := fun (n : Nat) =>
    if significand % 2 = 0 then below ≤ n * point && n * point ≤ above
    else below < n * point && n * point < above
  let floor := value / point
  let isUpper := leadsBack (floor + 1) && (!leadsBack floor || point ≤ 2 * (value % point))
  if isUpper then some (floor + 1) else if leadsBack floor then some floor else none

/-- The multiple of the greatest power of ten, of the given one and the next smaller ones, that
leads back to a binary fraction. -/
def shortestFrom (significand : Nat) (exponent : Int) : Nat → Int → Decimal
  | 0, power => { digits := 0, power }
  | bound + 1, power =>
    match onGrid? significand exponent power with
    | some digits => { digits, power }
    | none => shortestFrom significand exponent bound (power - 1)

/-- The fewest decimal digits that lead back to a binary fraction. -/
def shortest (significand : Nat) (exponent : Int) : Decimal :=
  if significand = 0 then { digits := 0, power := 0 }
  -- The first power is above the number, and seventeen digits always lead back.
  else
    shortestFrom significand exponent 20
      ((exponent + (significand.log2 : Int)) * 30103 / 100000 + 2)

/-- A binary fraction in decimal digits, or the word for infinity. -/
def text : Binary → List Char
  | .finite significand exponent => (shortest significand exponent).positional
  | .infinite => "inf".toList

/-- The order of binary fractions by size. -/
def order : Binary → Binary → Ordering
  | .finite m e, .finite n f => (compare e f).then (compare m n)
  | .finite _ _, .infinite => .lt
  | .infinite, .finite _ _ => .gt
  | .infinite, .infinite => .eq

end Binary

end CommitHistory
