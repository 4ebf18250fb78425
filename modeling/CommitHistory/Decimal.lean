/-
# Decimal numbers

A decimal number is written with digits, with a point among them or none, and with an
exponent or none. Its size is not limited, and nothing is rounded when it is read.
-/

import CommitHistory.Text.Lines
import CommitHistory.Text.Numeral

namespace CommitHistory

/-- A number that is not negative: digits that count a power of ten. -/
structure Decimal where
  digits : Nat
  power : Int
deriving DecidableEq, Repr

namespace Decimal

open Text

/-- A text without one sign at its beginning, and whether the sign was a minus. -/
def cutSign : List Char → Bool × List Char
  | '+' :: rest => (false, rest)
  | '-' :: rest => (true, rest)
  | s => (false, s)

/-- The number of digits with at most one point before, behind or between them. -/
def ofFraction? (s : List Char) : Option Decimal :=
  match cutAt '.' s with
  | none => (Numeral.digits? s).map fun digits => { digits, power := 0 }
  | some (whole, fraction) =>
    (Numeral.digits? (whole ++ fraction)).map fun digits =>
      { digits, power := -(fraction.length : Int) }

/-- The exponent that digits with or without a sign stand for. -/
def exponent? (s : List Char) : Option Int :=
  let (negative, digits) := cutSign s
  (Numeral.digits? digits).map fun n => if negative then -(n : Int) else n

/-- The number that a text without a sign stands for. -/
def ofText? (s : List Char) : Option Decimal :=
  let fraction := s.takeWhile fun c => c != 'e' && c != 'E'
  match ofFraction? fraction, s.drop fraction.length with
  | some number, [] => some number
  | some number, _ :: exponent =>
    (exponent? exponent).map fun shift => { number with power := number.power + shift }
  | none, _ => none

/-- A number without an exponent. A point stands only before digits. -/
def positional (number : Decimal) : List Char :=
  let digits := Numeral.ofNat number.digits
  if 0 ≤ number.power then
    if number.digits = 0 then digits else digits ++ List.replicate number.power.toNat '0'
  else
    let places := number.power.natAbs
    let padded := List.replicate (places + 1 - digits.length) '0' ++ digits
    let whole := padded.length - places
    padded.take whole ++ '.' :: padded.drop whole

end Decimal

end CommitHistory
