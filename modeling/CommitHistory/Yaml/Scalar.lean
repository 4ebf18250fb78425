/-
# YAML scalars

Every scalar is a text. A plain one, without quotation marks, may also stand for
nothing, for a truth value or for a number; which of these it is depends on its text
alone.
-/

import CommitHistory.Decimal.Binary
import CommitHistory.Json.Reader
import CommitHistory.Text.Numeral

namespace CommitHistory.Yaml

open Text

/-- Whether a plain text stands for nothing. -/
def isNull (s : List Char) : Bool :=
  ["", "~", "null", "Null", "NULL"].any fun word => word.toList = s

/-- The truth value that a plain text stands for. -/
def flag? (s : List Char) : Option Bool :=
  if ["true", "True", "TRUE"].any fun word => word.toList = s then some true
  else if ["false", "False", "FALSE"].any fun word => word.toList = s then some false
  else none

/-- A text without one plus sign at its beginning. -/
def dropPlus : List Char → List Char
  | '+' :: rest => rest
  | s => s

/-- Whether a text is a zero followed by further digits, which is no number. -/
def isZeroPadded (s : List Char) : Bool :=
  match (Decimal.cutSign s).2 with
  | '0' :: c :: rest => (c :: rest).all Char.isDigit
  | _ => false

/-- The value of digits in a base up to sixteen. -/
def inBase? (base : Nat) (s : List Char) : Option Nat :=
  if s.isEmpty then none
  else s.foldlM (fun n c => ((Json.hexValue? c).filter (· < base)).map (base * n + ·)) 0

/-- The value of digits in the base that their first two characters name. -/
def based? : List Char → Option Nat
  | '0' :: 'x' :: rest => inBase? 16 rest
  | '0' :: 'o' :: rest => inBase? 8 rest
  | '0' :: 'b' :: rest => inBase? 2 rest
  | _ => none

/-- The number that a plain text stands for, of whatever size. -/
def natural? (s : List Char) : Option Nat :=
  (based? (dropPlus s)).or <|
    if isZeroPadded s then none else Numeral.digits? (dropPlus s)

/-- The count that a plain text stands for. -/
def count? (s : List Char) : Option Nat := (natural? s).filter (· ≤ Numeral.maxCount)

/-- Whether a plain text stands for a whole number of at most 128 bits. -/
def isInteger (s : List Char) : Bool :=
  match s with
  | '-' :: rest =>
    (((based? rest).or (if isZeroPadded s then none else Numeral.digits? rest)).filter
      (· ≤ Nat.pow 2 127)).isSome
  | _ => ((natural? s).filter (· < Nat.pow 2 128)).isSome

/-- Whether a plain text stands for a number with a fraction or an exponent that a binary fraction
of 64 bits can be near to, for infinity, or for no number. -/
def isFloat (s : List Char) : Bool :=
  let unsigned := dropPlus s
  if [".inf", ".Inf", ".INF"].any fun word => word.toList = unsigned then true
  else if ["-.inf", "-.Inf", "-.INF", ".nan", ".NaN", ".NAN"].any fun word => word.toList = s then
    true
  else
    let body := match unsigned with
      | '-' :: rest => if unsigned = s then rest else unsigned
      | _ => unsigned
    (Decimal.ofText? body).any Binary.holds

/-- Whether a plain text stands for anything but itself. -/
def isSpecial (s : List Char) : Bool :=
  isNull s || (flag? s).isSome || isInteger s || (!isZeroPadded s && isFloat s)

end CommitHistory.Yaml
