/-
# Values of fields in a log filter

A directive can ask for a field of a span to have a value. The value is a truth value,
a number or a regular expression; the first of these kinds that the text belongs to
counts.
-/

import CommitHistory.Decimal.Binary
import CommitHistory.Text.Pattern

namespace CommitHistory.LogFilter

open Text

/-- A value that a field must have. -/
inductive FieldValue where
  | flag (value : Bool)
  /-- A binary fraction or infinity, with its sign. -/
  | fraction (negative : Bool) (size : Binary)
  /-- No number, which fractions may be. -/
  | undefined
  | count (value : Nat)
  | integer (value : Int)
  | pattern (text : List Char)
deriving DecidableEq, Repr

namespace FieldValue

/-- A fraction without its sign: a decimal number, or a word for infinity. -/
def size? (s : List Char) : Option Binary :=
  let lower := s.map Char.toLower
  if lower = "inf".toList ∨ lower = "infinity".toList then some .infinite
  else (Decimal.ofText? s).map Binary.nearest

/-- The fraction that a text stands for. -/
def fraction? (s : List Char) : Option FieldValue :=
  let (negative, unsigned) := Decimal.cutSign s
  if unsigned.map Char.toLower = "nan".toList then some .undefined
  else (size? unsigned).map (.fraction negative)

/-- The value that a text stands for, unless it is no regular expression either. -/
def parse? (s : List Char) : Option FieldValue :=
  if s = "true".toList then some (.flag true)
  else if s = "false".toList then some (.flag false)
  else
    ((Numeral.count? s).map count).or <|
      ((Numeral.int64? s).map integer).or <|
        (fraction? s).or <|
          if Pattern.isPattern s then some (.pattern s) else none

/-- The text of a value. -/
def text : FieldValue → List Char
  | .flag value => if value then "true".toList else "false".toList
  | .fraction negative size => if negative then '-' :: size.text else size.text
  | .undefined => "NaN".toList
  | .count value => Numeral.ofNat value
  | .integer value => Numeral.ofInt value
  | .pattern text => text

/-- The place of a kind of values among the others. -/
def rank : FieldValue → Nat
  | .flag _ => 0
  | .fraction _ _ => 1
  | .undefined => 2
  | .count _ => 3
  | .integer _ => 4
  | .pattern _ => 5

/-- The order of fractions by size. Zero has no sign here. -/
def fractionOrder (negative : Bool) (first : Binary) (isNegative : Bool) (second : Binary) :
    Ordering :=
  match negative && first != .zero, isNegative && second != .zero with
  | false, false => first.order second
  | true, true => second.order first
  | true, false => .lt
  | false, true => .gt

/-- The order of values: by kind, and then by size or as texts. -/
def order : FieldValue → FieldValue → Ordering
  | .flag a, .flag b => compare a.toNat b.toNat
  | .fraction negative a, .fraction isNegative b => fractionOrder negative a isNegative b
  | .count a, .count b => compare a b
  | .integer a, .integer b => compare a b
  | .pattern a, .pattern b => compare a b
  | a, b => compare a.rank b.rank

end FieldValue

end CommitHistory.LogFilter
