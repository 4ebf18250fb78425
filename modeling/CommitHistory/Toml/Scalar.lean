/-
# TOML strings and numbers

Strings come in four forms: basic ones with escapes, literal ones without, and both over
several lines. Numbers, dates and times have no blanks inside, so the characters up to
the next blank or mark are taken first and judged as a whole.
-/

import CommitHistory.Decimal.Binary
import CommitHistory.Json.Reader
import CommitHistory.Text.Lines
import CommitHistory.Text.Numeral
import CommitHistory.Toml.Value

namespace CommitHistory.Toml

open Text

/-- Whether a character may stand in a string of one line. -/
def isPrintable (c : Char) : Bool := c == '\t' || (0x20 ≤ c.toNat && c.toNat != 0x7f)

/-- The character that a letter stands for after a backslash. -/
def shortEscape? : Char → Option Char
  | 'b' => some '\x08'
  | 't' => some '\t'
  | 'n' => some '\n'
  | 'f' => some '\x0c'
  | 'r' => some '\r'
  | '"' => some '"'
  | '\\' => some '\\'
  | _ => none

/-- The character with a number in hexadecimal digits. -/
def charOfHex? (digits : List Char) : Option Char := do
  let values ← digits.mapM Json.hexValue?
  let n := values.foldl (fun n value => 16 * n + value) 0
  if n < 0x110000 ∧ ¬(0xd800 ≤ n ∧ n ≤ 0xdfff) then some (Char.ofNat n) else none

/-- Reads an escape after its backslash. -/
def escape? : List Char → Option (Char × List Char)
  | 'u' :: a :: b :: c :: d :: rest => (charOfHex? [a, b, c, d]).map (·, rest)
  | 'U' :: a :: b :: c :: d :: e :: f :: g :: h :: rest =>
    (charOfHex? [a, b, c, d, e, f, g, h]).map (·, rest)
  | letter :: rest => (shortEscape? letter).map (·, rest)
  | [] => none

/-- Reads a basic string after its opening quotation mark. -/
def basic? : Nat → List Char → Option (List Char × List Char)
  | 0, _ => none
  | _, [] => none
  | _ + 1, '"' :: rest => some ([], rest)
  | bound + 1, '\\' :: rest => do
    let (c, rest) ← escape? rest
    let (text, rest) ← basic? bound rest
    some (c :: text, rest)
  | bound + 1, c :: rest =>
    if isPrintable c then (basic? bound rest).map fun found => (c :: found.1, found.2) else none

/-- Reads a literal string after its opening apostrophe. -/
def literal? : List Char → Option (List Char × List Char)
  | [] => none
  | '\'' :: rest => some ([], rest)
  | c :: rest =>
    if isPrintable c then (literal? rest).map fun found => (c :: found.1, found.2) else none

/-- What follows a line end, if there is one. -/
def lineEnd? : List Char → Option (List Char)
  | '\n' :: rest => some rest
  | '\r' :: '\n' :: rest => some rest
  | _ => none

/-- Reads the marks that end a string of several lines: three of them, with up to two more that
belong to the string. -/
def closing? (mark : Char) (s : List Char) : Option (List Char × List Char) :=
  let marks := (s.takeWhile (· = mark)).length
  if marks < 3 then none
  else
    let own := min (marks - 3) 2
    some (List.replicate own mark, s.drop (own + 3))

/-- What follows a backslash at the end of a line: blanks and line ends are passed over. -/
def joinLines (s : List Char) : List Char :=
  s.dropWhile fun c => c == ' ' || c == '\t' || c == '\n' || c == '\r'

/-- Reads a basic string of several lines after its opening marks. -/
def multiBasic? : Nat → List Char → Option (List Char × List Char)
  | 0, _ => none
  | bound + 1, s =>
    match closing? '"' s with
    | some found => some found
    | none =>
      match s with
      | [] => none
      | '\\' :: rest =>
        let trimmed := rest.dropWhile fun c => c == ' ' || c == '\t'
        if (lineEnd? trimmed).isSome then multiBasic? bound (joinLines trimmed)
        else do
          let (c, rest) ← escape? rest
          let (text, rest) ← multiBasic? bound rest
          some (c :: text, rest)
      | c :: rest =>
        match lineEnd? s with
        | some rest => (multiBasic? bound rest).map fun found => ('\n' :: found.1, found.2)
        | none =>
          if isPrintable c then (multiBasic? bound rest).map fun found => (c :: found.1, found.2)
          else none

/-- Reads a literal string of several lines after its opening marks. -/
def multiLiteral? : Nat → List Char → Option (List Char × List Char)
  | 0, _ => none
  | bound + 1, s =>
    match closing? '\'' s with
    | some found => some found
    | none =>
      match s with
      | [] => none
      | c :: rest =>
        match lineEnd? s with
        | some rest => (multiLiteral? bound rest).map fun found => ('\n' :: found.1, found.2)
        | none =>
          if isPrintable c then (multiLiteral? bound rest).map fun found => (c :: found.1, found.2)
          else none

/-- A text without a line end at its beginning. -/
def skipLineEnd (s : List Char) : List Char := (lineEnd? s).getD s

/-- Reads a string of one line at its opening mark. -/
def quoted? (s : List Char) : Option (List Char × List Char) :=
  match s with
  | '"' :: rest => basic? (rest.length + 1) rest
  | '\'' :: rest => literal? rest
  | _ => none

/-- Reads a string at its opening mark. -/
def string? (s : List Char) : Option (List Char × List Char) :=
  match s with
  | '"' :: '"' :: '"' :: rest => multiBasic? (rest.length + 1) (skipLineEnd rest)
  | '\'' :: '\'' :: '\'' :: rest => multiLiteral? (rest.length + 1) (skipLineEnd rest)
  | _ => quoted? s

/-- Whether a character may stand in a number, a date or a time. -/
def isNumberChar (c : Char) : Bool :=
  c.isAlphanum || c == '+' || c == '-' || c == '_' || c == '.' || c == ':'

/-- Digits with single underscores between them, as plain digits. -/
def groupedDigits? (isDigit : Char → Bool) (s : List Char) : Option (List Char) :=
  let groups := splitOn '_' s
  if groups.all fun group => !group.isEmpty && group.all isDigit then some groups.flatten else none

/-- The value of digits in a base up to sixteen. -/
def valueIn (base : Nat) (digits : List Char) : Nat :=
  digits.foldl (fun n c => base * n + (Json.hexValue? c).getD 0) 0

/-- A whole number in a base other than ten, after its two opening characters. -/
def basedInteger? (base : Nat) (s : List Char) : Option Int := do
  let digits ← groupedDigits? (fun c => (Json.hexValue? c).any (· < base)) s
  let n := valueIn base digits
  if n ≤ Numeral.maxInt then some (n : Int) else none

/-- Digits that do not begin with a zero, or zero alone. -/
def wholeDigits? (s : List Char) : Option (List Char) := do
  let digits ← groupedDigits? Char.isDigit s
  if digits.head? = some '0' ∧ digits.length ≠ 1 then none else some digits

/-- A whole number. -/
def integer? (s : List Char) : Option Int :=
  match s with
  | '0' :: 'x' :: rest => basedInteger? 16 rest
  | '0' :: 'o' :: rest => basedInteger? 8 rest
  | '0' :: 'b' :: rest => basedInteger? 2 rest
  | _ => do
    let (negative, rest) := Decimal.cutSign s
    let digits ← wholeDigits? rest
    let n := Numeral.digitsValue digits
    if negative then if n ≤ Numeral.maxInt + 1 then some (-(n : Int)) else none
    else if n ≤ Numeral.maxInt then some (n : Int) else none

/-- Whether a text is an exponent after its letter. -/
def isExponent (s : List Char) : Bool := (groupedDigits? Char.isDigit (Decimal.cutSign s).2).isSome

/-- Whether a text is a number with a fraction or an exponent, or a word for infinity or for no
number. Only a negative number may be too large for a binary fraction of 64 bits. -/
def isFraction (s : List Char) : Bool :=
  let (negative, unsigned) := Decimal.cutSign s
  if unsigned = "inf".toList ∨ unsigned = "nan".toList then true
  else
    let mantissa := unsigned.takeWhile fun c => c != 'e' && c != 'E'
    let exponent := unsigned.drop mantissa.length
    let exponentFits := exponent.isEmpty || isExponent exponent.tail
    let isWritten := match cutAt '.' mantissa with
      | none => !exponent.isEmpty && exponentFits && (wholeDigits? mantissa).isSome
      | some (whole, fraction) =>
        exponentFits && (wholeDigits? whole).isSome && (groupedDigits? Char.isDigit fraction).isSome
    let number := Decimal.ofText? (unsigned.filter (· != '_'))
    isWritten && (negative || number.any Binary.holds)

/-- The value of two digits up to a limit. -/
def twoDigits? (limit : Nat) : List Char → Option Nat
  | [a, b] => (Numeral.digits? [a, b]).filter (· ≤ limit)
  | _ => none

/-- Whether a text is a date. -/
def isDate (s : List Char) : Bool :=
  match splitOn '-' s with
  | [year, month, day] =>
    match Numeral.digits? year, twoDigits? 12 month, twoDigits? 31 day with
    | some y, some m, some d =>
      let leap := y % 4 = 0 ∧ (y % 100 ≠ 0 ∨ y % 400 = 0)
      let last := if m = 2 then (if leap then 29 else 28)
        else if m = 4 ∨ m = 6 ∨ m = 9 ∨ m = 11 then 30 else 31
      year.length = 4 && 1 ≤ m && 1 ≤ d && d ≤ last
    | _, _, _ => false
  | _ => false

/-- Whether a text is a time of day. -/
def isTime (s : List Char) : Bool :=
  match splitOn ':' s with
  | [hour, minute, second] =>
    let whole := second.takeWhile (· ≠ '.')
    let fraction := second.drop whole.length
    (twoDigits? 23 hour).isSome && (twoDigits? 59 minute).isSome && (twoDigits? 60 whole).isSome &&
      (fraction.isEmpty || (Numeral.digits? fraction.tail).isSome)
  | _ => false

/-- Whether a text is a time of day with or without an offset. -/
def isOffsetTime (s : List Char) : Bool :=
  let time := s.takeWhile fun c => c.isDigit || c == ':' || c == '.'
  match s.drop time.length with
  | [] => isTime time
  | ['Z'] => isTime time
  | ['z'] => isTime time
  | sign :: offset =>
    (sign == '+' || sign == '-') && isTime time &&
      match splitOn ':' offset with
      | [hour, minute] => (twoDigits? 23 hour).isSome && (twoDigits? 59 minute).isSome
      | _ => false

/-- Whether a text is a date, a time of day, or both. -/
def isMoment (s : List Char) : Bool :=
  isDate s || isTime s ||
    match s.drop 10 with
    | separator :: time =>
      isDate (s.take 10) && (separator == 'T' || separator == 't' || separator == ' ') &&
        isOffsetTime time
    | [] => false

/-- Reads a number, a date or a time. A date and a time may have one blank between them. -/
def number? (s : List Char) : Option (Value × List Char) :=
  let token := s.takeWhile isNumberChar
  let rest := s.drop token.length
  match integer? token with
  | some n => some (.integer n, rest)
  | none =>
    if isFraction token then some (.fraction, rest)
    else if isDate token then
      match rest with
      | ' ' :: more =>
        let time := more.takeWhile isNumberChar
        if isOffsetTime time then some (.moment, more.drop time.length) else some (.moment, rest)
      | _ => some (.moment, rest)
    else if isMoment token then some (.moment, rest)
    else none

end CommitHistory.Toml
