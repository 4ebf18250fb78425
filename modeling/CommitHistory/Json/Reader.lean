/-
# Reading JSON

The reader accepts the JSON grammar and nothing more: no comments, no trailing
commas, no control characters inside strings. Each function reads from the front of
a text and hands back what is left. A bound that grows with the text makes the
recursion end and is never reached.
-/

import CommitHistory.Json.Value
import CommitHistory.Text.Lines
import CommitHistory.Text.Numeral

namespace CommitHistory.Json

open Text

/-- The four blank characters of JSON. -/
def isSpace (c : Char) : Bool := c == ' ' || c == '\t' || c == '\n' || c == '\r'

/-- What follows the blanks. -/
def skipSpace (s : List Char) : List Char := s.dropWhile isSpace

/-- The value of a hexadecimal digit. -/
def hexValue? (c : Char) : Option Nat :=
  if '0' ≤ c ∧ c ≤ '9' then some (c.toNat - 48)
  else if 'a' ≤ c ∧ c ≤ 'f' then some (c.toNat - 87)
  else if 'A' ≤ c ∧ c ≤ 'F' then some (c.toNat - 55)
  else none

/-- The value of four hexadecimal digits. -/
def unit? (a b c d : Char) : Option Nat := do
  let a ← hexValue? a
  let b ← hexValue? b
  let c ← hexValue? c
  let d ← hexValue? d
  some (((a * 16 + b) * 16 + c) * 16 + d)

/-- The character that a letter stands for after a backslash. -/
def shortEscape? : Char → Option Char
  | '"' => some '"'
  | '\\' => some '\\'
  | '/' => some '/'
  | 'b' => some '\x08'
  | 'f' => some '\x0c'
  | 'n' => some '\n'
  | 'r' => some '\r'
  | 't' => some '\t'
  | _ => none

/-- The first half of a surrogate pair. -/
def isHighHalf (unit : Nat) : Bool := 0xd800 ≤ unit && unit ≤ 0xdbff

/-- The second half of a surrogate pair. -/
def isLowHalf (unit : Nat) : Bool := 0xdc00 ≤ unit && unit ≤ 0xdfff

/-- A part of a string: a character, or one half of a surrogate pair that an escape names. -/
inductive Part where
  | char (c : Char)
  | half (unit : Nat)
deriving DecidableEq, Repr

/-- The part that four hexadecimal digits name. -/
def Part.ofUnit (unit : Nat) : Part :=
  if isHighHalf unit || isLowHalf unit then .half unit else .char (Char.ofNat unit)

/-- The text that parts make: two halves in the right order are one character, and a half
that stands alone is no text. -/
def Part.join? : List Part → Option (List Char)
  | [] => some []
  | .char c :: rest => (join? rest).map (c :: ·)
  | .half high :: .half low :: rest =>
    if isHighHalf high && isLowHalf low then
      (join? rest).map (Char.ofNat (0x10000 + (high - 0xd800) * 0x400 + (low - 0xdc00)) :: ·)
    else none
  | .half _ :: _ => none

/-- Reads the parts of a string after its opening quotation mark. -/
def parts? : List Char → Option (List Part × List Char)
  | [] => none
  | '"' :: rest => some ([], rest)
  | '\\' :: 'u' :: a :: b :: c :: d :: rest =>
    match unit? a b c d with
    | none => none
    | some unit => (parts? rest).map fun found => (.ofUnit unit :: found.1, found.2)
  | '\\' :: letter :: rest =>
    match shortEscape? letter with
    | none => none
    | some c => (parts? rest).map fun found => (.char c :: found.1, found.2)
  | c :: rest =>
    if c.toNat < 0x20 ∨ c = '\\' then none
    else (parts? rest).map fun found => (.char c :: found.1, found.2)

/-- Reads a string after its opening quotation mark. The first result is missing when an
escape names one half of a surrogate pair alone. -/
def stringBody? (s : List Char) : Option (Option (List Char) × List Char) :=
  (parts? s).map fun found => (Part.join? found.1, found.2)

/-- A whole number as a value: exact if it has at most 64 bits. -/
def integer (negative : Bool) (digits : List Char) : Value :=
  let n := Numeral.digitsValue digits
  if negative then
    if n = 0 ∨ Numeral.maxInt + 1 < n then .other ('-' :: digits) else .integer (-(n : Int))
  else if n ≤ Numeral.maxCount then .integer n
  else .other digits

/-- Reads the digits before a point: zero alone, or digits that do not begin with zero. -/
def wholePart? (s : List Char) : Option (List Char × List Char) :=
  match s with
  | '0' :: rest =>
    if (rest.takeWhile Char.isDigit).isEmpty then some (['0'], rest) else none
  | _ =>
    let digits := s.takeWhile Char.isDigit
    if digits.isEmpty then none else some (digits, s.dropWhile Char.isDigit)

/-- Reads a point and digits, if there is a point. -/
def pointPart? (s : List Char) : Option (List Char × List Char) :=
  match s with
  | '.' :: rest =>
    let digits := rest.takeWhile Char.isDigit
    if digits.isEmpty then none else some ('.' :: digits, rest.dropWhile Char.isDigit)
  | _ => some ([], s)

/-- Reads an exponent, if there is one. -/
def exponentPart? (s : List Char) : Option (List Char × List Char) :=
  match s with
  | [] => some ([], [])
  | e :: rest =>
    if e = 'e' ∨ e = 'E' then
      let sign := rest.takeWhile fun c => c == '+' || c == '-'
      let after := rest.drop sign.length
      let digits := after.takeWhile Char.isDigit
      if 1 < sign.length ∨ digits.isEmpty then none
      else some (e :: sign ++ digits, after.dropWhile Char.isDigit)
    else some ([], s)

/-- Reads a number. -/
def number? (s : List Char) : Option (Value × List Char) := do
  let negative := s.head? == some '-'
  let (whole, rest) ← wholePart? (if negative then s.tail else s)
  let (point, rest) ← pointPart? rest
  let (exponent, rest) ← exponentPart? rest
  if point.isEmpty && exponent.isEmpty then some (integer negative whole, rest)
  else some (.other ((if negative then ['-'] else []) ++ whole ++ point ++ exponent), rest)

/-- Reads a word, a string or a number. -/
def scalar? (s : List Char) : Option (Value × List Char) :=
  match s with
  | '"' :: rest =>
    (stringBody? rest).map fun found =>
      ((found.1.map fun text => Value.text (String.ofList text)).getD .unpaired, found.2)
  | 'n' :: _ => (dropPrefix? "null".toList s).map fun rest => (.null, rest)
  | 't' :: _ => (dropPrefix? "true".toList s).map fun rest => (.bool true, rest)
  | 'f' :: _ => (dropPrefix? "false".toList s).map fun rest => (.bool false, rest)
  | _ => number? s

/-- Reads the name of a field and the colon after it. The first result is missing when the name is
no text. -/
def fieldName? (s : List Char) : Option (Option String × List Char) :=
  match skipSpace s with
  | '"' :: rest => do
    let (name, rest) ← stringBody? rest
    match skipSpace rest with
    | ':' :: rest => some (name.map String.ofList, rest)
    | _ => none
  | _ => none

/-- The record of fields, if all their names are texts. -/
def ofFields (fields : List (Option String × Value)) : Value :=
  match fields.mapM fun field => field.1.map (·, field.2) with
  | some fields => .record fields
  | none => .misnamed

mutual

/-- Reads a value after blanks. -/
def value? : Nat → List Char → Option (Value × List Char)
  | 0, _ => none
  | bound + 1, s =>
    match skipSpace s with
    | '[' :: rest =>
      match skipSpace rest with
      | ']' :: rest => some (.list [], rest)
      | _ => (items? bound rest).map fun found => (.list found.1, found.2)
    | '{' :: rest =>
      match skipSpace rest with
      | '}' :: rest => some (.record [], rest)
      | _ => (fields? bound rest).map fun found => (ofFields found.1, found.2)
    | rest => scalar? rest

/-- Reads items and the bracket that ends them. -/
def items? : Nat → List Char → Option (List Value × List Char)
  | 0, _ => none
  | bound + 1, s =>
    match value? bound s with
    | none => none
    | some (value, rest) =>
      match skipSpace rest with
      | ']' :: rest => some ([value], rest)
      | ',' :: rest => (items? bound rest).map fun found => (value :: found.1, found.2)
      | _ => none

/-- Reads fields and the brace that ends them. -/
def fields? : Nat → List Char → Option (List (Option String × Value) × List Char)
  | 0, _ => none
  | bound + 1, s =>
    match fieldName? s with
    | none => none
    | some (name, rest) =>
      match value? bound rest with
      | none => none
      | some (value, rest) =>
        match skipSpace rest with
        | '}' :: rest => some ([(name, value)], rest)
        | ',' :: rest => (fields? bound rest).map fun found => ((name, value) :: found.1, found.2)
        | _ => none

end

/-- The value that a whole text is. -/
def read? (text : List Char) : Option Value := do
  let (value, rest) ← value? (2 * text.length + 2) text
  if (skipSpace rest).isEmpty then some value else none

end CommitHistory.Json
