/-
# JSON text

A value is written compactly, without blanks, or with each item and field on a line
of its own, two spaces deeper than what holds it. In strings the quotation mark, the
backslash and the control characters are escaped and nothing else is.
-/

import CommitHistory.Json.Value
import CommitHistory.Text.Numeral

namespace CommitHistory.Json

open Text

/-- A hexadecimal digit in small letters. -/
def hexDigit (n : Nat) : Char := if n < 10 then Char.ofNat (48 + n) else Char.ofNat (87 + n)

/-- One character inside a string. -/
def escape (c : Char) : List Char :=
  if c = '"' then ['\\', '"']
  else if c = '\\' then ['\\', '\\']
  else if c = '\x08' then ['\\', 'b']
  else if c = '\x09' then ['\\', 't']
  else if c = '\x0a' then ['\\', 'n']
  else if c = '\x0c' then ['\\', 'f']
  else if c = '\x0d' then ['\\', 'r']
  else if c.toNat < 0x20 then
    ['\\', 'u', '0', '0', hexDigit (c.toNat / 16), hexDigit (c.toNat % 16)]
  else [c]

/-- A string in quotation marks. -/
def quote (s : String) : List Char := '"' :: s.toList.flatMap escape ++ ['"']

/-- The text of a value that is neither a list nor a record. -/
def scalar : Value → List Char
  | .null => "null".toList
  | .bool true => "true".toList
  | .bool false => "false".toList
  | .integer n => Numeral.ofInt n
  | .other text => text
  | .text s => quote s
  | .unpaired => quote "\ufffd"
  | .list _ => []
  | .record _ => []
  | .misnamed => ['{', '}']

mutual

/-- A value without blanks. -/
def compact : Value → List Char
  | .list items => '[' :: compactItems items ++ [']']
  | .record fields => '{' :: compactFields fields ++ ['}']
  | value => scalar value

/-- Items with commas between them. -/
def compactItems : List Value → List Char
  | [] => []
  | [value] => compact value
  | value :: rest => compact value ++ ',' :: compactItems rest

/-- Fields with commas between them. -/
def compactFields : List (String × Value) → List Char
  | [] => []
  | [(name, value)] => quote name ++ ':' :: compact value
  | (name, value) :: rest => quote name ++ ':' :: compact value ++ ',' :: compactFields rest

end

/-- The start of a line at a depth. -/
def newLine (depth : Nat) : List Char := '\n' :: List.replicate (2 * depth) ' '

mutual

/-- A value with one item or field a line, where the value itself stands at a depth. -/
def pretty (depth : Nat) : Value → List Char
  | .list [] => ['[', ']']
  | .list items => '[' :: prettyItems (depth + 1) items ++ newLine depth ++ [']']
  | .record [] => ['{', '}']
  | .record fields => '{' :: prettyFields (depth + 1) fields ++ newLine depth ++ ['}']
  | value => scalar value

/-- Items, each on a line of its own. -/
def prettyItems (depth : Nat) : List Value → List Char
  | [] => []
  | [value] => newLine depth ++ pretty depth value
  | value :: rest => newLine depth ++ pretty depth value ++ ',' :: prettyItems depth rest

/-- Fields, each on a line of its own. -/
def prettyFields (depth : Nat) : List (String × Value) → List Char
  | [] => []
  | [(name, value)] => newLine depth ++ quote name ++ ':' :: ' ' :: pretty depth value
  | (name, value) :: rest =>
    newLine depth ++ quote name ++ ':' :: ' ' :: pretty depth value ++
      ',' :: prettyFields depth rest

end

/-- Whether a text is written on one line or with one item a line. -/
inductive Layout where
  | compact
  | pretty
deriving DecidableEq, Repr

/-- The text of a value. -/
def write : Layout → Value → List Char
  | .compact, value => compact value
  | .pretty, value => pretty 0 value

end CommitHistory.Json
