/-
# Quoted text

A text in quotation marks for people to read. The quotation mark and the backslash get
a backslash, some control characters a letter, and every other character that does not
show gets its number in hexadecimal digits.
-/

import CommitHistory.Text.Hidden

namespace CommitHistory.Text.Quoted

/-- One character of a quoted text. -/
def escape (c : Char) : List Char :=
  if c = '"' then ['\\', '"']
  else if c = '\\' then ['\\', '\\']
  else if c = '\t' then ['\\', 't']
  else if c = '\n' then ['\\', 'n']
  else if c = '\r' then ['\\', 'r']
  else if c = '\x00' then ['\\', '0']
  else if isHidden c then ['\\', 'u', '\x7b'] ++ Nat.toDigits 16 c.toNat ++ ['\x7d']
  else [c]

/-- A text in quotation marks. -/
def quote (text : String) : List Char := '"' :: text.toList.flatMap escape ++ ['"']

end CommitHistory.Text.Quoted
