/-
# Writing TOML

Settings are written as tables of keys with single values; a key without a value is left
out. A string is written in the plainest form that can hold it: in quotation marks if
nothing in it needs an escape, else in apostrophes, and over several lines if it has
line ends. Escapes are the last resort.
-/

import CommitHistory.Json.Writer
import CommitHistory.Settings.Outline
import CommitHistory.Text.Lines
import CommitHistory.Text.Numeral

namespace CommitHistory.Toml

open Text Settings

/-- Whether a character needs an escape wherever it stands in a basic string. -/
def isControl (c : Char) : Bool := (c.toNat < 0x20 && c != '\t' && c != '\n') || c.toNat == 0x7f

/-- A hexadecimal digit in capital letters. -/
def hexDigit (n : Nat) : Char := (Json.hexDigit n).toUpper

/-- One character of a basic string, apart from quotation marks. In a string of several lines
a line end stands for itself. -/
def escape (severalLines : Bool) (c : Char) : List Char :=
  if c = '\x08' then ['\\', 'b']
  else if c = '\t' then ['\\', 't']
  else if c = '\n' then if severalLines then ['\n'] else ['\\', 'n']
  else if c = '\x0c' then ['\\', 'f']
  else if c = '\r' then ['\\', 'r']
  else if c = '\\' then ['\\', '\\']
  else if c.toNat < 0x20 ∨ c.toNat = 0x7f then
    ['\\', 'u', '0', '0', hexDigit (c.toNat / 16), hexDigit (c.toNat % 16)]
  else [c]

/-- The inside of a basic string after a number of quotation marks that stand for themselves.
On one line every quotation mark is escaped, in a string of several lines every third one in
a row. -/
def escapeFrom (severalLines : Bool) : Nat → List Char → List Char
  | _, [] => []
  | run, c :: rest =>
    if c = '"' then
      if severalLines && run < 2 then '"' :: escapeFrom severalLines (run + 1) rest
      else '\\' :: '"' :: escapeFrom severalLines 0 rest
    else escape severalLines c ++ escapeFrom severalLines 0 rest

/-- The inside of a basic string. -/
def escaped (severalLines : Bool) (text : List Char) : List Char := escapeFrom severalLines 0 text

/-- The length of the longest run of a character. -/
def longestRun (mark : Char) (text : List Char) : Nat :=
  let step := fun (run : Nat × Nat) c =>
    if c = mark then (run.1 + 1, max run.2 (run.1 + 1)) else (0, run.2)
  (text.foldl step (0, 0)).2

/-- The triple marks around a string. A string of several lines begins below the first ones. -/
def block (mark : Char) (text : List Char) : List Char :=
  let start := if text.contains '\n' then ['\n'] else []
  List.replicate 3 mark ++ start ++ text ++ List.replicate 3 mark

/-- A string in the plainest form that can hold it. -/
def quote (text : List Char) : List Char :=
  let control := text.any isControl
  let newLine := text.contains '\n'
  let plainBasic := !control && !text.contains '\\'
  if plainBasic && !newLine && !text.contains '"' then '"' :: escaped false text ++ ['"']
  else if !control && !newLine && !text.contains '\'' then '\'' :: text ++ ['\'']
  else if plainBasic && longestRun '"' text < 3 then block '"' (escaped true text)
  else if !control && longestRun '\'' text < 3 then block '\'' text
  else if newLine then block '"' (escaped true text)
  else '"' :: escaped false text ++ ['"']

/-- A value, if it can be written. -/
def scalar? : Scalar → Option (List Char)
  | .text value => some (quote value.toList)
  | .count value => if value ≤ Numeral.maxInt then some (Numeral.ofNat value) else none
  | .flag value => some (if value then "true".toList else "false".toList)
  | .nothing => some []

/-- A key with its value on a line, or nothing for a key without value. -/
def entry? (entry : String × Scalar) : Option (List Char) :=
  match entry.2 with
  | .nothing => some []
  | value => (scalar? value).map fun text => entry.1.toList ++ " = ".toList ++ text ++ ['\n']

/-- A table under its header. -/
def table? (part : String × Section) : Option (List Char) :=
  (part.2.mapM entry?).map fun lines => '[' :: part.1.toList ++ [']', '\n'] ++ lines.flatten

/-- Tables with an empty line between them. -/
def write? (outline : List (String × Section)) : Option (List Char) :=
  (outline.mapM table?).map fun tables => (tables.intersperse ['\n']).flatten

end CommitHistory.Toml
