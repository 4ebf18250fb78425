/-
# Log levels

A log level is named by a word in large or small letters, or by its number: the more
is logged, the larger the number.
-/

import CommitHistory.Text.Lines
import CommitHistory.Text.Numeral

namespace CommitHistory

/-- How much is logged. -/
inductive LogLevel where
  | error
  | warn
  | info
  | debug
  | trace
deriving DecidableEq, Repr

namespace LogLevel

/-- The number of a level. -/
def rank : LogLevel → Nat
  | .error => 1
  | .warn => 2
  | .info => 3
  | .debug => 4
  | .trace => 5

/-- The name of a level in small letters. -/
def name : LogLevel → String
  | .error => "error"
  | .warn => "warn"
  | .info => "info"
  | .debug => "debug"
  | .trace => "trace"

/-- The levels, the quietest first. -/
def every : List LogLevel := [.error, .warn, .info, .debug, .trace]

/-- The level that a text names. -/
def ofText? (text : List Char) : Option LogLevel :=
  match Text.Numeral.count? text with
  | some n => every.find? fun level => level.rank = n
  | none => every.find? fun level => level.name.toList = text.map Char.toLower

end LogLevel

end CommitHistory
