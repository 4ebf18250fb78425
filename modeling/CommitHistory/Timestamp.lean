/-
# Points in time

A point in time is a count of seconds since the start of 1970 in UTC with a count
of nanoseconds; nanoseconds from a thousand million on stand for a leap second. The
calendar is the Gregorian calendar extended to all years, cut off to the years from
-262143 to 262142. `Timestamp.render` writes the form of RFC 3339 and
`Timestamp.parse?` reads it, with blanks allowed between the parts and with any
offset from UTC.
-/

import CommitHistory.Text.Blank
import CommitHistory.Text.Lines
import CommitHistory.Text.Numeral

namespace CommitHistory

open Text

/-- A day of the calendar. -/
structure CalendarDay where
  year : Int
  month : Nat
  day : Nat
deriving DecidableEq, Repr

namespace CalendarDay

/-- The number of days from the first of March of a year to the first day of a month of the
year that starts there; March is month 0. -/
def daysBeforeMonth (month : Nat) : Nat := (153 * month + 2) / 5

/-- The count of days since the first of January 1970. A cycle of 400 years has 146097 days
and is counted from the first of March. -/
def toDays (date : CalendarDay) : Int :=
  let year := if date.month ≤ 2 then date.year - 1 else date.year
  let cycle := Int.fdiv year 400
  let yearOfCycle := (year - cycle * 400).toNat
  let month := if date.month ≤ 2 then date.month + 9 else date.month - 3
  let dayOfYear := daysBeforeMonth month + date.day - 1
  let dayOfCycle := yearOfCycle * 365 + yearOfCycle / 4 - yearOfCycle / 100 + dayOfYear
  cycle * 146097 + dayOfCycle - 719468

/-- The day that a count of days since the first of January 1970 leads to. -/
def ofDays (days : Int) : CalendarDay :=
  let shifted := days + 719468
  let cycle := Int.fdiv shifted 146097
  let dayOfCycle := (shifted - cycle * 146097).toNat
  let yearOfCycle :=
    (dayOfCycle - dayOfCycle / 1460 + dayOfCycle / 36524 - dayOfCycle / 146096) / 365
  let dayOfYear := dayOfCycle - (365 * yearOfCycle + yearOfCycle / 4 - yearOfCycle / 100)
  let month := (5 * dayOfYear + 2) / 153
  let year := cycle * 400 + yearOfCycle
  if month < 10 then ⟨year, month + 3, dayOfYear - daysBeforeMonth month + 1⟩
  else ⟨year + 1, month - 9, dayOfYear - daysBeforeMonth month + 1⟩

/-- A year is a leap year when 4 divides it, unless 100 divides it and 400 does not. -/
def isLeapYear (year : Int) : Bool :=
  year % 4 == 0 && (year % 100 != 0 || year % 400 == 0)

/-- The number of days of a month. -/
def daysInMonth (year : Int) (month : Nat) : Nat :=
  if month = 2 then (if isLeapYear year then 29 else 28)
  else if month = 4 ∨ month = 6 ∨ month = 9 ∨ month = 11 then 30
  else 31

/-- The first and the last year of the calendar. -/
def firstYear : Int := -262143

/-- The last year of the calendar. -/
def lastYear : Int := 262142

/-- The day exists in the calendar. -/
def isValid (date : CalendarDay) : Bool :=
  firstYear ≤ date.year && date.year ≤ lastYear && 1 ≤ date.month && date.month ≤ 12 &&
    1 ≤ date.day && date.day ≤ daysInMonth date.year date.month

end CalendarDay

/-- A point in time in UTC. -/
structure Timestamp where
  seconds : Int
  nanoseconds : Nat
deriving DecidableEq, Repr

namespace Timestamp

/-- The first second of the calendar. -/
def firstSecond : Int := -8334601228800

/-- The last second of the calendar. -/
def lastSecond : Int := 8210266876799

/-- The start of a second, if the calendar has it. -/
def ofSeconds? (seconds : Int) : Option Timestamp :=
  if firstSecond ≤ seconds ∧ seconds ≤ lastSecond then some ⟨seconds, 0⟩ else none

/-- The day of a point in time. -/
def day (time : Timestamp) : CalendarDay := CalendarDay.ofDays (Int.fdiv time.seconds 86400)

/-- The seconds that have passed on the day. -/
def secondOfDay (time : Timestamp) : Nat := (Int.fmod time.seconds 86400).toNat

/-- A number with zeros before it, up to a width. -/
def padded (width n : Nat) : List Char :=
  let digits := Numeral.ofNat n
  List.replicate (width - digits.length) '0' ++ digits

/-- A year has four digits at least. A year before 0 or after 9999 carries its sign. -/
def renderYear (year : Int) : List Char :=
  if 0 ≤ year ∧ year ≤ 9999 then padded 4 year.toNat
  else (if year < 0 then '-' else '+') :: padded 4 year.natAbs

/-- A day as year, month and day with dashes between them. -/
def renderDay (date : CalendarDay) : List Char :=
  renderYear date.year ++ ['-'] ++ padded 2 date.month ++ ['-'] ++ padded 2 date.day

/-- The fraction of a second in three, six or nine digits, whichever suffices; no fraction
leaves no text. -/
def renderFraction (nanoseconds : Nat) : List Char :=
  if nanoseconds = 0 then []
  else if nanoseconds % 1000000 = 0 then '.' :: padded 3 (nanoseconds / 1000000)
  else if nanoseconds % 1000 = 0 then '.' :: padded 6 (nanoseconds / 1000)
  else '.' :: padded 9 nanoseconds

/-- The form of RFC 3339 in UTC. A leap second is written as second sixty. -/
def render (time : Timestamp) : List Char :=
  let second := time.secondOfDay % 60 + (if time.nanoseconds < 1000000000 then 0 else 1)
  renderDay time.day ++ ['T'] ++ padded 2 (time.secondOfDay / 3600) ++ [':'] ++
    padded 2 (time.secondOfDay / 60 % 60) ++ [':'] ++ padded 2 second ++
    renderFraction (time.nanoseconds % 1000000000) ++ ['Z']

/-- Day, hour and minute, as rows show them. -/
def renderMinute (time : Timestamp) : List Char :=
  renderDay time.day ++ [' '] ++ padded 2 (time.secondOfDay / 3600) ++ [':'] ++
    padded 2 (time.secondOfDay / 60 % 60)

/-- Reads one digit at least and `width` digits at most. -/
def number? (width : Nat) (s : List Char) : Option (Nat × List Char) :=
  let digits := (s.take width).takeWhile Char.isDigit
  if digits.isEmpty then none else some (Numeral.digitsValue digits, s.drop digits.length)

/-- Reads a number after blanks. -/
def field? (width : Nat) (s : List Char) : Option (Nat × List Char) :=
  number? width (trimStart s)

/-- Reads a mark after blanks. -/
def mark? (mark : Char) (s : List Char) : Option (List Char) :=
  match trimStart s with
  | c :: rest => if c = mark then some rest else none
  | [] => none

/-- Reads a year: four digits at most, or a sign and any number of digits. -/
def year? (s : List Char) : Option (Int × List Char) :=
  match trimStart s with
  | '-' :: rest => (number? rest.length rest).map fun found => (-(found.1 : Int), found.2)
  | '+' :: rest => (number? rest.length rest).map fun found => ((found.1 : Int), found.2)
  | rest => (number? 4 rest).map fun found => ((found.1 : Int), found.2)

/-- Reads a fraction of a second. Digits after the ninth are passed over. -/
def fraction? : List Char → Option (Nat × List Char)
  | '.' :: rest =>
    (number? 9 rest).map fun found =>
      let width := rest.length - found.2.length
      (found.1 * Nat.pow 10 (9 - width), found.2.dropWhile Char.isDigit)
  | s => some (0, s)

/-- Reads two digits and nothing else. -/
def twoDigits? : List Char → Option (Nat × List Char)
  | a :: b :: rest =>
    if a.isDigit ∧ b.isDigit then some (Numeral.digitsValue [a, b], rest) else none
  | _ => none

/-- Reads hours and minutes of an offset, with colons or blanks or nothing between them, and
gives the offset in seconds. -/
def offsetSize? (s : List Char) : Option (Nat × List Char) := do
  let hours ← twoDigits? s
  let rest := hours.2.dropWhile fun c => c == ':' || isBlank c
  let minutes ← twoDigits? rest
  if minutes.1 < 60 then some (hours.1 * 3600 + minutes.1 * 60, minutes.2) else none

/-- Reads the offset from UTC: the letter Z, the word UTC, or a sign with hours and minutes. -/
def offset? (s : List Char) : Option (Int × List Char) :=
  if (s.take 3).map Char.toLower = ['u', 't', 'c'] then some (0, s.drop 3)
  else match s with
    | 'Z' :: rest => some (0, rest)
    | 'z' :: rest => some (0, rest)
    | '+' :: rest => (offsetSize? rest).map fun found => ((found.1 : Int), found.2)
    | '-' :: rest => (offsetSize? rest).map fun found => (-(found.1 : Int), found.2)
    | '\u2212' :: rest => (offsetSize? rest).map fun found => (-(found.1 : Int), found.2)
    | _ => none

/-- Reads a day. -/
def day? (s : List Char) : Option (CalendarDay × List Char) := do
  let (year, s) ← year? s
  let s ← mark? '-' s
  let (month, s) ← field? 2 s
  let s ← mark? '-' s
  let (day, s) ← field? 2 s
  let date : CalendarDay := ⟨year, month, day⟩
  if date.isValid then some (date, s) else none

/-- Reads a time of day as seconds and nanoseconds. Second sixty is the leap second. -/
def clock? (s : List Char) : Option ((Nat × Nat) × List Char) := do
  let (hour, s) ← field? 2 s
  let s ← mark? ':' s
  let (minute, s) ← field? 2 s
  let s ← mark? ':' s
  let (second, s) ← field? 2 s
  let (fraction, s) ← fraction? s
  if hour ≤ 23 ∧ minute ≤ 59 ∧ second ≤ 60 then
    -- The leap second belongs to the minute before it.
    if second = 60 then some ((hour * 3600 + minute * 60 + 59, 1000000000 + fraction), s)
    else some ((hour * 3600 + minute * 60 + second, fraction), s)
  else none

/-- Reads a day, the letter T or one space, a time of day and an offset from UTC. -/
def parse? (s : List Char) : Option Timestamp := do
  let (date, s) ← day? s
  let s ← match s with
    | 'T' :: rest => some rest
    | 't' :: rest => some rest
    | ' ' :: rest => some rest
    | _ => none
  let ((second, nanoseconds), s) ← clock? s
  let (offset, s) ← offset? (trimStart s)
  if offset.natAbs < 86400 ∧ trimStart s = [] then
    let seconds := date.toDays * 86400 + second - offset
    if firstSecond ≤ seconds ∧ seconds ≤ lastSecond then some ⟨seconds, nanoseconds⟩ else none
  else none

end Timestamp

end CommitHistory
