/-
# The size line

After a commit one line may tell the size of its change: how many files changed, then
how many lines were inserted and how many were deleted, where the last two are left
out when they are zero. Blanks may stand before and after, and nothing else.
-/

import CommitHistory.Commit
import CommitHistory.Text.Blank
import CommitHistory.Text.Digit
import CommitHistory.Text.Lines
import CommitHistory.Text.Numeral

namespace CommitHistory.Shortstat

open Text

/-- Reads a run of decimal digits of any script. -/
def digits? (s : List Char) : Option (List Char × List Char) :=
  let run := s.takeWhile isDecimalDigit
  if run.isEmpty then none else some (run, s.dropWhile isDecimalDigit)

/-- Reads a noun in the singular or with an s. -/
def noun? (noun s : List Char) : Option (List Char) := do
  let rest ← dropPrefix? noun s
  some ((dropPrefix? ['s'] rest).getD rest)

/-- Reads a comma, a count, a noun and a mark in brackets. -/
def part? (noun mark s : List Char) : Option (List Char × List Char) := do
  let rest ← dropPrefix? ", ".toList s
  let (run, rest) ← digits? rest
  let rest ← noun? noun rest
  let rest ← dropPrefix? mark rest
  some (run, rest)

/-- The value of a run of digits; a run that is no count has none. -/
def countOf (run : List Char) : Nat := (Numeral.natUpTo? Numeral.maxCount run).getD 0

/-- The size of a change that a line tells. -/
def parse? (line : List Char) : Option Statistics := do
  let (files, rest) ← digits? (trimStart line)
  let rest ← noun? " file".toList rest
  let rest ← dropPrefix? " changed".toList rest
  let (insertions, rest) := (part? " insertion".toList "(+)".toList rest).getD ([], rest)
  let (deletions, rest) := (part? " deletion".toList "(-)".toList rest).getD ([], rest)
  if trimStart rest = [] then
    some ⟨countOf files, countOf insertions, countOf deletions⟩
  else none

end CommitHistory.Shortstat
