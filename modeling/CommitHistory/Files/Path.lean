/-
# Paths

A path is cut at its slashes. Repeated slashes and single dots add nothing, so the
name of a file is found also in a path that ends in a slash.
-/

import CommitHistory.Text.Lines

namespace CommitHistory.Files

open Text

/-- The parts of a path that name something: neither empty nor a single dot. -/
def parts (path : String) : List (List Char) :=
  (splitOn '/' path.toList).filter fun part => !part.isEmpty && part != ['.']

/-- Whether a path is followed from the root. -/
def isAbsolute (path : String) : Bool := path.toList.head? == some '/'

/-- The last name in a path, unless it leads upwards. -/
def fileName? (path : String) : Option (List Char) :=
  (parts path).getLast?.filter (· ≠ ['.', '.'])

/-- What follows the last dot of a name that does not begin with its only dot. -/
def extension? (path : String) : Option (List Char) := do
  let name ← fileName? path
  let ending := (name.reverse.takeWhile (· ≠ '.')).reverse
  if ending.length + 1 < name.length then some ending else none

end CommitHistory.Files
