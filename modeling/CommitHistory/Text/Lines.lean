/-
# Cutting a text

A text is cut at every separator (`splitOn`), at the first few separators
(`splitAtMost`), at a separator of two characters (`splitOnPair`) and into lines.
A line ends at a line feed, with a carriage return before it taken away, and a
line feed at the very end opens no further line.
-/

namespace CommitHistory.Text

/-- The pieces between the occurrences of one character; a text without it is one piece. -/
def splitOn (separator : Char) : List Char → List (List Char)
  | [] => [[]]
  | c :: rest =>
    if c = separator then [] :: splitOn separator rest
    else match splitOn separator rest with
      | [] => [[c]]
      | piece :: pieces => (c :: piece) :: pieces

/-- The pieces between the first `cuts` occurrences of one character; the last piece keeps
every later occurrence. -/
def splitAtMost (separator : Char) : Nat → List Char → List (List Char)
  | 0, text => [text]
  | _ + 1, [] => [[]]
  | cuts + 1, c :: rest =>
    if c = separator then [] :: splitAtMost separator cuts rest
    else match splitAtMost separator (cuts + 1) rest with
      | [] => [[c]]
      | piece :: pieces => (c :: piece) :: pieces

/-- The pieces between the occurrences of two characters in a row, found from the left. -/
def splitOnPair (first second : Char) : List Char → List (List Char)
  | [] => [[]]
  | [c] => [[c]]
  | c :: d :: rest =>
    if c = first ∧ d = second then [] :: splitOnPair first second rest
    else match splitOnPair first second (d :: rest) with
      | [] => [[c]]
      | piece :: pieces => (c :: piece) :: pieces

/-- A line without the carriage return that may end it. -/
def dropReturn (line : List Char) : List Char :=
  if line.getLast? = some '\r' then line.dropLast else line

/-- The lines of a text. Only a line that a line feed ends can lose a carriage return. -/
def lines (text : List Char) : List (List Char) :=
  let pieces := splitOn '\n' text
  let ended := pieces.dropLast.map dropReturn
  match pieces.getLast? with
  | none => ended
  | some last => if last.isEmpty then ended else ended ++ [last]

/-- What follows a given beginning, if the text has it. -/
def dropPrefix? (start text : List Char) : Option (List Char) :=
  if start.isPrefixOf text then some (text.drop start.length) else none

/-- What stands before the first occurrence of a character, and what follows it. -/
def cutAt (separator : Char) : List Char → Option (List Char × List Char)
  | [] => none
  | c :: rest =>
    if c = separator then some ([], rest)
    else (cutAt separator rest).map fun parts => (c :: parts.1, parts.2)

/-- ASCII capitals become small letters and every other character stays. -/
def toLowerAscii (s : String) : String := String.ofList (s.toList.map Char.toLower)

end CommitHistory.Text
