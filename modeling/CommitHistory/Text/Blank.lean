/-
# Blank characters

A character is blank when it has the Unicode property White_Space. Trimming and
splitting into words go by this one class, so a no-break space or a line
separator is trimmed like a space and a zero-width space is not.
-/

namespace CommitHistory.Text

/-- The twenty-five characters with the Unicode property White_Space. -/
def isBlank (c : Char) : Bool :=
  ('\t' ≤ c && c ≤ '\r') || c == ' ' || c == '\u0085' || c == '\u00a0' || c == '\u1680' ||
    ('\u2000' ≤ c && c ≤ '\u200a') || c == '\u2028' || c == '\u2029' || c == '\u202f' ||
    c == '\u205f' || c == '\u3000'

/-- What is left after the leading blanks. -/
def trimStart (s : List Char) : List Char := s.dropWhile isBlank

/-- What is left before the trailing blanks. -/
def trimEnd (s : List Char) : List Char := (s.reverse.dropWhile isBlank).reverse

/-- A text without the blanks at its two ends. -/
def trim (s : List Char) : List Char := trimEnd (trimStart s)

/-- The longest runs of characters that are not blank, in order. -/
def words : List Char → List (List Char)
  | [] => []
  | c :: rest =>
    if isBlank c then words rest
    else match rest, words rest with
      | [], _ => [[c]]
      | d :: _, tail =>
        if isBlank d then [c] :: tail
        else match tail with
          | [] => [[c]]
          | w :: ws => (c :: w) :: ws

end CommitHistory.Text
