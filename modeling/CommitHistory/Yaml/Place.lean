/-
# Places in a YAML text

A place is what follows it and how far it lies from the beginning: in characters, in
lines, and in columns of its line. Between two words there may be a gap of blanks and
line ends, which is folded into less.

## Main definitions

* `Place`, `Place.lineEnd?` — places and line ends.
* `Gap`, `Gap.folded` — what stands between two words, and what it stands for.
-/

import CommitHistory.Text.Lines

namespace CommitHistory.Yaml

/-- A blank inside a line. -/
def isBlank (c : Char) : Bool := c == ' ' || c == '\t'

/-- A line end: the line feed, the carriage return, and three further characters of Unicode. -/
def isBreak (c : Char) : Bool :=
  c == '\n' || c == '\r' || c == '\u0085' || c == '\u2028' || c == '\u2029'

/-- Whether a character may stand in a text. Controls may not, apart from the tab and line ends. -/
def isAllowed (c : Char) : Bool :=
  let n := c.toNat
  c == '\t' || c == '\n' || c == '\r' || c == '\u0085' || (0x20 ≤ n && n ≤ 0x7e) ||
    (0xa0 ≤ n && n != 0xfffe && n != 0xffff)

/-- A character of names and of the handles of tags. -/
def isNameChar (c : Char) : Bool := c.isAlphanum || c == '_' || c == '-'

/-- Whether a text begins with a blank or a line end, or is over. -/
def endsWord (s : List Char) : Bool :=
  match s with
  | [] => true
  | c :: _ => isBlank c || isBreak c

/-- A place in a text: what follows, how many characters and lines come before, and the column. -/
structure Place where
  rest : List Char
  index : Nat
  line : Nat
  column : Nat

namespace Place

/-- The first place of a text. -/
def first (text : List Char) : Place := { rest := text, index := 0, line := 0, column := 0 }

/-- The place so many characters further in the same line. -/
def skip (place : Place) (count : Nat) : Place :=
  { place with
    rest := place.rest.drop count
    index := place.index + count
    column := place.column + count }

/-- The place at the beginning of the next line, after so many characters. -/
def nextLine (place : Place) (count : Nat) : Place :=
  { rest := place.rest.drop count, index := place.index + count,
    line := place.line + 1, column := 0 }

/-- The line end here, if there is one, and the place after it. The line and the paragraph separator
are kept, any other line end is a line feed. -/
def lineEnd? (place : Place) : Option (Char × Place) :=
  match place.rest with
  | '\r' :: '\n' :: _ => some ('\n', place.nextLine 2)
  | c :: _ =>
    if c = '\u2028' ∨ c = '\u2029' then some (c, place.nextLine 1)
    else if isBreak c then some ('\n', place.nextLine 1)
    else none
  | [] => none

/-- The place after blanks in the same line. -/
def skipBlanks (place : Place) : Place := place.skip (place.rest.takeWhile isBlank).length

/-- The place after a comment in the same line, if there is one. -/
def skipComment (place : Place) : Place :=
  match place.rest with
  | '#' :: _ => place.skip (place.rest.takeWhile fun c => !isBreak c).length
  | _ => place

/-- The place after the end of the line or of the text, which blanks and a comment may come
before. -/
def endLine? (place : Place) : Option Place :=
  let place := place.skipBlanks.skipComment
  if place.rest.isEmpty then some place else place.lineEnd?.map (·.2)

/-- Whether three of a mark stand alone at the beginning of the line. -/
def isMarkerOf (mark : Char) (place : Place) : Bool :=
  place.column == 0 && place.rest.take 3 == List.replicate 3 mark && endsWord (place.rest.drop 3)

/-- Whether a marker of the start or the end of a document stands here. -/
def isMarker (place : Place) : Bool := place.isMarkerOf '-' || place.isMarkerOf '.'

end Place

/-- What stands between two words: blanks, or line ends with blanks around them. -/
structure Gap where
  blanks : List Char
  breaks : List Char

namespace Gap

/-- No gap. -/
def none : Gap := { blanks := [], breaks := [] }

/-- What a gap stands for. A single line feed is a blank, and the first of several is dropped. -/
def folded (gap : Gap) : List Char :=
  match gap.breaks with
  | [] => gap.blanks
  | ['\n'] => [' ']
  | '\n' :: rest => rest
  | breaks => breaks

/-- The gap from a place on, and the place after it. Blanks count only as long as no line end has
come. After a line end, no tab may stand left of a column. -/
def read? (least : Nat) : Nat → Bool → Place → Option (Gap × Place)
  | 0, _, _ => Option.none
  | bound + 1, inLine, place =>
    match place.lineEnd? with
    | some (c, next) =>
      (read? least bound false next).map fun (gap, place) =>
        ({ gap with breaks := c :: gap.breaks }, place)
    | Option.none =>
      match place.rest with
      | [] => some (none, place)
      | c :: _ =>
        if !isBlank c then some (none, place)
        else if !inLine && c == '\t' && place.column < least then Option.none
        else
          (read? least bound inLine (place.skip 1)).map fun (gap, place) =>
            ({ gap with blanks := if inLine then c :: gap.blanks else gap.blanks }, place)

end Gap

end CommitHistory.Yaml
