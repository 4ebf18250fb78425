/-
# Writing YAML

Settings are written as records of records. A text stands without quotation marks unless
it would then be read as something else; line ends make it a block of lines, and
characters that do not show make it a text with escapes.
-/

import CommitHistory.Settings.Outline
import CommitHistory.Text.Numeral
import CommitHistory.Toml.Writer
import CommitHistory.Yaml.Place
import CommitHistory.Yaml.Scalar

namespace CommitHistory.Yaml

open Text Settings

/-- Whether a character shows by itself or is a line feed. -/
def isShown (c : Char) : Bool :=
  let n := c.toNat
  n == 0x0a || (0x20 ≤ n && n ≤ 0x7e) ||
    (0xa0 ≤ n && n != 0xfeff && n != 0xfffe && n != 0xffff)

/-- Whether a text is over or goes on with a blank, a line end or the null character. -/
def endsHere (text : List Char) : Bool := endsWord text || text.head? == some '\x00'

/-- Whether a mark inside a text would end it: a colon before a blank, or a number sign after
one. -/
def hasInnerMark : Bool → List Char → Bool
  | _, [] => false
  | afterBlank, c :: rest =>
    (c == ':' && endsHere rest) || (c == '#' && afterBlank) || hasInnerMark (endsHere [c]) rest

/-- Whether the beginning of a text would be taken for a mark. -/
def hasOuterMark (text : List Char) : Bool :=
  match text with
  | [] => false
  | c :: rest =>
    "---".toList.isPrefixOf text || "...".toList.isPrefixOf text ||
      "#,[]{}&*!|>'\"%@`".toList.contains c ||
      ((c == '?' || c == ':' || c == '-') && endsHere rest)

/-- Whether some pair of neighbours in a text has a property. -/
def anyPair (holds : Char → Char → Bool) : List Char → Bool
  | c :: d :: rest => holds c d || anyPair holds (d :: rest)
  | _ => false

/-- What a text allows: to stand plain, in apostrophes, or as a block of lines. -/
structure Manner where
  plain : Bool
  apostrophes : Bool
  block : Bool

/-- What a text allows. -/
def Manner.of (text : List Char) : Manner :=
  if text.isEmpty then { plain := true, apostrophes := true, block := false }
  else
    let isEdge : Option Char → Bool := fun c => c.any fun c => c == ' ' || isBreak c
    let edge := isEdge text.head? || isEdge text.getLast?
    let breakSpace := anyPair (fun c d => isBreak c && d == ' ') text
    let spaceBreak := anyPair (fun c d => c == ' ' && isBreak d) text
    let hidden := text.any fun c => !isShown c
    let marked := hasOuterMark text || hasInnerMark true text
    { plain := !edge && !breakSpace && !spaceBreak && !hidden && !marked && !text.any isBreak
      apostrophes := !breakSpace && !spaceBreak && !hidden
      block := text.getLast? != some ' ' && !spaceBreak && !hidden }

/-- A number in so many hexadecimal digits. -/
def hexDigits (width n : Nat) : List Char :=
  (List.range width).reverse.map fun place => Toml.hexDigit (n / Nat.pow 16 place % 16)

/-- One character between quotation marks. -/
def escape (c : Char) : List Char :=
  match c with
  | '\x00' => ['\\', '0']
  | '\x07' => ['\\', 'a']
  | '\x08' => ['\\', 'b']
  | '\t' => ['\\', 't']
  | '\n' => ['\\', 'n']
  | '\x0b' => ['\\', 'v']
  | '\x0c' => ['\\', 'f']
  | '\r' => ['\\', 'r']
  | '\x1b' => ['\\', 'e']
  | '"' => ['\\', '"']
  | '\\' => ['\\', '\\']
  | '\u0085' => ['\\', 'N']
  | '\u2028' => ['\\', 'L']
  | '\u2029' => ['\\', 'P']
  | _ =>
    if isShown c then [c]
    else if c.toNat ≤ 0xff then '\\' :: 'x' :: hexDigits 2 c.toNat
    else if c.toNat ≤ 0xffff then '\\' :: 'u' :: hexDigits 4 c.toNat
    else '\\' :: 'U' :: hexDigits 8 c.toNat

/-- A text between quotation marks. -/
def quoted (text : List Char) : List Char := '"' :: text.flatMap escape ++ ['"']

/-- The blanks before the lines of a text. -/
def lineIndent : List Char := List.replicate 4 ' '

/-- Characters with an indentation before those that begin a line. `isNew` says whether the first
character begins one. An empty line has no indentation. -/
def indented (write : Char → List Char) : Bool → List Char → List Char
  | _, [] => []
  | isNew, c :: rest =>
    if isBreak c then c :: indented write true rest
    else (if isNew then lineIndent else []) ++ write c ++ indented write false rest

/-- A text between apostrophes. Behind a line end, the closing one is indented as well. -/
def apostrophed (text : List Char) : List Char :=
  let write := fun c => if c = '\'' then ['\'', '\''] else [c]
  let closing := if text.getLast?.any isBreak then lineIndent else []
  '\'' :: indented write false text ++ closing ++ ['\'']

/-- A text as a block of lines. The signs after the bar say how the lines are indented if that
cannot be seen, and what becomes of the line ends behind the last line. -/
def blockOf (text : List Char) : List Char :=
  let startsBlank := text.head?.any fun c => c == ' ' || isBreak c
  let sign : List Char :=
    match (text.reverse.takeWhile isBreak).length with
    | 0 => ['-']
    | 1 => if text.length = 1 then ['+'] else []
    | _ => ['+']
  '|' :: (if startsBlank then ['2'] else []) ++ sign ++ '\n' :: indented (fun c => [c]) true text

/-- A text as a value. -/
def textValue (text : List Char) : List Char :=
  let manner := Manner.of text
  let inApostrophes := if manner.apostrophes then apostrophed text else quoted text
  if text.contains '\n' then if manner.block then blockOf text else quoted text
  else if isSpecial text || isZeroPadded text then inApostrophes
  else if manner.plain then text
  else inApostrophes

/-- A value. -/
def scalar : Scalar → List Char
  | .text value => textValue value.toList
  | .count value => Numeral.ofNat value
  | .flag value => if value then "true".toList else "false".toList
  | .nothing => "null".toList

/-- A key with its value on a line. A block may end its last line itself. -/
def entry (entry : String × Scalar) : List Char :=
  let value := scalar entry.2
  let ending := if value.getLast?.any isBreak then [] else ['\n']
  "  ".toList ++ entry.1.toList ++ ": ".toList ++ value ++ ending

/-- A record under its key. -/
def part (part : String × Section) : List Char :=
  part.1.toList ++ [':', '\n'] ++ part.2.flatMap entry

/-- Records under their keys. -/
def write (outline : List (String × Section)) : List Char := outline.flatMap part

end CommitHistory.Yaml
