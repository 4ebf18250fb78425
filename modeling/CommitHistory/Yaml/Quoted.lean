/-
# Quoted YAML scalars

A scalar in apostrophes or in quotation marks may go over several lines, whose ends are
folded. Between apostrophes only the apostrophe itself is written in another way, twice;
between quotation marks a backslash begins an escape, or takes a line end away.
-/

import CommitHistory.Json.Reader
import CommitHistory.Yaml.Place

namespace CommitHistory.Yaml

/-- The character with a number in hexadecimal digits. -/
def charOfHex? (digits : List Char) : Option Char := do
  let values ← digits.mapM Json.hexValue?
  let n := values.foldl (fun n value => 16 * n + value) 0
  if n < 0x110000 ∧ ¬(0xd800 ≤ n ∧ n ≤ 0xdfff) then some (Char.ofNat n) else none

/-- The character that a letter stands for after a backslash. -/
def shortEscape? : Char → Option Char
  | '0' => some '\x00'
  | 'a' => some '\x07'
  | 'b' => some '\x08'
  | 't' => some '\t'
  | '\t' => some '\t'
  | 'n' => some '\n'
  | 'v' => some '\x0b'
  | 'f' => some '\x0c'
  | 'r' => some '\r'
  | 'e' => some '\x1b'
  | ' ' => some ' '
  | '"' => some '"'
  | '/' => some '/'
  | '\\' => some '\\'
  | 'N' => some '\u0085'
  | '_' => some '\u00a0'
  | 'L' => some '\u2028'
  | 'P' => some '\u2029'
  | _ => none

/-- The character of an escape after its backslash, and the length of the escape. -/
def escape? : List Char → Option (Char × Nat)
  | 'x' :: a :: b :: _ => (charOfHex? [a, b]).map (·, 3)
  | 'u' :: a :: b :: c :: d :: _ => (charOfHex? [a, b, c, d]).map (·, 5)
  | 'U' :: a :: b :: c :: d :: e :: f :: g :: h :: _ =>
    (charOfHex? [a, b, c, d, e, f, g, h]).map (·, 9)
  | letter :: _ => (shortEscape? letter).map (·, 1)
  | [] => none

/-- Reads a quoted scalar after its opening mark. -/
def quoted? (mark : Char) : Nat → Place → Option (List Char × Place)
  | 0, _ => none
  | bound + 1, place =>
    if place.isMarker then none
    else match place.rest with
    | [] => none
    | c :: rest =>
      if c = mark then
        if mark = '\'' ∧ rest.head? = some '\'' then
          (quoted? mark bound (place.skip 2)).map fun found => ('\'' :: found.1, found.2)
        else some ([], place.skip 1)
      else if c = '\\' ∧ mark = '"' then
        match (place.skip 1).lineEnd? with
        | some (_, next) => do
          let (gap, next) ← Gap.read? 0 (next.rest.length + 1) false next
          (quoted? mark bound next).map fun found => (gap.breaks ++ found.1, found.2)
        | none => do
          let (escaped, length) ← escape? rest
          let (text, place) ← quoted? mark bound (place.skip (1 + length))
          some (escaped :: text, place)
      else if isBlank c ∨ isBreak c then do
        let (gap, next) ← Gap.read? 0 (place.rest.length + 1) true place
        (quoted? mark bound next).map fun found => (gap.folded ++ found.1, found.2)
      else (quoted? mark bound (place.skip 1)).map fun found => (c :: found.1, found.2)

end CommitHistory.Yaml
