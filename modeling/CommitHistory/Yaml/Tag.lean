/-
# Tags of YAML nodes

A tag is written behind an exclamation mark. Between angle brackets it is complete;
otherwise a handle stands for its beginning, which a directive may set. Some characters
are written as bytes behind percent signs, so a tag need not be a text.
-/

import CommitHistory.Json.Reader
import CommitHistory.Text.Utf8
import CommitHistory.Yaml.Place

namespace CommitHistory.Yaml

open Text

/-- A tag: its text, unless its bytes are none. -/
structure Tag where
  text? : Option (List Char)
deriving DecidableEq, Repr

namespace Tag

/-- The tag of bytes. -/
def ofBytes (bytes : List UInt8) : Tag := ⟨Utf8.decode? bytes⟩

/-- The tag with a text. -/
def named (text : String) : Tag := ⟨some text.toList⟩

/-- What the tags of the types of values begin with. -/
def commonStart : String := "tag:yaml.org,2002:"

/-- A tag as it is written: a handle, which may be empty, and the bytes behind it. -/
structure Written where
  handle : List Char
  bytes : List UInt8

/-- Whether a character stands for itself in a tag. In a complete tag a few more do. -/
def isChar (complete : Bool) (c : Char) : Bool :=
  isNameChar c || ";/?:@&=+$.!~*'()".toList.contains c || (complete && ",[]".toList.contains c)

/-- Reads a byte behind a percent sign. -/
def byte? : List Char → Option (Nat × List Char)
  | '%' :: a :: b :: rest => do some (16 * (← Json.hexValue? a) + (← Json.hexValue? b), rest)
  | _ => none

/-- How many bytes follow the first byte of a character. -/
def following? (lead : Nat) : Option Nat :=
  if lead < 0x80 then some 0
  else if lead < 0xc0 then none
  else if lead < 0xe0 then some 1
  else if lead < 0xf0 then some 2
  else if lead < 0xf8 then some 3
  else none

/-- Reads so many further bytes of a character. -/
def further? : Nat → List Char → Option (List UInt8 × List Char)
  | 0, s => some ([], s)
  | count + 1, s => do
    let (byte, rest) ← byte? s
    if 0x80 ≤ byte ∧ byte < 0xc0 then
      (further? count rest).map fun found => (UInt8.ofNat byte :: found.1, found.2)
    else none

/-- Reads a character that is written as bytes. -/
def escaped? (s : List Char) : Option (List UInt8 × List Char) := do
  let (lead, rest) ← byte? s
  let (bytes, rest) ← further? (← following? lead) rest
  some (UInt8.ofNat lead :: bytes, rest)

/-- Reads the characters of a tag. -/
def bytesFrom? (complete : Bool) : Nat → List Char → Option (List UInt8 × List Char)
  | 0, s => some ([], s)
  | bound + 1, s =>
    match s with
    | [] => some ([], [])
    | c :: rest =>
      if c = '%' then do
        let (bytes, rest) ← escaped? s
        (bytesFrom? complete bound rest).map fun found => (bytes ++ found.1, found.2)
      else if isChar complete c then
        (bytesFrom? complete bound rest).map fun found => (Utf8.encode [c] ++ found.1, found.2)
      else some ([], s)

/-- Reads characters of a tag, at least one. Nothing behind a null byte counts. -/
def bytes? (complete : Bool) (s : List Char) : Option (List UInt8 × List Char) := do
  let (bytes, rest) ← bytesFrom? complete s.length s
  if rest.length = s.length then none else some (bytes.takeWhile (· ≠ 0), rest)

/-- Reads a tag behind its exclamation mark. -/
def read? (s : List Char) : Option (Written × List Char) :=
  match s with
  | '<' :: rest => do
    let (bytes, rest) ← bytes? true rest
    match rest with
    | '>' :: rest => some ({ handle := [], bytes }, rest)
    | _ => none
  | _ =>
    let name := s.takeWhile isNameChar
    match s.drop name.length with
    | '!' :: rest =>
      (bytes? false rest).map fun found =>
        ({ handle := '!' :: name ++ ['!'], bytes := found.1 }, found.2)
    | _ => do
      let (bytes, rest) ← bytesFrom? false s.length s
      match bytes.takeWhile (· ≠ 0) with
      | [] => some ({ handle := [], bytes := Utf8.encode ['!'] }, rest)
      | bytes => some ({ handle := ['!'], bytes }, rest)

/-- Reads a handle and what it stands for, as a directive sets them. -/
def directive? (s : List Char) : Option (Written × List Char) :=
  match s with
  | '!' :: rest => do
    let name := rest.takeWhile isNameChar
    let (handle, rest) ← match rest.drop name.length with
      | '!' :: rest => some ('!' :: name ++ ['!'], rest)
      | rest => if name.isEmpty then some (['!'], rest) else none
    if (rest.takeWhile isBlank).isEmpty then none
    else
      let (bytes, rest) ← bytes? true (rest.dropWhile isBlank)
      some ({ handle, bytes }, rest)
  | _ => none

end Tag

end CommitHistory.Yaml
