/-
# Reading TOML

A document is a sequence of lines: keys with values, and headers that say which table
the keys below them belong to. A value may go over several lines only inside brackets
and inside strings of several lines. No key may be given twice.
-/

import CommitHistory.Toml.Scalar

namespace CommitHistory.Toml

open Text

/-- What follows blanks. -/
def skipBlanks (s : List Char) : List Char := s.dropWhile fun c => c == ' ' || c == '\t'

/-- What follows a comment, if there is one. A comment holds no control characters. -/
def skipComment? (s : List Char) : Option (List Char) :=
  match s with
  | '#' :: rest =>
    let comment := rest.takeWhile fun c => c != '\n' && c != '\r'
    if comment.all isPrintable then some (rest.drop comment.length) else none
  | _ => some s

/-- What follows the end of a line, which may hold a comment. -/
def endLine? (s : List Char) : Option (List Char) :=
  match skipComment? (skipBlanks s) with
  | none => none
  | some [] => some []
  | some rest => lineEnd? rest

/-- What follows blanks, comments and line ends. -/
def skipSpace? : Nat → List Char → Option (List Char)
  | 0, _ => none
  | bound + 1, s =>
    match skipComment? (skipBlanks s) with
    | none => none
    | some rest =>
      match lineEnd? rest with
      | some rest => skipSpace? bound rest
      | none => some rest

/-- Whether a character may stand in a key without quotation marks. -/
def isKeyChar (c : Char) : Bool := c.isAlphanum || c == '-' || c == '_'

/-- Reads one part of a key. -/
def keyPart? (s : List Char) : Option (List Char × List Char) :=
  match quoted? s with
  | some found => some found
  | none =>
    let key := s.takeWhile isKeyChar
    if key.isEmpty then none else some (key, s.drop key.length)

/-- Reads parts of a key with points between them, at most so many. -/
def keyParts? : Nat → List Char → Option (List (List Char) × List Char)
  | 0, _ => none
  | limit + 1, s => do
    let (part, rest) ← keyPart? (skipBlanks s)
    match skipBlanks rest with
    | '.' :: rest => (keyParts? limit rest).map fun found => (part :: found.1, found.2)
    | rest => some ([part], rest)

/-- How many parts a key may have, and how many brackets may stand around each other. -/
def depthLimit : Nat := 79

/-- Reads a key. -/
def key? (s : List Char) : Option (List (List Char) × List Char) := keyParts? depthLimit s

/-- What follows the equals sign. -/
def skipEquals? (s : List Char) : Option (List Char) :=
  match skipBlanks s with
  | '=' :: rest => some (skipBlanks rest)
  | _ => none

mutual

/-- Reads a value, inside which so many brackets may stand around each other. -/
def value? : Nat → Nat → List Char → Option (Value × List Char)
  | 0, _, _ => none
  | bound + 1, depth, s =>
    match s with
    | '[' :: rest =>
      match depth with
      | 0 => none
      | depth + 1 => do
        let (items, rest) ← items? bound depth rest
        some (.list items, rest)
    | '{' :: rest =>
      match depth, skipBlanks rest with
      | 0, _ => none
      | _ + 1, '}' :: rest => some (.inline [], rest)
      | depth + 1, rest => do
        let (entries, rest) ← entries? bound depth [] rest
        some (.inline entries, rest)
    | '"' :: _ => (string? s).map fun found => (.text found.1, found.2)
    | '\'' :: _ => (string? s).map fun found => (.text found.1, found.2)
    | 't' :: _ => (dropPrefix? "true".toList s).map fun rest => (.flag true, rest)
    | 'f' :: _ => (dropPrefix? "false".toList s).map fun rest => (.flag false, rest)
    | _ => number? s

/-- Reads the items of a list up to its closing bracket. -/
def items? : Nat → Nat → List Char → Option (List Value × List Char)
  | 0, _, _ => none
  | bound + 1, depth, s =>
    match skipSpace? (s.length + 1) s with
    | none => none
    | some (']' :: rest) => some ([], rest)
    | some rest =>
      match value? bound depth rest with
      | none => none
      | some (value, rest) =>
        match skipSpace? (rest.length + 1) rest with
        | some (']' :: rest) => some ([value], rest)
        | some (',' :: rest) =>
          (items? bound depth rest).map fun found => (value :: found.1, found.2)
        | _ => none

/-- Reads the entries of a table in braces up to its closing brace. -/
def entries? : Nat → Nat → Entries → List Char → Option (Entries × List Char)
  | 0, _, _, _ => none
  | bound + 1, depth, known, s =>
    match key? s with
    | none => none
    | some (key, rest) =>
      match (skipEquals? rest).bind (value? bound depth) with
      | none => none
      | some (value, rest) =>
        match known.put key value with
        -- The key is there already.
        | none => none
        | some known =>
          match skipBlanks rest with
          | '}' :: rest => some (known, rest)
          | ',' :: rest => entries? bound depth known rest
          | _ => none

end

/-- What has been read of a document: its entries, and the header that the next keys stand
under. -/
structure Document where
  entries : Entries
  header : List (List Char)

/-- Reads one line. -/
def line? (document : Document) (s : List Char) : Option (Document × List Char) :=
  match skipBlanks s with
  | '[' :: '[' :: rest => do
    let (key, rest) ← key? rest
    let rest ← dropPrefix? [']', ']'] rest
    let entries ← document.entries.addTable key
    let rest ← endLine? rest
    some ({ entries, header := key }, rest)
  | '[' :: rest => do
    let (key, rest) ← key? rest
    let rest ← dropPrefix? [']'] rest
    let entries ← document.entries.openTable key
    let rest ← endLine? rest
    some ({ entries, header := key }, rest)
  | rest =>
    match endLine? rest with
    | some rest => some (document, rest)
    | none => do
      let (key, rest) ← key? rest
      let rest ← skipEquals? rest
      let (value, rest) ← value? (2 * rest.length + 2) depthLimit rest
      let entries ← document.entries.putIn document.header key value
      let rest ← endLine? rest
      some ({ document with entries }, rest)

/-- Reads the lines of a document. -/
def lines? : Nat → Document → List Char → Option Document
  | 0, _, _ => none
  | _, document, [] => some document
  | bound + 1, document, s => (line? document s).bind fun found => lines? bound found.1 found.2

/-- The entries of a document, which may begin with a byte order mark. -/
def read? (text : List Char) : Option Entries :=
  let body := if text.head? = some '\ufeff' then text.tail else text
  (lines? (body.length + 1) { entries := [], header := [] } body).map Document.entries

end CommitHistory.Toml
