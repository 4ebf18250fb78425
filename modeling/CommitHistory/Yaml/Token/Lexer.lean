/-
# Cutting a YAML text into tokens

A key has no sign of its own before it: only the colon behind it shows that it is one.
Every token that could be a key is remembered until the colon comes, the line ends, or
too much stands in between. The sign for the key is then put in front of it.

Outside brackets the columns of keys and dashes make blocks. A block begins with the
first of them and ends with the first token further to the left.

## Main definitions

* `Lexer` — what has been read, and where the next token is looked for.
* `Lexer.read?` — reading one token.
* `Token.ofText?` — the tokens of a text.
-/

import CommitHistory.Text.Numeral
import CommitHistory.Yaml.Block
import CommitHistory.Yaml.Plain
import CommitHistory.Yaml.Quoted
import CommitHistory.Yaml.Token

namespace CommitHistory.Yaml

open Text

/-- A place where a key may have begun. -/
structure Candidate where
  /-- Whether nothing but a key can have begun there. -/
  required : Bool
  /-- How many tokens come before. -/
  number : Nat
  place : Place

/-- Whether a key that began at a place cannot end any more: it must be short and in one line. -/
def Candidate.isStale (candidate : Candidate) (place : Place) : Bool :=
  candidate.place.line < place.line || candidate.place.index + 1024 < place.index

/-- What has been read of a text. -/
structure Lexer where
  place : Place
  /-- The tokens, the last one first. -/
  tokens : List Token
  /-- The least column of what lies inside the innermost block. -/
  depth : Nat
  /-- The least columns for the blocks around it, the innermost first. -/
  outer : List Nat
  /-- Where a key may have begun, inside the innermost brackets. -/
  candidate : Option Candidate
  /-- The same for what lies around each open bracket, the innermost first. -/
  outerCandidates : List (Option Candidate)
  /-- Whether a key can begin here. -/
  allowsKey : Bool

namespace Lexer

/-- The beginning of a text, which may have a byte order mark. -/
def start (text : List Char) : Lexer :=
  { place := Place.first (if text.head? = some '\ufeff' then text.tail else text)
    tokens := []
    depth := 0
    outer := []
    candidate := none
    outerCandidates := []
    allowsKey := true }

/-- Whether brackets are open. -/
def inFlow (lexer : Lexer) : Bool := !lexer.outerCandidates.isEmpty

/-- A bound for whatever is read from here. -/
def bound (lexer : Lexer) : Nat := lexer.place.rest.length + 1

/-- Adds a token. -/
def emit (lexer : Lexer) (token : Token) : Lexer := { lexer with tokens := token :: lexer.tokens }

/-- Adds a token of so many characters. -/
def take (lexer : Lexer) (length : Nat) (token : Token) : Lexer :=
  { lexer with place := lexer.place.skip length, tokens := token :: lexer.tokens }

/-- Puts tokens after the first ones, of which there are so many. -/
def insert (lexer : Lexer) (number : Nat) (tokens : List Token) : Lexer :=
  let (later, earlier) := lexer.tokens.splitAt (lexer.tokens.length - number)
  { lexer with tokens := later ++ tokens.reverse ++ earlier }

/-- Gives up the place where a key may have begun, unless it had to be a key. -/
def dropCandidate? (lexer : Lexer) : Option Lexer :=
  if lexer.candidate.any Candidate.required then none else some { lexer with candidate := none }

/-- Remembers that a key may begin here. In the column of the block nothing else can. -/
def saveCandidate? (lexer : Lexer) : Option Lexer :=
  if lexer.allowsKey then
    lexer.dropCandidate?.map fun lexer =>
      { lexer with
        candidate := some {
          required := !lexer.inFlow && lexer.depth = lexer.place.column + 1
          number := lexer.tokens.length
          place := lexer.place } }
  else some lexer

/-- A candidate, unless it is stale. A stale one that had to be a key is a mistake. -/
def freshCandidate? (place : Place) : Option Candidate → Option (Option Candidate)
  | none => some none
  | some candidate =>
    if !candidate.isStale place then some (some candidate)
    else if candidate.required then none
    else some none

/-- Gives up places where keys cannot have begun. -/
def dropStale? (lexer : Lexer) : Option Lexer := do
  let candidate ← freshCandidate? lexer.place lexer.candidate
  let outerCandidates ← lexer.outerCandidates.mapM (freshCandidate? lexer.place)
  some { lexer with candidate, outerCandidates }

/-- Makes room for a block in a column, if there is none. -/
def indent (lexer : Lexer) (column : Nat) : Lexer :=
  { lexer with depth := column + 1, outer := lexer.depth :: lexer.outer }

/-- Whether a block begins in a column. -/
def beginsBlock (lexer : Lexer) (column : Nat) : Bool := !lexer.inFlow && lexer.depth ≤ column

/-- Begins a block here, if there is none in this column. -/
def openBlock (lexer : Lexer) (token : Token) : Lexer :=
  let column := lexer.place.column
  if lexer.beginsBlock column then (lexer.indent column).emit token else lexer

/-- The blocks that are left when those inside a column end, with an end for each of the others. -/
def endBlocks (depth : Nat) : Nat → List Nat → List Token → Nat × List Nat × List Token
  | inner, [], tokens => (inner, [], tokens)
  | inner, next :: outer, tokens =>
    if depth < inner then endBlocks depth next outer (.blockEnd :: tokens)
    else (inner, next :: outer, tokens)

/-- Ends the blocks whose contents lie deeper. Brackets may stand in any column. -/
def closeBlocks (lexer : Lexer) (depth : Nat) : Lexer :=
  if lexer.inFlow then lexer
  else
    let (depth, outer, tokens) := endBlocks depth lexer.depth lexer.outer lexer.tokens
    { lexer with depth, outer, tokens }

/-- Goes to the next token, over blanks, comments and line ends. Tabs do not count as blanks where
a key can begin. -/
def toToken : Nat → Lexer → Lexer
  | 0, lexer => lexer
  | bound + 1, lexer =>
    let place := lexer.place
    let place :=
      if place.column = 0 ∧ place.rest.head? = some '\ufeff' then place.skip 1 else place
    let skipsTabs := lexer.inFlow || !lexer.allowsKey
    let blanks := place.rest.takeWhile fun c => c == ' ' || (skipsTabs && c == '\t')
    let place := (place.skip blanks.length).skipComment
    match place.lineEnd? with
    | some (_, next) =>
      toToken bound { lexer with place := next, allowsKey := lexer.allowsKey || !lexer.inFlow }
    | none => { lexer with place }

/-- Ends everything that indentation holds together. -/
def reset? (lexer : Lexer) : Option Lexer :=
  (lexer.closeBlocks 0).dropCandidate?.map fun lexer => { lexer with allowsKey := false }

/-- Reads a number of at most nine digits. -/
def versionNumber? (s : List Char) : Option (Nat × List Char) :=
  let digits := s.takeWhile Char.isDigit
  if 9 < digits.length then none
  else (Numeral.digits? digits).map (·, s.drop digits.length)

/-- Reads the version behind the name of its directive. -/
def version? (s : List Char) : Option (Token × List Char) := do
  let (major, rest) ← versionNumber? (s.dropWhile isBlank)
  match rest with
  | '.' :: rest => (versionNumber? rest).map fun found => (.version major found.1, found.2)
  | _ => none

/-- Reads a directive up to the end of its line. -/
def directive? (lexer : Lexer) : Option Lexer := do
  let lexer ← lexer.reset?
  let body := lexer.place.rest.tail
  let name := body.takeWhile isNameChar
  let rest := body.drop name.length
  let (token, rest) ←
    if !endsWord rest then none
    else if name = "YAML".toList then version? rest
    else if name = "TAG".toList then
      (Tag.directive? (rest.dropWhile isBlank)).bind fun found =>
        if endsWord found.2 then some (.handle found.1, found.2) else none
    else none
  let place ← (lexer.place.skip (lexer.place.rest.length - rest.length)).endLine?
  some ({ lexer with place }.emit token)

/-- Reads a marker of the start or the end of a document. -/
def marker? (lexer : Lexer) (token : Token) : Option Lexer := lexer.reset?.map (·.take 3 token)

/-- Reads an opening bracket. -/
def opening? (lexer : Lexer) (token : Token) : Option Lexer :=
  lexer.saveCandidate?.map fun lexer =>
    { lexer with
      candidate := none
      outerCandidates := lexer.candidate :: lexer.outerCandidates
      allowsKey := true }.take 1 token

/-- Reads a closing bracket. -/
def closing? (lexer : Lexer) (token : Token) : Option Lexer :=
  lexer.dropCandidate?.map fun lexer =>
    { lexer with
      candidate := lexer.outerCandidates.head?.getD none
      outerCandidates := lexer.outerCandidates.tail
      allowsKey := false }.take 1 token

/-- Reads a comma. -/
def comma? (lexer : Lexer) : Option Lexer :=
  lexer.dropCandidate?.map fun lexer => { lexer with allowsKey := true }.take 1 .comma

/-- Reads a dash. -/
def item? (lexer : Lexer) : Option Lexer :=
  if !lexer.inFlow && !lexer.allowsKey then none
  else
    (lexer.openBlock .listStart).dropCandidate?.map fun lexer =>
      { lexer with allowsKey := true }.take 1 .item

/-- Reads a question mark before a key. -/
def key? (lexer : Lexer) : Option Lexer :=
  if !lexer.inFlow && !lexer.allowsKey then none
  else
    (lexer.openBlock .recordStart).dropCandidate?.map fun lexer =>
      { lexer with allowsKey := !lexer.inFlow }.take 1 .key

/-- Reads a colon before a value. What may have been a key then is one. -/
def value? (lexer : Lexer) : Option Lexer :=
  match lexer.candidate with
  | some candidate =>
    let column := candidate.place.column
    let known :=
      if lexer.beginsBlock column then
        (lexer.indent column).insert candidate.number [.recordStart, .key]
      else lexer.insert candidate.number [.key]
    some ({ known with candidate := none, allowsKey := false }.take 1 .value)
  | none =>
    if !lexer.inFlow && !lexer.allowsKey then none
    else some ({ lexer.openBlock .recordStart with allowsKey := !lexer.inFlow }.take 1 .value)

/-- Whether a name may end here. -/
def endsName (s : List Char) : Bool :=
  endsWord s || s.head?.any fun c => "?:,]\x7d%@".toList.contains c || c == '\x60'

/-- Reads the name of a node behind its mark. -/
def named? (lexer : Lexer) (token : List Char → Token) : Option Lexer := do
  let lexer ← lexer.saveCandidate?
  let body := lexer.place.rest.tail
  let name := body.takeWhile isNameChar
  if name.isEmpty ∨ !endsName (body.drop name.length) then none
  else some ({ lexer with allowsKey := false }.take (name.length + 1) (token name))

/-- Reads a tag. -/
def tag? (lexer : Lexer) : Option Lexer := do
  let lexer ← lexer.saveCandidate?
  let (tag, rest) ← Tag.read? lexer.place.rest.tail
  if endsWord rest ∨ (lexer.inFlow ∧ rest.head? = some ',') then
    some ({ lexer with allowsKey := false }.take (lexer.place.rest.length - rest.length) (.tag tag))
  else none

/-- Reads a block scalar. -/
def block? (lexer : Lexer) (style : Style) : Option Lexer := do
  let lexer ← lexer.dropCandidate?
  let (text, place) ← Yaml.block? (style = .folded) lexer.depth (lexer.place.skip 1)
  some ({ lexer with place, allowsKey := true }.emit (.scalar style text))

/-- Reads a quoted scalar. -/
def quoted? (lexer : Lexer) (mark : Char) : Option Lexer := do
  let lexer ← lexer.saveCandidate?
  let (text, place) ← Yaml.quoted? mark lexer.bound (lexer.place.skip 1)
  some ({ lexer with place, allowsKey := false }.emit (.scalar .quoted text))

/-- Reads a plain scalar. Behind its last line a key can begin. -/
def plain? (lexer : Lexer) : Option Lexer := do
  let lexer ← lexer.saveCandidate?
  let (text, isOver, place) ← Yaml.plain? lexer.inFlow lexer.depth lexer.bound .none lexer.place
  some ({ lexer with place, allowsKey := isOver }.emit (.scalar .plain text))

/-- Reads the token that begins with a character. -/
def read? (lexer : Lexer) (c : Char) : Option Lexer :=
  let isSign := lexer.inFlow || endsWord lexer.place.rest.tail
  if lexer.place.column = 0 ∧ c = '%' then lexer.directive?
  else if lexer.place.isMarkerOf '-' then lexer.marker? .documentStart
  else if lexer.place.isMarkerOf '.' then lexer.marker? .documentEnd
  else if c = '[' then lexer.opening? .openList
  else if c = '\x7b' then lexer.opening? .openRecord
  else if c = ']' then lexer.closing? .closeList
  else if c = '\x7d' then lexer.closing? .closeRecord
  else if c = ',' then lexer.comma?
  else if c = '-' ∧ endsWord lexer.place.rest.tail then lexer.item?
  else if c = '?' ∧ isSign then lexer.key?
  else if c = ':' ∧ isSign then lexer.value?
  else if c = '*' then lexer.named? .alias
  else if c = '&' then lexer.named? .anchor
  else if c = '!' then lexer.tag?
  else if c = '|' ∧ !lexer.inFlow then lexer.block? .literal
  else if c = '>' ∧ !lexer.inFlow then lexer.block? .folded
  else if c = '\'' ∨ c = '"' then lexer.quoted? c
  else if startsPlain lexer.inFlow lexer.place.rest then lexer.plain?
  else none

/-- Reads tokens up to the end of the text. -/
def readAll? : Nat → Lexer → Option Lexer
  | 0, _ => none
  | bound + 1, lexer => do
    let lexer ← (lexer.toToken lexer.bound).dropStale?
    let lexer := lexer.closeBlocks (lexer.place.column + 1)
    match lexer.place.rest with
    | [] => lexer.reset?
    | c :: _ => (lexer.read? c).bind (readAll? bound)

end Lexer

/-- The tokens of a text. -/
def Token.ofText? (text : List Char) : Option (List Token) :=
  if text.all isAllowed then
    ((Lexer.start text).readAll? (text.length + 1)).map fun lexer => lexer.tokens.reverse
  else none

end CommitHistory.Yaml
