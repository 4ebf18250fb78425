/-
# Regular expressions

Which texts are regular expressions that a finite automaton can match against UTF-8.
A text is refused if its brackets do not match, if a sign of repetition follows
nothing, if an escape, a flag or a class is unknown, or if its parts are nested too
deep. Word boundaries are refused as long as they go by Unicode, and parts that could
match a single byte of a longer character are refused as soon as nothing goes by
Unicode.

A closing brace never stands in the texts that are judged here, so an opening one that
would need it is refused as well.

## Main definitions

* `Pattern.escape?`, `Pattern.set?` — escapes, and classes in brackets.
* `Pattern.isPattern` — whether a text is a regular expression.
-/

import CommitHistory.Json.Reader
import CommitHistory.Text.Alphanumeric
import CommitHistory.Text.Blank
import CommitHistory.Text.Digit

namespace CommitHistory.Text.Pattern

/-- How what follows is read. -/
structure Mode where
  /-- Whether characters and not bytes are matched. -/
  unicode : Bool
  /-- Whether blanks and comments are passed over. -/
  spaced : Bool
deriving DecidableEq, Repr

/-- The mode at the beginning. -/
def Mode.standard : Mode := { unicode := true, spaced := false }

/-- What follows blanks and comments if these are passed over. -/
def Mode.skip (mode : Mode) : Nat → List Char → List Char
  | 0, s => s
  | bound + 1, s =>
    if !mode.spaced then s
    else match s.dropWhile isBlank with
      | '#' :: rest => mode.skip bound (rest.dropWhile (· ≠ '\n'))
      | rest => rest

/-- What can be read as one thing. -/
inductive Item where
  /-- A character, in a class or outside. -/
  | char (c : Char)
  /-- A class of characters. -/
  | group
  /-- A place between characters. -/
  | place
deriving DecidableEq, Repr

/-- The marks that have a meaning of their own. -/
def isMark (c : Char) : Bool := "\\.+*?()|[]\x7b\x7d^$#&-~".toList.contains c

/-- Whether a character stands for itself after a backslash. -/
def isEscapable (c : Char) : Bool :=
  isMark c || (c.toNat < 0x80 && !c.isAlphanum && c != '<' && c != '>')

/-- The letters of the general categories. -/
def isCategory (c : Char) : Bool := "clmnpsz".toList.contains c.toLower

/-- The character with a number in hexadecimal digits. Beyond ASCII, two digits are a byte unless
characters are matched. -/
def charOfDigits? (mode : Mode) (digits : List Char) : Option Char := do
  let values ← digits.mapM Json.hexValue?
  let n := values.foldl (fun n value => 16 * n + value) 0
  if n < 0x110000 ∧ ¬(0xd800 ≤ n ∧ n ≤ 0xdfff) ∧ (mode.unicode ∨ digits.length ≠ 2 ∨ n < 0x80) then
    some (Char.ofNat n)
  else none

/-- Takes so many characters. What is passed over may stand before each one. -/
def take? (mode : Mode) : Nat → List Char → Option (List Char × List Char)
  | 0, s => some ([], s)
  | count + 1, s =>
    match mode.skip s.length s with
    | [] => none
    | c :: rest => (take? mode count rest).map fun found => (c :: found.1, found.2)

/-- Reads a character in so many hexadecimal digits. -/
def numbered? (mode : Mode) (width : Nat) (s : List Char) : Option (Item × List Char) := do
  let (digits, rest) ← take? mode width s
  let c ← charOfDigits? mode digits
  some (.char c, rest)

/-- Reads an escape after its backslash. -/
def escape? (mode : Mode) : List Char → Option (Item × List Char)
  | [] => none
  | c :: rest =>
    if c = 'x' then numbered? mode 2 rest
    else if c = 'u' then numbered? mode 4 rest
    else if c = 'U' then numbered? mode 8 rest
    else if c = 'p' ∨ c = 'P' then
      match mode.skip rest.length rest with
      | name :: rest => if mode.unicode ∧ isCategory name then some (.group, rest) else none
      | [] => none
    else if c = 'd' ∨ c = 's' ∨ c = 'w' then some (.group, rest)
    -- The other bytes are no characters.
    else if c = 'D' ∨ c = 'S' ∨ c = 'W' then if mode.unicode then some (.group, rest) else none
    else if isEscapable c then some (.char c, rest)
    else if "aftnrv".toList.contains c then
      some (.char (Char.ofNat (if c = 'a' then 7 else if c = 'f' then 12 else if c = 't' then 9
        else if c = 'n' then 10 else if c = 'r' then 13 else 11)), rest)
    else if c = 'A' ∨ c = 'z' then some (.place, rest)
    else if c = 'b' ∨ c = 'B' ∨ c = '<' ∨ c = '>' then
      if mode.unicode then none else some (.place, rest)
    else none

/-- The names of the classes of ASCII characters. -/
def asciiClasses : List String :=
  ["alnum", "alpha", "ascii", "blank", "cntrl", "digit", "graph", "lower", "print", "punct",
    "space", "upper", "word", "xdigit"]

/-- Reads a class of ASCII characters after its bracket, if there is one: whether it is negated,
and what follows. -/
def asciiClass? (s : List Char) : Option (Bool × List Char) := do
  let body ← dropPrefix? [':'] s
  let (negated, body) := match body with
    | '^' :: rest => (true, rest)
    | _ => (false, body)
  let (name, rest) ← cutAt ':' body
  let rest ← dropPrefix? [']'] rest
  if asciiClasses.contains (String.ofList name) then some (negated, rest) else none

/-- Reads the beginning of a class in brackets: a circumflex, and dashes and a closing bracket
that stand for themselves. The first result is how many of these there are. -/
def openSet? (mode : Mode) (s : List Char) : Option (Nat × List Char) :=
  let skip := fun (s : List Char) => mode.skip s.length s
  let first := skip s
  let negated := first.head? = some '^'
  let items := if negated then skip first.tail else first
  let (dashes, rest) := (List.range items.length).foldl
    (fun (found : Nat × List Char) _ =>
      if found.2.head? = some '-' then (found.1 + 1, skip found.2.tail) else found)
    (0, items)
  let (literals, rest) :=
    if dashes = 0 ∧ rest.head? = some ']' then (1, skip rest.tail) else (dashes, rest)
  -- What is not in a class of ASCII characters would be bytes.
  if rest.isEmpty ∨ (negated ∧ !mode.unicode) then none else some (literals, rest)

/-- Reads one thing in a class. -/
def setItem? (mode : Mode) : List Char → Option (Item × List Char)
  | [] => none
  | '\\' :: rest => escape? mode rest
  | c :: rest => some (.char c, rest)

/-- Whether a thing can stand in a class. Without Unicode only ASCII characters can. -/
def Item.isMember (mode : Mode) : Item → Bool
  | .char c => mode.unicode || c.toNat < 0x80
  | .group => true
  | .place => false

/-- Reads one thing or a range in a class. -/
def range? (mode : Mode) (s : List Char) : Option (List Char) := do
  let skip := fun (s : List Char) => mode.skip s.length s
  let (first, rest) ← setItem? mode s
  let rest := skip rest
  let next := (skip rest.tail).head?
  if rest.head? ≠ some '-' ∨ next = some ']' ∨ next = some '-' then
    if first.isMember mode then some rest else none
  else
    let (last, after) ← setItem? mode (skip rest.tail)
    match first, last with
    | .char a, .char b =>
      if a ≤ b ∧ first.isMember mode ∧ last.isMember mode then some after else none
    | _, _ => none

/-- Things side by side, and how deep they are nested. -/
structure Row where
  count : Nat
  /-- The depth of the last one. -/
  last : Nat
  /-- The greatest depth of those before it. -/
  deepest : Nat

namespace Row

/-- Nothing. -/
def empty : Row := { count := 0, last := 0, deepest := 0 }

/-- One more thing. -/
def push (row : Row) (depth : Nat) : Row :=
  { count := row.count + 1, last := depth, deepest := max row.deepest row.last }

/-- The last thing is repeated. -/
def wrap (row : Row) : Row := { row with last := row.last + 1 }

/-- The depth of a row. A single thing is no deeper for standing in one. -/
def depth (row : Row) : Nat := if row.count ≤ 1 then row.last else max row.deepest row.last + 1

end Row

/-- What has been read of a class: its things, and the depth of what stands before a sign that
joins two classes. -/
structure OpenSet where
  items : Row
  before : Option Nat

namespace OpenSet

/-- A class that begins with so many characters. -/
def start (literals : Nat) : OpenSet :=
  { items := (List.range literals).foldl (fun row _ => row.push 0) .empty, before := none }

/-- One more thing. -/
def push (opened : OpenSet) (depth : Nat) : OpenSet :=
  { opened with items := opened.items.push depth }

/-- The depth inside the brackets. -/
def depth (opened : OpenSet) : Nat :=
  match opened.before with
  | none => opened.items.depth
  | some before => max before opened.items.depth + 1

/-- A class after a sign that joins it with another one. -/
def join (opened : OpenSet) : OpenSet := { items := .empty, before := some opened.depth }

end OpenSet

/-- Reads a class up to its closing bracket, where others may be open around it. The first result
is its depth. -/
def set? (mode : Mode) :
    Nat → OpenSet → List OpenSet → List Char → Option (Nat × List Char)
  | 0, _, _, _ => none
  | bound + 1, opened, outer, s =>
    match mode.skip s.length s with
    | [] => none
    | ']' :: rest =>
      let depth := opened.depth + 1
      match outer with
      | [] => some (depth, rest)
      | next :: outer => set? mode bound (next.push depth) outer rest
    | '[' :: rest =>
      match asciiClass? rest with
      | some (negated, rest) =>
        if negated ∧ !mode.unicode then none else set? mode bound (opened.push 0) outer rest
      | none =>
        match openSet? mode rest with
        | none => none
        | some (literals, rest) => set? mode bound (.start literals) (opened :: outer) rest
    | '&' :: '&' :: rest => set? mode bound opened.join outer rest
    | '-' :: '-' :: rest => set? mode bound opened.join outer rest
    | '~' :: '~' :: rest => set? mode bound opened.join outer rest
    | rest => (range? mode rest).bind (set? mode bound (opened.push 0) outer)

/-- What has been read of a group: the mode in it, the things behind the last bar, and the
alternatives before it. -/
structure Group where
  mode : Mode
  items : Row
  alternatives : Row

namespace Group

/-- A group in which nothing has been read. -/
def start (mode : Mode) : Group := { mode, items := .empty, alternatives := .empty }

/-- One more thing. -/
def push (group : Group) (depth : Nat) : Group := { group with items := group.items.push depth }

/-- The depth of what is in a group. -/
def depth (group : Group) : Nat := (group.alternatives.push group.items.depth).depth

/-- A group after a bar. -/
def bar (group : Group) : Group :=
  { group with items := .empty, alternatives := group.alternatives.push group.items.depth }

end Group

/-- What has been read of a regular expression. -/
structure Progress where
  group : Group
  /-- The groups around it, the innermost first. -/
  outer : List Group
  /-- The names of groups. -/
  names : List (List Char)
  /-- Whether something stands before that can be repeated. -/
  repeatable : Bool

/-- The mode in the innermost group. -/
def Progress.mode (progress : Progress) : Mode := progress.group.mode

/-- One more thing, which can be repeated. -/
def Progress.push (progress : Progress) (depth : Nat) : Progress :=
  { progress with group := progress.group.push depth, repeatable := true }

/-- A group in a mode is opened. -/
def Progress.enter (progress : Progress) (mode : Mode) : Progress :=
  { progress with
    group := .start mode
    outer := progress.group :: progress.outer
    repeatable := false }

/-- The flags up to a colon or a closing bracket, and what follows. -/
def flags? (s : List Char) : Option (List Char × List Char) :=
  let flags := s.takeWhile fun c => c != ':' && c != ')'
  let isKnown := flags.all fun c => "imsUuRx-".toList.contains c
  let isOnce := flags.all fun c => flags.count c = 1
  if isKnown && isOnce && flags.getLast? != some '-' && flags.length < s.length then
    some (flags, s.drop flags.length)
  else none

/-- A mode changed by flags. Those behind a minus are taken away. -/
def Mode.change (mode : Mode) (flags : List Char) : Mode :=
  let added := flags.takeWhile (· ≠ '-')
  let removed := flags.drop added.length
  { unicode := (mode.unicode || added.contains 'u') && !removed.contains 'u'
    spaced := (mode.spaced || added.contains 'x') && !removed.contains 'x' }

/-- Reads the name of a group up to its closing mark. -/
def groupName? (s : List Char) : Option (List Char × List Char) := do
  let (name, rest) ← cutAt '>' s
  match name with
  | [] => none
  | first :: others =>
    if (first == '_' || (isAlphanumeric first && !isDecimalDigit first)) &&
        others.all fun c => "_.[]".toList.contains c || isAlphanumeric c then
      some (name, rest)
    else none

/-- Opens a group after its bracket, or changes the mode. -/
def openGroup? (progress : Progress) (s : List Char) : Option (Progress × List Char) :=
  let named := fun (s : List Char) => do
    let (name, rest) ← groupName? s
    if progress.names.contains name then none
    else some ({ progress.enter progress.mode with names := name :: progress.names }, rest)
  match progress.mode.skip s.length s with
  | '?' :: 'P' :: '<' :: rest => named rest
  | '?' :: '<' :: '!' :: _ => none
  | '?' :: '<' :: rest => named rest
  | '?' :: rest => do
    let (flags, rest) ← flags? rest
    let mode := progress.mode.change flags
    match rest with
    | ':' :: rest => some (progress.enter mode, rest)
    | _ :: rest =>
      if flags.isEmpty then none
      else
        some ({ progress with group := { progress.group.push 0 with mode }, repeatable := false },
          rest)
    | [] => none
  | rest => some (progress.enter progress.mode, rest)

/-- Reads the next thing of a regular expression at its first character. -/
def next? (progress : Progress) (c : Char) (rest : List Char) : Option (Progress × List Char) :=
  let mode := progress.mode
  if c = '(' then openGroup? progress rest
  else if c = ')' then
    match progress.outer with
    | [] => none
    | group :: outer =>
      some ({ progress with group, outer }.push (progress.group.depth + 1), rest)
  else if c = '|' then
    some ({ progress with group := progress.group.bar, repeatable := false }, rest)
  else if c = '[' then do
    let (literals, inside) ← openSet? mode rest
    let (depth, rest) ← set? mode (rest.length + 1) (.start literals) [] inside
    some (progress.push depth, rest)
  else if c = '?' ∨ c = '*' ∨ c = '+' then
    let group := { progress.group with items := progress.group.items.wrap }
    if progress.repeatable then
      some ({ progress with group }, if rest.head? = some '?' then rest.tail else rest)
    else none
  -- The count that begins here would not end.
  else if c = '\x7b' then none
  else if c = '\\' then (escape? mode rest).map fun found => (progress.push 0, found.2)
  else if c = '.' ∧ !mode.unicode then none
  else some (progress.push 0, rest)

/-- How deep the parts of a regular expression may be nested. -/
def depthLimit : Nat := 250

/-- Reads a regular expression to its end. -/
def reads : Nat → Progress → List Char → Bool
  | 0, _, _ => false
  | bound + 1, progress, s =>
    match progress.mode.skip s.length s with
    | [] => progress.outer.isEmpty && progress.group.depth ≤ depthLimit
    | c :: rest =>
      match next? progress c rest with
      | none => false
      | some (progress, rest) => reads bound progress rest

/-- Whether a text without closing braces is a regular expression. -/
def isPattern (s : List Char) : Bool :=
  reads (s.length + 1)
    { group := .start .standard, outer := [], names := [], repeatable := false } s

end CommitHistory.Text.Pattern
