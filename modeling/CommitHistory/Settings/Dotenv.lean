/-
# Environment files

An environment file sets variables line by line. A quoted value may go on over line
ends. Inside values a dollar sign stands for the value of a variable. A variable that is
set already keeps its value, and nothing below the first line that cannot be read is
looked at.

## Main definitions

* `Dotenv.joinedLine?` — the next line, with the lines that its quotes join to it.
* `Dotenv.assignment?` — a name and a value.
* `Dotenv.apply` — the variables after a file.
-/

import CommitHistory.Text.Alphanumeric
import CommitHistory.Text.Blank
import CommitHistory.Text.Lines
import CommitHistory.Text.Utf8

namespace CommitHistory.Settings

/-- Variables with their values, in the order in which they were set. -/
abbrev Environment : Type := List (String × String)

/-- The value of a variable. -/
def Environment.get? (environment : Environment) (name : String) : Option String :=
  environment.lookup name

/-- Sets a variable. One that is set already keeps its place. -/
def Environment.set : Environment → String → String → Environment
  | [], name, value => [(name, value)]
  | known :: rest, name, value =>
    if known.1 = name then (name, value) :: rest else known :: set rest name value

/-- The variables ordered by their names. -/
def Environment.ordered (environment : Environment) : Environment :=
  environment.mergeSort fun first second => first.1 ≤ second.1

/-- Sets a variable that is not set. -/
def Environment.setNew (environment : Environment) (name value : String) : Environment :=
  if (environment.get? name).isSome then environment else environment ++ [(name, value)]

namespace Dotenv

open Text

/-- Where a character stands with regard to quotes. -/
inductive Mode where
  | outside
  | blank
  | escaped
  | strong
  | strongEscaped
  | weak
  | weakEscaped
  | comment
deriving DecidableEq, Repr

/-- What a character outside quotes does. -/
def Mode.fromOutside (c : Char) : Mode :=
  if isBlank c ∧ c ≠ '\n' ∧ c ≠ '\r' then .blank
  else if c = '\\' then .escaped
  else if c = '"' then .weak
  else if c = '\'' then .strong
  else .outside

/-- What a character does. -/
def Mode.after : Mode → Char → Mode
  | .outside, c => fromOutside c
  | .blank, c =>
    if c = '#' then .comment
    else if c = '\\' then .escaped
    else if c = '"' then .weak
    else if c = '\'' then .strong
    else .outside
  | .escaped, _ => .outside
  | .weak, c => if c = '\\' then .weakEscaped else if c = '"' then .outside else .weak
  | .weakEscaped, _ => .weak
  | .strong, c => if c = '\\' then .strongEscaped else if c = '\'' then .outside else .strong
  | .strongEscaped, _ => .strong
  | .comment, _ => .comment

/-- Goes through a line up to a comment: the mode at its end, and how many characters stand before
the comment. -/
def scan : Mode → Nat → List Char → Mode × Nat
  | mode, count, [] => (mode, count)
  | mode, count, c :: rest =>
    match mode.after c with
    | .comment => (.comment, count)
    | next => scan next (count + 1) rest

/-- A text without the line end at its end. -/
def dropLineEnd (s : List Char) : List Char :=
  if s.getLast? = some '\n' then dropReturn s.dropLast else s

/-- The next line together with the lines that quotes join to it. The text is given as lines with
their line ends; `known` is what was joined so far. The result is missing when the text ends
inside quotes or after a blank. -/
def joinedLine? : Mode → List Char → List (List Char) → Option (List Char × List (List Char))
  | _, _, [] => none
  | mode, known, line :: rest =>
    let all := known ++ line
    if (trimStart all).head? = some '#' then some ([], rest)
    else
      match scan mode 0 line with
      | (.outside, _) => some (dropLineEnd all, rest)
      | (.comment, count) => some (known ++ line.take count, rest)
      | (next, _) => joinedLine? next all rest

/-- Lines with their line ends. -/
def linesWithEnds (bytes : List UInt8) : List (List UInt8) :=
  let step := fun (byte : UInt8) (found : List (List UInt8)) =>
    if byte = 10 then [byte] :: found
    else match found with
      | [] => [[byte]]
      | line :: rest => (byte :: line) :: rest
  bytes.foldr step []

/-- What a dollar sign stands for: the value of a variable, or of a line further up. -/
def substitute (environment : Environment) (known : List (String × Option String))
    (name : List Char) : List Char :=
  match environment.get? (String.ofList name) with
  | some value => if name.isEmpty then [] else value.toList
  | none => (((known.lookup (String.ofList name)).bind id).getD "").toList

/-- The state of reading a value. -/
structure Progress where
  strong : Bool
  weak : Bool
  escaped : Bool
  ending : Bool
  /-- The name after a dollar sign, and whether it stands in braces. -/
  name : Option (Bool × List Char)
  output : List Char

/-- The value when nothing more belongs to it. Quotes and braces must be closed. -/
def closed? (lookup : List Char → List Char) (state : Progress) : Option (List Char) :=
  match state.name with
  | some (true, _) => none
  | some (false, name) =>
    if state.strong || state.weak then none else some (state.output ++ lookup name)
  | none => if state.strong || state.weak then none else some state.output

/-- Reads the characters of a value. -/
def valueFrom? (lookup : List Char → List Char) : Progress → List Char → Option (List Char)
  | state, [] => closed? lookup state
  | state, c :: rest =>
    if state.ending then
      if c = ' ' ∨ c = '\t' then valueFrom? lookup state rest
      else if c = '#' then closed? lookup state
      else none
    else if state.escaped then
      if c = '\\' ∨ c = '\'' ∨ c = '"' ∨ c = '$' ∨ c = ' ' then
        valueFrom? lookup { state with escaped := false, output := state.output ++ [c] } rest
      else if c = 'n' then
        valueFrom? lookup { state with escaped := false, output := state.output ++ ['\n'] } rest
      else none
    else if state.strong then
      if c = '\'' then valueFrom? lookup { state with strong := false } rest
      else valueFrom? lookup { state with output := state.output ++ [c] } rest
    else match state.name with
      | some (inBraces, name) =>
        if isAlphanumeric c then
          valueFrom? lookup { state with name := some (inBraces, name ++ [c]) } rest
        else if inBraces then
          if c = '\x7d' then
            let output := state.output ++ lookup name
            valueFrom? lookup { state with name := none, output } rest
          else valueFrom? lookup { state with name := some (true, name ++ [c]) } rest
        else if c = '\x7b' ∧ name.isEmpty then
          valueFrom? lookup { state with name := some (true, []) } rest
        else
          let output := state.output ++ lookup name
          if c = '$' then valueFrom? lookup { state with name := some (false, []), output } rest
          else valueFrom? lookup { state with name := none, output := output ++ [c] } rest
      | none =>
        if c = '$' then valueFrom? lookup { state with name := some (false, []) } rest
        else if state.weak then
          if c = '"' then valueFrom? lookup { state with weak := false } rest
          else if c = '\\' then valueFrom? lookup { state with escaped := true } rest
          else valueFrom? lookup { state with output := state.output ++ [c] } rest
        else if c = '\'' then valueFrom? lookup { state with strong := true } rest
        else if c = '"' then valueFrom? lookup { state with weak := true } rest
        else if c = '\\' then valueFrom? lookup { state with escaped := true } rest
        else if c = ' ' ∨ c = '\t' then valueFrom? lookup { state with ending := true } rest
        else valueFrom? lookup { state with output := state.output ++ [c] } rest

/-- Reads a value. -/
def value? (lookup : List Char → List Char) (s : List Char) : Option (List Char) :=
  valueFrom? lookup
    { strong := false, weak := false, escaped := false, ending := false,
      name := none, output := [] }
    s

/-- Reads a name. -/
def name? (s : List Char) : Option (List Char × List Char) :=
  match s with
  | c :: _ =>
    if c.isAlpha ∨ c = '_' then
      let name := s.takeWhile fun c => c.isAlphanum || c == '_' || c == '.'
      some (name, s.drop name.length)
    else none
  | [] => none

/-- What follows an equals sign after blanks. -/
def afterEquals? (s : List Char) : Option (List Char) :=
  match trimStart s with
  | '=' :: rest => some (trimStart rest)
  | _ => none

/-- The name that a line sets and the text of its value. The word `export` may stand before the
name. -/
def target? (s : List Char) : Option (List Char × List Char) := do
  let (name, rest) ← name? s
  if name = "export".toList then
    match afterEquals? rest with
    | some rest => some (name, rest)
    | none => do
      let (name, rest) ← name? (trimStart rest)
      (afterEquals? rest).map (name, ·)
  else (afterEquals? rest).map (name, ·)

/-- What a line sets, if it sets anything. The outer result is missing for a line that cannot be
read. -/
def assignment? (lookup : List Char → List Char) (line : List Char) :
    Option (Option (List Char × Option (List Char))) :=
  let s := trimStart (trimEnd line)
  if s.isEmpty ∨ s.head? = some '#' then some none
  else do
    let (name, rest) ← target? s
    if rest.isEmpty ∨ rest.head? = some '#' then some (some (name, none))
    else do
      let value ← value? lookup rest
      some (some (name, some value))

/-- Sets the variables of the given lines, up to the first that cannot be read. `known` holds what
lines further up set. -/
def applyLines : Nat → Environment → List (String × Option String) → List (List Char) → Environment
  | 0, environment, _, _ => environment
  | bound + 1, environment, known, lines =>
    match joinedLine? .outside [] lines with
    | none => environment
    | some (line, rest) =>
      match assignment? (substitute environment known) line with
      | none => environment
      | some none => applyLines bound environment known rest
      | some (some (name, value)) =>
        let name := String.ofList name
        let value := value.map String.ofList
        applyLines bound (environment.setNew name (value.getD "")) ((name, value) :: known) rest

/-- The lines up to the first one that is no text. -/
def readableLines : List (List UInt8) → List (List Char)
  | [] => []
  | line :: rest =>
    match Utf8.decode? line with
    | some text => text :: readableLines rest
    | none => []

/-- The variables after an environment file, which may begin with a byte order mark. -/
def apply (environment : Environment) (bytes : List UInt8) : Environment :=
  let lines := readableLines (linesWithEnds bytes)
  let body := match lines with
    | ('\ufeff' :: first) :: rest => first :: rest
    | _ => lines
  applyLines (body.length + 1) environment [] body

end Dotenv

end CommitHistory.Settings
