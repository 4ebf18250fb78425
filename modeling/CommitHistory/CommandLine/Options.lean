/-
# Options

The words after the program's name are read one by one. A parameter that takes a value
finds it in the same word or in the next one. A value in the next word is looked at only
when the next parameter is there, or at the end; so of two mistakes a parameter that does
not exist is reported before a value that cannot be used. Each parameter may be given
once. There are no words without a parameter.

## Main definitions

* `CommandLine.Options` — what the words ask for.
* `CommandLine.Misuse`, `CommandLine.Stop` — why they cannot be followed.
* `CommandLine.Options.read` — reading the words.
* `CommandLine.Options.overrides` — the settings that they change.
-/

import CommitHistory.CommandLine.Parameter
import CommitHistory.Text.Lines
import CommitHistory.Text.Numeral

namespace CommitHistory.CommandLine

open Text

/-- What the words on the command line ask for. -/
structure Options where
  /-- The repository, or any directory in it. -/
  repository : String
  pageSize : Option Nat
  /-- How many pages are loaded. -/
  pages : Nat
  /-- All references are shown, and not only the lineage that is checked out. -/
  all : Bool
  /-- The name of the form of the report. -/
  format : String
  noColor : Bool
  settingsFile : Option String
  logLevel : Option String
  /-- The beginning of the commit whose changes are shown. -/
  changes : Option String
  /-- The common ancestor is shown instead of the history. -/
  mergeBase : Bool
deriving DecidableEq, Repr

/-- A mistake in the words. -/
inductive Misuse where
  | unknownWord (word : String)
  | missingValue (parameter : Parameter)
  | badNumber (parameter : Parameter) (value : String)
  | repeated (parameter : Parameter)
  | surplusValue (parameter : Parameter) (value : String)
deriving DecidableEq, Repr

/-- Why the program is over before it began: the list of parameters or the version was asked for,
or there is a mistake in the words. -/
inductive Stop where
  | help (full : Bool)
  | version
  | misuse (misuse : Misuse)
deriving DecidableEq, Repr

/-- The wording of a mistake. -/
def Misuse.message : Misuse → String
  | .unknownWord word => "error: unexpected argument '" ++ word ++ "' found"
  | .missingValue parameter =>
    "error: a value is required for '--" ++ parameter.name ++ "' but none was supplied"
  | .badNumber parameter value =>
    "error: invalid value '" ++ value ++ "' for '--" ++ parameter.name ++ "'"
  | .repeated parameter =>
    "error: the argument '--" ++ parameter.name ++ "' cannot be used multiple times"
  | .surplusValue parameter value =>
    "error: unexpected value '" ++ value ++ "' for '--" ++ parameter.name ++ "' found"

namespace Options

/-- What no words ask for. -/
def standard : Options :=
  { repository := ".", pageSize := none, pages := 1, all := false, format := "text"
    noColor := false, settingsFile := none, logLevel := none, changes := none, mergeBase := false }

/-- The value of a parameter that counts something. -/
def countOf (parameter : Parameter) (value : String) : Except Misuse Nat :=
  match Numeral.count? value.toList with
  | some count => .ok count
  | none => .error (.badNumber parameter value)

/-- The value of a parameter that is a path. An empty path is no value. -/
def pathOf (parameter : Parameter) (value : String) : Except Misuse String :=
  if value.isEmpty then .error (.missingValue parameter) else .ok value

/-- The options after a parameter was given with a value. A parameter that takes none is given
with an empty one. -/
def set (options : Options) : Parameter → String → Except Misuse Options
  | .repository, value =>
    (pathOf .repository value).map fun repository => { options with repository }
  | .pageSize, value =>
    (countOf .pageSize value).map fun count => { options with pageSize := some count }
  | .pages, value => (countOf .pages value).map fun pages => { options with pages }
  | .all, _ => .ok { options with all := true }
  | .format, format => .ok { options with format }
  | .noColor, _ => .ok { options with noColor := true }
  | .settingsFile, value =>
    (pathOf .settingsFile value).map fun path => { options with settingsFile := some path }
  | .logLevel, level => .ok { options with logLevel := some level }
  | .changes, commit => .ok { options with changes := some commit }
  | .mergeBase, _ => .ok { options with mergeBase := true }
  | .help, _ => .ok options
  | .version, _ => .ok options

/-- The settings that the options change, in the order of their names. -/
def overrides (options : Options) : List (String × String) :=
  (if options.all then [("filter", "all")] else []) ++
    (match options.logLevel with
      | some level => [("log_level", level)]
      | none => []) ++
    (match options.pageSize with
      | some count => [("page_size", String.ofList (Numeral.ofNat count))]
      | none => [])

end Options

/-- What a word is. -/
inductive Word where
  /-- Two dashes alone; no parameter follows them. -/
  | terminator
  | named (name : List Char) (value : Option (List Char))
  /-- Letters after one dash, at the end perhaps a value. -/
  | letters (letters : List Char)
  /-- Anything else, also one dash alone. -/
  | plain
deriving DecidableEq, Repr

/-- What a word is by its beginning. -/
def Word.ofText : List Char → Word
  | ['-', '-'] => .terminator
  | '-' :: '-' :: rest =>
    match cutAt '=' rest with
    | some (name, value) => .named name (some value)
    | none => .named rest none
  | '-' :: letter :: rest => .letters (letter :: rest)
  | _ => .plain

/-- Where the reading of words stands. -/
structure Reading where
  options : Options
  /-- The parameters that were given with all that they take. -/
  given : List Parameter
  /-- The parameter that was given last, if its value is to be found in a word of its own, and
  that word once it is there. -/
  pending : Option (Parameter × Option String)
deriving DecidableEq, Repr

namespace Reading

/-- Before the first word. -/
def start : Reading := { options := .standard, given := [], pending := none }

/-- The end of reading at a mistake. -/
def refuse {α : Type} (misuse : Misuse) : Except Stop α := .error (.misuse misuse)

/-- Takes a parameter with its value. -/
def accept (reading : Reading) (parameter : Parameter) (value : String) :
    Except Stop Reading :=
  if parameter ∈ reading.given then refuse (.repeated parameter)
  else match reading.options.set parameter value with
    | .ok options => .ok { reading with options, given := parameter :: reading.given }
    | .error misuse => refuse misuse

/-- Takes the parameter that waits for its value. -/
def settle (reading : Reading) : Except Stop Reading :=
  match reading.pending with
  | none => .ok reading
  | some (parameter, none) => refuse (.missingValue parameter)
  | some (parameter, some value) =>
    ({ reading with pending := none } : Reading).accept parameter value

/-- A parameter is given with its value in the same word. -/
def attach (reading : Reading) (parameter : Parameter) (value : List Char) :
    Except Stop Reading := do
  (← reading.settle).accept parameter (String.ofList value)

/-- A parameter is given and its value is to follow. -/
def expect (reading : Reading) (parameter : Parameter) : Except Stop Reading :=
  reading.settle.map fun settled => { settled with pending := some (parameter, none) }

/-- A parameter that takes no value is given. -/
def raise (reading : Reading) (parameter : Parameter) (full : Bool) : Except Stop Reading := do
  let settled ← reading.settle
  -- Help and version end the reading: no word behind them is looked at.
  match parameter with
  | .help => .error (.help full)
  | .version => .error .version
  | _ => settled.accept parameter ""

/-- Reads the letters after one dash. Behind the letter of a parameter that takes a value
everything is its value, perhaps after an equals sign. -/
def letters : Reading → List Char → Except Stop Reading
  | reading, [] => .ok reading
  | reading, letter :: rest =>
    match Parameter.ofLetter? letter with
    | none => refuse (.unknownWord (String.ofList ['-', letter]))
    | some parameter =>
      if parameter.takesValue then
        match rest with
        | [] => reading.expect parameter
        | '=' :: value => reading.attach parameter value
        | value => reading.attach parameter value
      else do
        let raised ← reading.raise parameter false
        raised.letters rest

/-- Reads a name after two dashes. -/
def named (reading : Reading) (name : List Char) (value : Option (List Char)) :
    Except Stop Reading :=
  match Parameter.ofName? name with
  | none => refuse (.unknownWord (String.ofList ('-' :: '-' :: name)))
  | some parameter =>
    match parameter.takesValue, value with
    | true, some value => reading.attach parameter value
    | true, none => reading.expect parameter
    | false, some value => refuse (.surplusValue parameter (String.ofList value))
    | false, none => reading.raise parameter true

/-- Reads a word without a parameter: it is the value that the last parameter waits for. -/
def plain (reading : Reading) (word : String) : Except Stop Reading :=
  match reading.pending with
  | some (parameter, none) => .ok { reading with pending := some (parameter, some word) }
  | _ => refuse (.unknownWord word)

/-- Reads all words. No word may follow the terminator. -/
def words : Reading → List String → Except Stop Reading
  | reading, [] => reading.settle
  | reading, word :: rest =>
    match Word.ofText word.toList with
    | .terminator =>
      match rest with
      | [] => reading.settle
      -- Whatever still waits for a value is not looked at.
      | next :: _ => refuse (.unknownWord next)
    | .named name value => (reading.named name value).bind (words · rest)
    | .letters letters => (reading.letters letters).bind (words · rest)
    | .plain => (reading.plain word).bind (words · rest)

end Reading

/-- The options that words on the command line stand for. -/
def Options.read (words : List String) : Except Stop Options :=
  (Reading.start.words words).map Reading.options

end CommitHistory.CommandLine
