/-
# TOML values

Tables keep the order of their keys. A table remembers how it came about, because only
some tables may be added to later: one that a header or a dotted key merely passed
through, but not one that was written out.
-/

namespace CommitHistory.Toml

/-- How a table came about. -/
inductive Origin where
  /-- It was written out, under a header of its own or in braces. -/
  | written
  /-- A header passed through it. -/
  | passed
  /-- A dotted key passed through it. -/
  | dotted
deriving DecidableEq, Repr

/-- A TOML value. -/
inductive Value where
  | text (value : List Char)
  | integer (value : Int)
  | flag (value : Bool)
  /-- A number with a fraction or an exponent, infinity, or no number. -/
  | fraction
  /-- A date, a time of day, or both. -/
  | moment
  | list (items : List Value)
  /-- A table in braces. -/
  | inline (entries : List (List Char × Value))
  | table (origin : Origin) (entries : List (List Char × Value))
  /-- Tables under headers in double brackets. -/
  | tables (items : List (List (List Char × Value)))

/-- Keys with their values. -/
abbrev Entries : Type := List (List Char × Value)

namespace Entries

/-- Replaces the value under a key that is there. -/
def replace (key : List Char) (value : Value) : Entries → Entries
  | [] => []
  | (k, v) :: rest => if k = key then (k, value) :: rest else (k, v) :: replace key value rest

/-- Whether a table may be entered on the way to another one. -/
def mayEnter (dotted : Bool) (origin : Origin) : Bool := !dotted || origin != .written

/-- Changes the table that a path leads to. Tables that are missing on the way are made; the
function gets the table's origin and entries and says what becomes of the entries. -/
def descend (dotted : Bool) (change : Origin → Entries → Option Entries) :
    Origin → List (List Char) → Entries → Option Entries
  | origin, [], entries => change origin entries
  | _, key :: path, entries =>
    let made : Origin := if dotted then .dotted else .passed
    match entries.lookup key with
    | none => do
      let inner ← descend dotted change made path []
      some (entries ++ [(key, .table made inner)])
    | some (.table origin inner) =>
      if mayEnter dotted origin then do
        let inner ← descend dotted change origin path inner
        some (replace key (.table origin inner) entries)
      else none
    | some (.tables items) =>
      match items.getLast? with
      | none => none
      | some last => do
        let inner ← descend dotted change .written path last
        some (replace key (.tables (items.dropLast ++ [inner])) entries)
    | some _ => none

/-- Puts a value under a dotted key of a table. A dotted key goes only through tables that
dotted keys made. -/
def put (keys : List (List Char)) (value : Value) (entries : Entries) : Option Entries :=
  match keys.getLast? with
  | none => none
  | some last =>
    let through := keys.dropLast
    descend true (fun origin inner =>
      if (origin == .dotted) == through.isEmpty then none
      else if (inner.lookup last).isSome then none
      else some (inner ++ [(last, value)])) .written through entries

/-- Opens the table under a header: it must be new, or one that headers only passed through. -/
def openTable (keys : List (List Char)) (entries : Entries) : Option Entries :=
  match keys.getLast? with
  | none => none
  | some last =>
    descend false (fun _ inner =>
      match inner.lookup last with
      | none => some (inner ++ [(last, .table .written [])])
      | some (.table .passed known) => some (replace last (.table .written known) inner)
      | some _ => none) .written keys.dropLast entries

/-- Adds a table under a header in double brackets. -/
def addTable (keys : List (List Char)) (entries : Entries) : Option Entries :=
  match keys.getLast? with
  | none => none
  | some last =>
    descend false (fun _ inner =>
      match inner.lookup last with
      | none => some (inner ++ [(last, .tables [[]])])
      | some (.tables items) => some (replace last (.tables (items ++ [[]])) inner)
      | some _ => none) .written keys.dropLast entries

/-- Puts a value under a dotted key of the table that a header opened. -/
def putIn (header keys : List (List Char)) (value : Value) (entries : Entries) : Option Entries :=
  descend false (fun _ inner => put keys value inner) .written header entries

end Entries

end CommitHistory.Toml
