/-
# Settings as TOML

Each section is a table. A list may stand for a table; its items are the first keys in
order.
-/

import CommitHistory.Toml.Reader
import CommitHistory.Toml.Writer

namespace CommitHistory.Settings

open Toml

/-- The first of a list of values under each of the names. -/
def tomlList {α : Type} (names : List String) (items : List α) : List (Option α) :=
  (items.take names.length).map some ++ List.replicate (names.length - items.length) none

/-- The values under names. -/
def tomlEntries (names : List String) (entries : Entries) : List (Option Value) :=
  names.map fun name => entries.lookup name.toList

/-- The values under names: of a table by name, of a list by position. -/
def tomlFields? (names : List String) : Value → Option (List (Option Value))
  | .inline entries => some (tomlEntries names entries)
  | .table _ entries => some (tomlEntries names entries)
  | .list items => some (tomlList names items)
  | .tables items => some (tomlList names (items.map (Value.table .written)))
  -- A moment is a table under a name that stands for nothing else.
  | .moment => some (names.map fun _ => none)
  | _ => none

/-- Whether a value is an empty table or an empty list. -/
def isEmptyToml : Value → Bool
  | .inline [] => true
  | .table _ [] => true
  | .list [] => true
  | _ => false

/-- The name of a variant: a string, or the only key of a table that holds nothing under it. -/
def tomlVariant? : Value → Option String
  | .text name => some (String.ofList name)
  | .inline [(name, value)] => if isEmptyToml value then some (String.ofList name) else none
  | .table _ [(name, value)] => if isEmptyToml value then some (String.ofList name) else none
  | _ => none

/-- The text that a value is. -/
def tomlText? : Value → Option String
  | .text text => some (String.ofList text)
  | _ => none

/-- How TOML values are taken apart. No value stands for nothing. -/
def tomlDialect : Dialect Value :=
  { fields? := tomlFields?
    count? := fun value => match value with
      | .integer (.ofNat n) => some n
      | _ => none
    text? := tomlText?
    flag? := fun value => match value with
      | .flag flag => some flag
      | _ => none
    variant? := tomlVariant?
    optionalText? := fun value => (tomlText? value).map some }

/-- The settings that a TOML text describes. -/
def readToml? (text : List Char) : Option Settings :=
  (read? text).bind fun entries => tomlDialect.read (.table .written entries)

/-- The TOML text of settings, if every number can be written. -/
def writeToml? (settings : Settings) : Option (List Char) := write? settings.outline

end CommitHistory.Settings
