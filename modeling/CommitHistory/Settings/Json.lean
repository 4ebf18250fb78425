/-
# Settings as JSON

Settings are a record of two records. A list may stand for a record; its items are the
first fields in order.
-/

import CommitHistory.Json.Reader
import CommitHistory.Json.Writer
import CommitHistory.Settings.Outline

namespace CommitHistory.Settings

open Json

/-- The values under names, where a list may be shorter than the names. -/
def jsonFields? (names : List String) : Value → Option (List (Option Value))
  | .list items =>
    if names.length < items.length then none
    else some ((items.map some) ++ List.replicate (names.length - items.length) none)
  | value => value.slots? names

/-- How JSON values are taken apart. -/
def jsonDialect : Dialect Value :=
  { fields? := jsonFields?
    count? := Value.count? Text.Numeral.maxCount
    text? := Value.text?
    flag? := Value.bool?
    variant? := Value.variant?
    optionalText? := Value.optional? Value.text? }

/-- The JSON value of a scalar. -/
def Scalar.toJson : Scalar → Value
  | .text value => .text value
  | .count value => .ofNat value
  | .flag value => .bool value
  | .nothing => .null

/-- The JSON value of settings. -/
def toJson (settings : Settings) : Value :=
  .record <| settings.outline.map fun part =>
    (part.1, .record (part.2.map fun entry => (entry.1, entry.2.toJson)))

/-- The JSON text of settings. -/
def writeJson (settings : Settings) : List Char := write .pretty settings.toJson

/-- The settings that a JSON text describes. -/
def readJson? (text : List Char) : Option Settings := (read? text).bind jsonDialect.read

end CommitHistory.Settings
