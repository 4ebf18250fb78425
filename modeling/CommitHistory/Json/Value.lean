/-
# JSON values

A JSON value keeps the order of its fields and every field of the same name. Whole
numbers of at most 64 bits are kept exactly; of any other number only its text is kept.
-/

namespace CommitHistory.Json

/-- A JSON value. -/
inductive Value where
  | null
  | bool (value : Bool)
  | integer (value : Int)
  /-- A number with a fraction or an exponent, or one that does not fit into 64 bits. -/
  | other (text : List Char)
  | text (value : String)
  /-- A string that names one half of a surrogate pair without the other and so is no text. -/
  | unpaired
  | list (items : List Value)
  | record (fields : List (String × Value))
  /-- A record that has such a string for a name. -/
  | misnamed

namespace Value

/-- A text, or null for none. -/
def ofText? : Option String → Value
  | none => .null
  | some value => .text value

/-- A count. -/
def ofNat (n : Nat) : Value := .integer (n : Int)

/-- The count that a value is, if it is at most `limit`. -/
def count? (limit : Nat) : Value → Option Nat
  | .integer (.ofNat n) => if n ≤ limit then some n else none
  | _ => none

/-- The text that a value is. -/
def text? : Value → Option String
  | .text value => some value
  | _ => none

/-- The truth value that a value is. -/
def bool? : Value → Option Bool
  | .bool value => some value
  | _ => none

/-- The items of a list. -/
def items? : Value → Option (List Value)
  | .list items => some items
  | _ => none

/-- Nothing for null, and otherwise what `read` makes of the value. -/
def optional? {α : Type} (read : Value → Option α) : Value → Option (Option α)
  | .null => some none
  | value => (read value).map some

/-- The name of a variant without content: the name itself, or a record of the name with null. -/
def variant? : Value → Option String
  | .text name => some name
  | .record [(name, .null)] => some name
  | _ => none

/-- The values of the named fields. A record is read by name: other fields are passed over, a
named field must not occur twice. A list is read by position and must have a value for every
field. -/
def slots? (names : List String) : Value → Option (List (Option Value))
  | .record fields =>
    if names.any fun name => 1 < fields.countP (·.1 = name) then none
    else some (names.map fun name => List.lookup name fields)
  | .list items => if items.length = names.length then some (items.map some) else none
  | _ => none

/-- What `read` makes of a field that must be there. -/
def need {α : Type} (read : Value → Option α) (slot : Option Value) : Option α := slot.bind read

/-- What `read` makes of a field that may be missing or null. -/
def allow {α : Type} (read : Value → Option α) : Option Value → Option (Option α)
  | none => some none
  | some value => optional? read value

/-- What `read` makes of each item of a list. -/
def listOf? {α : Type} (read : Value → Option α) (value : Value) : Option (List α) :=
  value.items?.bind (·.mapM read)

end Value

end CommitHistory.Json
