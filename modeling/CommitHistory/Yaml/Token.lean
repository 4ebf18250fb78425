/-
# Tokens of a YAML text

Tokens are what the structure of a text is built from. Some of them are written, and
some stand for what only the indentation shows: where a list or a record begins, and
where it ends.
-/

import CommitHistory.Yaml.Tag

namespace CommitHistory.Yaml

/-- How a scalar is written. -/
inductive Style where
  | plain
  /-- Between apostrophes or quotation marks. -/
  | quoted
  /-- As lines that are kept. -/
  | literal
  /-- As lines that are folded. -/
  | folded
deriving DecidableEq, Repr

/-- A token. -/
inductive Token where
  /-- The directive that gives the version. -/
  | version (major minor : Nat)
  /-- The directive that says what a handle stands for. -/
  | handle (setting : Tag.Written)
  | documentStart
  | documentEnd
  /-- The beginning of a list by indentation. -/
  | listStart
  /-- The beginning of a record by indentation. -/
  | recordStart
  /-- The end of a list or a record by indentation. -/
  | blockEnd
  /-- A dash before an item. -/
  | item
  /-- What comes before a key. -/
  | key
  /-- The colon before a value. -/
  | value
  | openList
  | closeList
  | openRecord
  | closeRecord
  | comma
  /-- The name of a node that stands here as well. -/
  | alias (name : List Char)
  /-- The name that the node here gets. -/
  | anchor (name : List Char)
  | tag (tag : Tag.Written)
  | scalar (style : Style) (text : List Char)

end CommitHistory.Yaml
