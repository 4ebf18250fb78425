/-
# Reports as JSON

A tree is a list of records with the type of each line, and changes are a list of
records.
-/

import CommitHistory.Change.Json
import CommitHistory.Graph.Json
import CommitHistory.Json.Writer
import CommitHistory.Tree

namespace CommitHistory

open Json

/-- The record of a line of the tree. -/
def TreeLine.toJson : TreeLine → Value
  | .row id shown =>
    .record [("type", .text "history_item"), ("repository", .text id.text),
      ("view_model", shown.toJson)]
  | .more id => .record [("type", .text "load_more"), ("repository", .text id.text)]

namespace Report

/-- The JSON text of a tree. -/
def treeJson (layout : Layout) (lines : List TreeLine) : List Char :=
  write layout (.list (lines.map TreeLine.toJson))

/-- The JSON text of a list of changes. -/
def changesJson (layout : Layout) (changes : List Change) : List Char :=
  write layout (.list (changes.map Change.toJson))

end Report

end CommitHistory
