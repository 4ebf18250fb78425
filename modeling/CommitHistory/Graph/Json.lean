/-
# Rows of the graph as JSON

A row holds its commit, its kind, its lanes and its labels. A colour is a name, or a
record with the number of a rotating colour, which is at most 255.
-/

import CommitHistory.Commit.Json
import CommitHistory.Graph

namespace CommitHistory

open Json

namespace Color

/-- The value of a colour. -/
def toJson : Color → Value
  | .branch => .text "local"
  | .remote => .text "remote"
  | .base => .text "base"
  | .neutral => .text "neutral"
  | .lane index => .record [("lane", .ofNat index)]

/-- The colour that a name stands for. -/
def ofName? : String → Option Color
  | "local" => some .branch
  | "remote" => some .remote
  | "base" => some .base
  | "neutral" => some .neutral
  | _ => none

/-- The largest number of a rotating colour that can be read. -/
def maxLane : Nat := 255

/-- The colour that a value describes. -/
def ofJson? : Value → Option Color
  | .record [("lane", index)] => (index.count? maxLane).map Color.lane
  | value => value.variant?.bind ofName?

end Color

namespace Lane

/-- The record of a lane. -/
def toJson (lane : Lane) : Value :=
  .record [("id", .text lane.target), ("color", lane.color.toJson)]

/-- The lane that a value describes. -/
def ofJson? (value : Value) : Option Lane :=
  match value.slots? ["id", "color"] with
  | some [target, color] => do
    let target ← Value.need Value.text? target
    let color ← Value.need Color.ofJson? color
    some { target, color }
  | _ => none

end Lane

namespace ColoredLabel

/-- The record of a coloured label. -/
def toJson (colored : ColoredLabel) : Value :=
  .record [("label", colored.label.toJson), ("color", (colored.color.map Color.toJson).getD .null)]

/-- The coloured label that a value describes. -/
def ofJson? (value : Value) : Option ColoredLabel :=
  match value.slots? ["label", "color"] with
  | some [label, color] => do
    let label ← Value.need Label.ofJson? label
    let color ← Value.allow Color.ofJson? color
    some { label, color }
  | _ => none

end ColoredLabel

/-- The name of a kind of row. -/
def RowKind.name : RowKind → String
  | .head => "head"
  | .node => "node"

/-- The kind of row that a name stands for. -/
def RowKind.ofName? : String → Option RowKind
  | "head" => some .head
  | "node" => some .node
  | _ => none

namespace Row

/-- The names of the fields of a row, in the order in which they are written. -/
def fieldNames : List String :=
  ["history_item", "kind", "input_swimlanes", "output_swimlanes", "labels"]

/-- The record of a row. -/
def toJson (row : Row) : Value :=
  .record [("history_item", row.commit.toJson), ("kind", .text row.kind.name),
    ("input_swimlanes", .list (row.input.map Lane.toJson)),
    ("output_swimlanes", .list (row.output.map Lane.toJson)),
    ("labels", .list (row.labels.map ColoredLabel.toJson))]

/-- The row that a value describes. -/
def ofJson? (value : Value) : Option Row :=
  match value.slots? fieldNames with
  | some [commit, kind, input, output, labels] => do
    let commit ← Value.need Commit.ofJson? commit
    let kind ← Value.need (fun value => value.variant?.bind RowKind.ofName?) kind
    let input ← Value.need (Value.listOf? Lane.ofJson?) input
    let output ← Value.need (Value.listOf? Lane.ofJson?) output
    let labels ← Value.need (Value.listOf? ColoredLabel.ofJson?) labels
    some { commit, kind, input, output, labels }
  | _ => none

end Row

end CommitHistory
