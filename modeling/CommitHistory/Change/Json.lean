/-
# Changes as JSON

A change is a record of its path, its old path and the name of its kind.
-/

import CommitHistory.Change
import CommitHistory.Json.Value

namespace CommitHistory

open Json

/-- The name of a kind of change. -/
def ChangeKind.name : ChangeKind → String
  | .added => "Added"
  | .modified => "Modified"
  | .deleted => "Deleted"
  | .renamed => "Renamed"
  | .copied => "Copied"
  | .unmerged => "Unmerged"
  | .typeChange => "TypeChange"

/-- The kind of change that a name stands for. -/
def ChangeKind.ofName? : String → Option ChangeKind
  | "Added" => some .added
  | "Modified" => some .modified
  | "Deleted" => some .deleted
  | "Renamed" => some .renamed
  | "Copied" => some .copied
  | "Unmerged" => some .unmerged
  | "TypeChange" => some .typeChange
  | _ => none

namespace Change

/-- The record of a change. -/
def toJson (change : Change) : Value :=
  .record [("path", .text change.path), ("original_path", Value.ofText? change.oldPath),
    ("status", .text change.kind.name)]

/-- The change that a value describes. -/
def ofJson? (value : Value) : Option Change :=
  match value.slots? ["path", "original_path", "status"] with
  | some [path, oldPath, kind] => do
    let path ← Value.need Value.text? path
    let oldPath ← Value.allow Value.text? oldPath
    let kind ← Value.need (fun value => value.variant?.bind ChangeKind.ofName?) kind
    some { path, oldPath, kind }
  | _ => none

end Change

end CommitHistory
