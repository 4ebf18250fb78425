/-
# Commits as JSON

A commit is a record of eight fields; its time is text in RFC 3339. Reading needs
every field except the address and the statistics, which may be missing or null.
-/

import CommitHistory.Commit
import CommitHistory.Json.Value
import CommitHistory.Text.Numeral

namespace CommitHistory

open Json

/-- The name of a kind of label. -/
def LabelKind.name : LabelKind → String
  | .branch => "branch"
  | .remoteBranch => "remote_branch"
  | .tag => "tag"

/-- The kind of label that a name stands for. -/
def LabelKind.ofName? : String → Option LabelKind
  | "branch" => some .branch
  | "remote_branch" => some .remoteBranch
  | "tag" => some .tag
  | _ => none

namespace Label

/-- The record of a label. -/
def toJson (label : Label) : Value :=
  .record [("title", .text label.title), ("kind", .text label.kind.name)]

/-- The label that a value describes. -/
def ofJson? (value : Value) : Option Label :=
  match value.slots? ["title", "kind"] with
  | some [title, kind] => do
    let title ← Value.need Value.text? title
    let kind ← Value.need (fun value => value.variant?.bind LabelKind.ofName?) kind
    some { title, kind }
  | _ => none

end Label

namespace Statistics

/-- The record of statistics. -/
def toJson (statistics : Statistics) : Value :=
  .record [("files_changed", .ofNat statistics.filesChanged),
    ("insertions", .ofNat statistics.insertions), ("deletions", .ofNat statistics.deletions)]

/-- The statistics that a value describes. -/
def ofJson? (value : Value) : Option Statistics :=
  match value.slots? ["files_changed", "insertions", "deletions"] with
  | some [files, insertions, deletions] => do
    let filesChanged ← Value.need (Value.count? Text.Numeral.maxCount) files
    let insertions ← Value.need (Value.count? Text.Numeral.maxCount) insertions
    let deletions ← Value.need (Value.count? Text.Numeral.maxCount) deletions
    some { filesChanged, insertions, deletions }
  | _ => none

end Statistics

/-- The time as text. -/
def Timestamp.toJson (time : Timestamp) : Value := .text (String.ofList time.render)

/-- The time that a text gives. -/
def Timestamp.ofJson? (value : Value) : Option Timestamp :=
  value.text?.bind fun text => Timestamp.parse? text.toList

namespace Commit

/-- The names of the fields of a commit, in the order in which they are written. -/
def fieldNames : List String :=
  ["id", "parent_ids", "message", "author", "author_email", "timestamp", "statistics", "labels"]

/-- The record of a commit. -/
def toJson (commit : Commit) : Value :=
  .record [("id", .text commit.id), ("parent_ids", .list (commit.parents.map Value.text)),
    ("message", .text commit.message), ("author", .text commit.author),
    ("author_email", Value.ofText? commit.email), ("timestamp", commit.time.toJson),
    ("statistics", (commit.statistics.map Statistics.toJson).getD .null),
    ("labels", .list (commit.labels.map Label.toJson))]

/-- The commit that a value describes. -/
def ofJson? (value : Value) : Option Commit :=
  match value.slots? fieldNames with
  | some [id, parents, message, author, email, time, statistics, labels] => do
    let id ← Value.need Value.text? id
    let parents ← Value.need (Value.listOf? Value.text?) parents
    let message ← Value.need Value.text? message
    let author ← Value.need Value.text? author
    let email ← Value.allow Value.text? email
    let time ← Value.need Timestamp.ofJson? time
    let statistics ← Value.allow Statistics.ofJson? statistics
    let labels ← Value.need (Value.listOf? Label.ofJson?) labels
    some { id, parents, message, author, email, time, statistics, labels }
  | _ => none

end Commit

end CommitHistory
