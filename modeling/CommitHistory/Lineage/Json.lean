/-
# Lineages as JSON

A lineage is a record that names its remote branch and its base as records of their own,
or as null.
-/

import CommitHistory.Json.Value
import CommitHistory.Lineage

namespace CommitHistory

open Json

/-- The record of a reference. -/
def Reference.toJson (reference : Reference) : Value :=
  .record [("id", .text reference.id), ("name", .text reference.name),
    ("revision", Value.ofText? reference.revision)]

/-- The record of a lineage. -/
def Lineage.toJson (lineage : Lineage) : Value :=
  .record [("id", .text lineage.id), ("name", .text lineage.name),
    ("revision", Value.ofText? lineage.revision),
    ("remote", (lineage.remote.map Reference.toJson).getD .null),
    ("base", (lineage.base.map Reference.toJson).getD .null)]

end CommitHistory
