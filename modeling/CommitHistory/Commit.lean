/-
# Commits

A commit as a history shows it: its identifier, the identifiers of its parents, who
wrote it and when, the labels that point to it, and the size of its change where
that is known.
-/

import CommitHistory.Text.Lines
import CommitHistory.Timestamp

namespace CommitHistory

/-- What kind of reference a label stands for. -/
inductive LabelKind where
  | branch
  | remoteBranch
  | tag
deriving DecidableEq, Repr

/-- A reference that points to a commit, under its short name. -/
structure Label where
  title : String
  kind : LabelKind
deriving DecidableEq, Repr

/-- The size of a change. -/
structure Statistics where
  filesChanged : Nat
  insertions : Nat
  deletions : Nat
deriving DecidableEq, Repr

/-- One commit. -/
structure Commit where
  id : String
  parents : List String
  message : String
  author : String
  email : Option String
  time : Timestamp
  statistics : Option Statistics
  labels : List Label
deriving DecidableEq, Repr

namespace Commit

/-- The first line of the message. -/
def subject (commit : Commit) : String :=
  String.ofList ((Text.lines commit.message.toList).headD [])

/-- The first eight characters of the identifier. -/
def shortId (commit : Commit) : String := String.ofList (commit.id.toList.take 8)

end Commit

end CommitHistory
