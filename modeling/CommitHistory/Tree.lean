/-
# The tree of rows

What is shown of a repository: the rows of its graph and, while lanes are still open
below the last of them, one line that offers more history.
-/

import CommitHistory.Graph

namespace CommitHistory

/-- The name under which a repository is known. -/
structure RepositoryId where
  text : String
deriving DecidableEq, Repr

/-- One line of the tree. -/
inductive TreeLine where
  | row (repository : RepositoryId) (row : Row)
  | more (repository : RepositoryId)
deriving DecidableEq, Repr

namespace TreeLine

/-- The repository that a line belongs to. -/
def repository : TreeLine → RepositoryId
  | .row repository _ => repository
  | .more repository => repository

/-- The same line for another repository. -/
def relabel : TreeLine → RepositoryId → TreeLine
  | .row _ shown, id => .row id shown
  | .more _, id => .more id

/-- The lines that show the rows of a repository. -/
def ofRows (repository : RepositoryId) (rows : List Row) : List TreeLine :=
  let lines := rows.map (TreeLine.row repository)
  match rows.getLast? with
  | none => lines
  | some last => if last.output.isEmpty then lines else lines ++ [.more repository]

/-- What can be done with a line. -/
inductive Action where
  | copyId
  | copyMessage
  | viewChanges
  | loadMore
deriving DecidableEq, Repr

/-- The actions that a line offers, in the order of its menu. -/
def actions : TreeLine → List Action
  | .row _ _ => [.viewChanges, .copyId, .copyMessage]
  | .more _ => [.loadMore]

/-- The text that an action copies from a line. -/
def clipboard? : TreeLine → Action → Option String
  | .row _ shown, .copyId => some shown.commit.id
  | .row _ shown, .copyMessage => some shown.commit.message
  | _, _ => none

end TreeLine

end CommitHistory
