/-
# Repositories and their sources

A repository is known by its name. Its history comes from a source, which answers four
queries; a repository without a source has no history.
-/

import CommitHistory.Change
import CommitHistory.Commit
import CommitHistory.Lineage
import CommitHistory.Text.Quoted
import CommitHistory.Tree

namespace CommitHistory.Session

/-- A repository, the directory of its root, and the number of its source. -/
structure Repository where
  id : RepositoryId
  root : String
  source : Option Nat
deriving DecidableEq, Repr

/-- A repository in one line, for people who look for a mistake. -/
def Repository.describe (repository : Repository) : String :=
  let id := String.ofList (Text.Quoted.quote repository.id.text)
  let root := String.ofList (Text.Quoted.quote repository.root)
  let hasSource := if repository.source.isSome then "true" else "false"
  "Repository \x7b id: RepositoryId(" ++ id ++ "), root: " ++ root ++ ", has_provider: " ++
    hasSource ++ " \x7d"

/-- What a source can be asked for. -/
inductive Query where
  | lineage
  /-- So many commits of the named references, or of all if none is named, after the first few. -/
  | page (ids : List String) (limit skip : Nat)
  | changes (id : String) (parent : Option String)
  | ancestor (ids : List String)
deriving DecidableEq, Repr

/-- What a source says. A common ancestor that cannot be found is no fault. -/
inductive Reply where
  | lineage (answer : Except Fault (Option Lineage))
  | page (answer : Except Fault (List Commit))
  | changes (answer : Except Fault (List Change))
  | ancestor (answer : Option String)

/-- A query to a source. -/
structure Question where
  source : Nat
  query : Query
deriving DecidableEq, Repr

end CommitHistory.Session
