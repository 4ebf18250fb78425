/-
# The store of a session

The store knows which repositories are tracked, which of them is selected, which scope
histories have, and for each repository the rows fetched so far. A count for each
repository goes up whenever its rows are dropped, so that an answer to a question that
was asked before can be told from an answer to a later one.

## Main definitions

* `Cached` — the rows of one repository.
* `Store.selected?` — the repository that is shown.
* `Store.invalidate`, `Store.setScope` — dropping rows.
-/

import CommitHistory.Session.Repository
import CommitHistory.Scope
import CommitHistory.Table

namespace CommitHistory.Session

/-- The rows fetched for a repository, and the lineage they were fetched for. -/
structure Cached where
  lineage : Lineage
  graph : Graph
  /-- The next fetch is to append a page. -/
  wantsMore : Bool
  /-- Someone is appending a page. -/
  loadingMore : Bool
deriving DecidableEq, Repr

/-- What is known about repositories. -/
structure Store where
  repositories : Table RepositoryId Repository
  /-- The repository that was chosen by hand. -/
  chosen : Option RepositoryId
  /-- The repository that is worked in. -/
  active : Option RepositoryId
  scope : Scope
  cached : Table RepositoryId Cached
  generations : Table RepositoryId Nat
deriving DecidableEq, Repr

namespace Store

/-- The store that tracks nothing. -/
def empty (scope : Scope) : Store :=
  { repositories := .empty, chosen := none, active := none, scope
    cached := .empty, generations := .empty }

/-- Whether a repository is tracked. -/
def isTracked (store : Store) (id : RepositoryId) : Bool := store.repositories.contains id

/-- The tracked repositories in the order of their names. -/
def tracked (store : Store) : List RepositoryId :=
  store.repositories.keys.mergeSort fun first second => first.text ≤ second.text

/-- The repository that is shown: the chosen one if it is tracked, else the active one if that
is tracked. -/
def selected? (store : Store) : Option RepositoryId :=
  (store.chosen.filter store.isTracked).or (store.active.filter store.isTracked)

/-- The repository that is shown, with all that is known about it. -/
def selectedRepository? (store : Store) : Option Repository :=
  store.selected?.bind store.repositories.get?

/-- How often the rows of a repository were dropped. -/
def generation (store : Store) (id : RepositoryId) : Nat := (store.generations.get? id).getD 0

/-- The rows of a repository, unless a page is to be appended. -/
def fresh? (store : Store) (id : RepositoryId) : Option (List Row) :=
  ((store.cached.get? id).filter fun cached => !cached.wantsMore).map fun cached =>
    cached.graph.rows

/-- How many commits of a repository are there. -/
def count (store : Store) (id : RepositoryId) : Nat :=
  ((store.cached.get? id).map fun cached => cached.graph.size).getD 0

/-- Whether someone is appending a page to a repository. -/
def isLoadingMore (store : Store) (id : RepositoryId) : Bool :=
  ((store.cached.get? id).map Cached.loadingMore).getD false

/-- Drops the rows of a repository. -/
def invalidate (store : Store) (id : RepositoryId) : Store :=
  { store with
    generations := store.generations.put id (store.generation id + 1)
    cached := store.cached.erase id }

/-- Changes the rows of a repository, if there are any. -/
def alter (store : Store) (id : RepositoryId) (change : Cached → Cached) : Store :=
  match store.cached.get? id with
  | none => store
  | some cached => { store with cached := store.cached.put id (change cached) }

/-- Tracks a repository. -/
def add (store : Store) (repository : Repository) : Store :=
  { store with repositories := store.repositories.put repository.id repository }

/-- Drops a repository with its rows; it is neither chosen nor active any more. -/
def remove (store : Store) (id : RepositoryId) : Store :=
  -- The count of drops stays, so that it never repeats when the repository comes back.
  let dropped := ({ store with repositories := store.repositories.erase id }).invalidate id
  { dropped with
    chosen := dropped.chosen.filter fun other => other ≠ id
    active := dropped.active.filter fun other => other ≠ id }

/-- Changes the scope and drops the rows of every repository. -/
def setScope (store : Store) (scope : Scope) : Store :=
  store.cached.keys.foldl invalidate { store with scope }

end Store

end CommitHistory.Session
