/-
# Edits of the store

Repositories come and go, one of them is selected, the scope changes, and rows are
marked or dropped. Every edit but the removal of a repository is one step; the removal
forgets the turnstile of the repository in a step of its own.
-/

import CommitHistory.Session.World

namespace CommitHistory.Session

/-- A change of the store in one step. -/
inductive Edit where
  | add (repository : Repository)
  /-- Chooses a repository by hand, or none, so that the active one is followed. -/
  | choose (id : Option RepositoryId)
  | activate (id : Option RepositoryId)
  | setScope (scope : Scope)
  | setWantsMore (id : RepositoryId) (wantsMore : Bool)
  | clear (id : RepositoryId)
deriving DecidableEq, Repr

namespace World

/-- Replaces the store and publishes notices, at the end the one of a new selection. -/
def reselect (world : World) (store : Store) (notices : List Notice) : World :=
  ({ world with store }).publish (notices ++ selectionNotices world.store store)

/-- Drops the rows of a repository and says so. -/
def clear (world : World) (id : RepositoryId) : World :=
  ({ world with store := world.store.invalidate id }).publish [.cleared id]

/-- What someone who reads from the beginning gets when nothing more will be published. -/
def closedFeed (world : World) : Feed := .ended (unread world.notices 0)

end World

/-- The world after an edit. A scope that is set already changes nothing. -/
def Edit.apply (world : World) : Edit → World
  | .add repository => world.reselect (world.store.add repository) [.added repository.id]
  | .choose id => world.reselect { world.store with chosen := id } []
  | .activate id => world.reselect { world.store with active := id } []
  | .setScope scope =>
    -- Rows fetched for the same scope stay.
    if world.store.scope = scope then world
    else ({ world with store := world.store.setScope scope }).publish [.scope scope]
  | .setWantsMore id wantsMore =>
    { world with store := world.store.alter id fun cached => { cached with wantsMore } }
  | .clear id => world.clear id

/-- Where the removal of a repository stands. -/
inductive Removal where
  | start (id : RepositoryId)
  | forgetGate (id : RepositoryId) (notices : List Notice)
  | done
deriving DecidableEq, Repr

/-- The next step of a removal. -/
def Removal.advance (world : World) : Removal → Option Reply → Option (World × Removal)
  | .start id, none =>
    let store := world.store.remove id
    some ({ world with store }, .forgetGate id (World.selectionNotices world.store store))
  | .forgetGate id notices, none =>
    some (({ world with gates := world.gates.forget id }).publish (.removed id :: notices), .done)
  | _, _ => none

end CommitHistory.Session
