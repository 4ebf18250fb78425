/-
# Appending a page

A request for more marks the rows of a repository and fetches them. Only one request
at a time is let through for a repository that has rows.
-/

import CommitHistory.Session.Fetch

namespace CommitHistory.Session

/-- Where a request for more stands. -/
inductive LoadMore where
  | guard
  | fetching (fetch : Fetch)
  | unmark (result : Except Fault Unit)
  | done (result : Except Fault Bool)

namespace LoadMore

/-- Goes on when the fetch is over. -/
def ofFetch : Fetch → LoadMore
  | .done result => .unmark (result.map fun _ => ())
  | fetch => .fetching fetch

/-- What a request waits to be told. -/
def question? (world : World) (repository : Repository) : LoadMore → Option Question
  | .fetching fetch => fetch.question? world repository
  | _ => none

/-- The next step of a request. -/
def advance (task : Nat) (repository : Repository) (world : World) :
    LoadMore → Option Reply → Option (World × LoadMore)
  | .guard, none =>
    match world.store.cached.get? repository.id with
    | none => some (world, .done (.ok false))
    | some cached =>
      if cached.loadingMore then some (world, .done (.ok false))
      else
        let marked := world.store.alter repository.id fun cached =>
          { cached with wantsMore := true, loadingMore := true }
        some ({ world with store := marked }, .fetching .lookup)
  | .fetching fetch, reply =>
    (fetch.advance task repository world reply).map fun next => (next.1, ofFetch next.2)
  -- The rows may be gone by now, and then there is no mark to take away.
  | .unmark result, none =>
    let unmarked := world.store.alter repository.id fun cached =>
      { cached with loadingMore := false }
    some ({ world with store := unmarked }, .done (result.map fun _ => true))
  | _, _ => none

end LoadMore

end CommitHistory.Session
