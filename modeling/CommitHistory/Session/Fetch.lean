/-
# Fetching the rows of a repository

A fetch hands out the rows that are cached. If there are none, or one more page is
wanted, it passes the turnstile of the repository, looks again, notes what is cached,
asks the source for the lineage and for the next page, and stores the longer graph. It
holds nothing while it asks, so it stores only if nothing was dropped meanwhile.

## Main definitions

* `Ticket` — what a fetch noted before it asked.
* `Fetch` — where a fetch stands.
* `Fetch.advance` — its next step.
* `Fetch.question?` — what it waits to be told.
-/

import CommitHistory.Session.World

namespace CommitHistory.Session

/-- What was there before a fetch asked: the rows to append to, how often rows were dropped, and
the scope. -/
structure Ticket where
  basis : Option (Lineage × Graph)
  generation : Nat
  scope : Scope
deriving DecidableEq, Repr

namespace Ticket

/-- What is there now. -/
def take (store : Store) (id : RepositoryId) : Ticket :=
  { basis := (store.cached.get? id).map fun cached => (cached.lineage, cached.graph)
    generation := store.generation id
    scope := store.scope }

/-- The graph to append to: what was there, unless it belongs to another lineage. -/
def graph (ticket : Ticket) (lineage : Lineage) : Graph :=
  match ticket.basis with
  | none => .empty
  | some (known, graph) => if known = lineage then graph else .empty

/-- The references whose commits are asked for; none stands for all. -/
def ids (ticket : Ticket) (lineage : Lineage) : List String :=
  match ticket.scope with
  | .all => []
  | .lineage => lineage.ids

/-- The query for the next page. -/
def pageQuery (ticket : Ticket) (pageSize : Nat) (lineage : Lineage) : Query :=
  .page (ticket.ids lineage) pageSize (ticket.graph lineage).size

/-- The graph with a page appended. -/
def grown (ticket : Ticket) (lineage : Lineage) (page : List Commit) : Graph :=
  (ticket.graph lineage).extend page (.ofLineage lineage (ticket.scope = .all)) lineage.revision

/-- Whether nothing was dropped since the ticket was taken and the scope is the same. -/
def isValid (ticket : Ticket) (store : Store) (id : RepositoryId) : Bool :=
  store.generation id = ticket.generation && store.scope = ticket.scope

end Ticket

/-- Where a fetch stands. From `recheck` to `keep` it is inside a turnstile. -/
inductive Fetch where
  | lookup
  | findGate
  | enter (gate : Nat)
  | waiting (gate : Nat)
  | recheck (gate : Nat)
  | note (gate : Nat)
  | askLineage (gate : Nat) (ticket : Ticket)
  | askPage (gate : Nat) (ticket : Ticket) (lineage : Lineage)
  /-- There is no lineage, so there is nothing to show. -/
  | drop (gate : Nat) (ticket : Ticket)
  | keep (gate : Nat) (ticket : Ticket) (lineage : Lineage) (page : List Commit)
  | done (result : Except Fault (List Row))

namespace Fetch

/-- What a fetch of a repository waits to be told. -/
def question? (world : World) (repository : Repository) (fetch : Fetch) : Option Question :=
  repository.source.bind fun source =>
    match fetch with
    | .askLineage _ _ => some { source, query := .lineage }
    | .askPage _ ticket lineage =>
      some { source, query := ticket.pageQuery world.pageSize lineage }
    | _ => none

/-- Leaves the turnstile with a result. -/
def finish (world : World) (gate : Nat) (result : Except Fault (List Row)) : World × Fetch :=
  ({ world with gates := world.gates.leave gate }, .done result)

/-- Stores a graph for a repository. -/
def store (world : World) (id : RepositoryId) (lineage : Lineage) (graph : Graph)
    (appended : Nat) : World :=
  let cached : Cached :=
    { lineage, graph, wantsMore := false, loadingMore := world.store.isLoadingMore id }
  ({ world with store :=
      { world.store with cached := world.store.cached.put id cached } }).publish
    [.loaded id appended graph.size]

/-- The next step of a fetch by a task. A reply is what the source says to the question that the
fetch waits for; without one the fetch goes on by itself, if it can. -/
def advance (task : Nat) (repository : Repository) (world : World) :
    Fetch → Option Reply → Option (World × Fetch)
  | .lookup, none =>
    if repository.source.isNone then some (world, .done (.ok []))
    else match world.store.fresh? repository.id with
      | some rows => some (world, .done (.ok rows))
      | none => some (world, .findGate)
  | .findGate, none =>
    let found := world.gates.find repository.id
    some ({ world with gates := found.1 }, .enter found.2)
  | .enter gate, none =>
    let gates := world.gates.enter gate task
    some ({ world with gates }, if gates.admits gate task then .recheck gate else .waiting gate)
  | .waiting gate, none =>
    if world.gates.admits gate task then some (world, .recheck gate) else none
  -- Whoever was inside before may have fetched what is wanted here.
  | .recheck gate, none =>
    match world.store.fresh? repository.id with
    | some rows => some (finish world gate (.ok rows))
    | none => some (world, .note gate)
  | .note gate, none => some (world, .askLineage gate (.take world.store repository.id))
  | .askLineage gate _, some (.lineage (.error fault)) => some (finish world gate (.error fault))
  | .askLineage gate ticket, some (.lineage (.ok none)) => some (world, .drop gate ticket)
  | .askLineage gate ticket, some (.lineage (.ok (some lineage))) =>
    some (world, .askPage gate ticket lineage)
  | .askPage gate _ _, some (.page (.error fault)) => some (finish world gate (.error fault))
  | .askPage gate ticket lineage, some (.page (.ok page)) =>
    some (world, .keep gate ticket lineage page)
  | .drop gate ticket, none =>
    -- Rows that came after the question are not touched.
    if world.store.generation repository.id = ticket.generation then
      some (finish { world with store := world.store.invalidate repository.id } gate (.ok []))
    else some (finish world gate (.ok []))
  | .keep gate ticket lineage page, none =>
    let graph := ticket.grown lineage page
    -- An answer to a question that is out of date is handed out and not stored.
    if ticket.isValid world.store repository.id then
      some (finish (store world repository.id lineage graph page.length) gate (.ok graph.rows))
    else some (finish world gate (.ok graph.rows))
  | _, _ => none

end Fetch

end CommitHistory.Session
