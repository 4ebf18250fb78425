/-
# The common ancestor

The common ancestor of the branch that is checked out with its remote branch and its base.
The lineage is taken from the rows that are cached, and asked for only without them.
-/

import CommitHistory.Session.World

namespace CommitHistory.Session

/-- Where the search stands. -/
inductive Ancestor where
  | note
  | askLineage
  | askAncestor (ids : List String)
  | done (result : Except Fault (Option String))

namespace Ancestor

/-- What the search waits to be told. -/
def question? (repository : Repository) (search : Ancestor) : Option Question :=
  repository.source.bind fun source =>
    match search with
    | .askLineage => some { source, query := .lineage }
    | .askAncestor ids => some { source, query := .ancestor ids }
    | _ => none

/-- Goes on with a lineage. A branch alone has no common ancestor. -/
def ofLineage (lineage : Lineage) : Ancestor :=
  if lineage.ids.length < 2 then .done (.ok none) else .askAncestor lineage.ids

/-- The next step of the search. -/
def advance (repository : Repository) (world : World) :
    Ancestor → Option Reply → Option (World × Ancestor)
  | .note, none =>
    if repository.source.isNone then some (world, .done (.ok none))
    else match world.store.cached.get? repository.id with
      | some cached => some (world, ofLineage cached.lineage)
      | none => some (world, .askLineage)
  | .askLineage, some (.lineage (.error fault)) => some (world, .done (.error fault))
  | .askLineage, some (.lineage (.ok none)) => some (world, .done (.ok none))
  | .askLineage, some (.lineage (.ok (some lineage))) => some (world, ofLineage lineage)
  | .askAncestor _, some (.ancestor found) => some (world, .done (.ok found))
  | _, _ => none

end Ancestor

end CommitHistory.Session
