/-
# Showing the selected repository

The lines of the tree are the rows of the selected repository. Showing them replaces the
lines that are there; if they cannot be had, the tree is emptied and says why.
-/

import CommitHistory.Session.Fetch

namespace CommitHistory.Session

/-- Where the search for the lines stands. -/
inductive Children where
  | select
  | fetching (repository : Repository) (fetch : Fetch)
  | done (result : Except Fault (List TreeLine))

namespace Children

/-- Goes on when the fetch is over. -/
def ofFetch (repository : Repository) : Fetch → Children
  | .done result => .done (result.map (TreeLine.ofRows repository.id))
  | fetch => .fetching repository fetch

/-- What the search waits to be told. -/
def question? (world : World) : Children → Option Question
  | .fetching repository fetch => fetch.question? world repository
  | _ => none

/-- The next step of the search. -/
def advance (task : Nat) (world : World) : Children → Option Reply → Option (World × Children)
  | .select, none =>
    match world.store.selectedRepository? with
    | none => some (world, .done (.ok []))
    | some repository => some (world, .fetching repository .lookup)
  | .fetching repository fetch, reply =>
    (fetch.advance task repository world reply).map fun next =>
      (next.1, ofFetch repository next.2)
  | _, _ => none

end Children

/-- Where showing the lines stands. The lines and the fault are replaced one after the other. -/
inductive Showing where
  | reading (children : Children)
  | putLines (lines : List TreeLine)
  | dropFault
  | dropLines (fault : Fault)
  | putFault (fault : Fault)
  | done

namespace Showing

/-- The first step. -/
def start : Showing := .reading .select

/-- Goes on when the lines are there. -/
def ofChildren : Children → Showing
  | .done (.ok lines) => .putLines lines
  | .done (.error fault) => .dropLines fault
  | children => .reading children

/-- What showing the lines waits to be told. -/
def question? (world : World) : Showing → Option Question
  | .reading children => children.question? world
  | _ => none

/-- The next step. -/
def advance (task : Nat) (world : World) : Showing → Option Reply → Option (World × Showing)
  | .reading children, reply =>
    (children.advance task world reply).map fun next => (next.1, ofChildren next.2)
  | .putLines lines, none =>
    some ({ world with display := { world.display with lines } }, .dropFault)
  | .dropFault, none =>
    some ({ world with display := { world.display with fault := none } }, .done)
  | .dropLines fault, none =>
    some ({ world with display := { world.display with lines := [] } }, .putFault fault)
  | .putFault fault, none =>
    some ({ world with display := { world.display with fault := some fault } }, .done)
  | _, _ => none

end Showing

end CommitHistory.Session
