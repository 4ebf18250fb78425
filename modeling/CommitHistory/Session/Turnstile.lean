/-
# Turnstiles

A turnstile lets one task through at a time, in the order in which they came: whoever
leaves hands it to the first who waits. Every repository has a turnstile for fetching,
which is set up when it is first needed and forgotten with the repository. Tasks that
wait at a forgotten turnstile still pass through it one by one.

## Main definitions

* `Turnstile.enter`, `Turnstile.leave` — passing through.
* `Gates` — the turnstiles of the repositories.
-/

import CommitHistory.Table
import CommitHistory.Tree

namespace CommitHistory.Session

/-- The task that is inside and the tasks that wait, in the order in which they came. -/
structure Turnstile where
  holder : Option Nat
  waiting : List Nat
deriving DecidableEq, Repr

namespace Turnstile

/-- The turnstile that nobody uses. -/
def free : Turnstile := { holder := none, waiting := [] }

/-- A task comes: it is inside at once if nobody else is, and waits otherwise. -/
def enter (turnstile : Turnstile) (task : Nat) : Turnstile :=
  match turnstile.holder with
  | none => { turnstile with holder := some task }
  | some _ => { turnstile with waiting := turnstile.waiting ++ [task] }

/-- The task inside leaves, and the first that waits is inside. -/
def leave (turnstile : Turnstile) : Turnstile :=
  match turnstile.waiting with
  | [] => free
  | next :: rest => { holder := some next, waiting := rest }

/-- Whether a task is inside. -/
def admits (turnstile : Turnstile) (task : Nat) : Bool := turnstile.holder == some task

end Turnstile

/-- All turnstiles ever set up, and the number of the one that a repository uses now. -/
structure Gates where
  turnstiles : List Turnstile
  current : Table RepositoryId Nat
deriving DecidableEq, Repr

namespace Gates

/-- No turnstile is set up. -/
def none : Gates := { turnstiles := [], current := .empty }

/-- The turnstile with a number. -/
def turnstile (gates : Gates) (gate : Nat) : Turnstile := gates.turnstiles.getD gate .free

/-- The number of the turnstile that a repository uses, which is set up if need be. -/
def find (gates : Gates) (id : RepositoryId) : Gates × Nat :=
  match gates.current.get? id with
  | some gate => (gates, gate)
  | .none =>
    let gate := gates.turnstiles.length
    ({ turnstiles := gates.turnstiles ++ [.free], current := gates.current.put id gate }, gate)

/-- Forgets the turnstile of a repository. -/
def forget (gates : Gates) (id : RepositoryId) : Gates :=
  { gates with current := gates.current.erase id }

/-- A task comes to a turnstile. -/
def enter (gates : Gates) (gate task : Nat) : Gates :=
  { gates with turnstiles := gates.turnstiles.set gate ((gates.turnstile gate).enter task) }

/-- The task inside a turnstile leaves. -/
def leave (gates : Gates) (gate : Nat) : Gates :=
  { gates with turnstiles := gates.turnstiles.set gate (gates.turnstile gate).leave }

/-- Whether a task is inside a turnstile. -/
def admits (gates : Gates) (gate task : Nat) : Bool := (gates.turnstile gate).admits task

end Gates

end CommitHistory.Session
