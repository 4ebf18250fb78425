/-
# The world of a session

What all activities of a session share: the store, the turnstiles, the notices and the
tree that is shown. Each activity changes the world in small steps; between two steps
of one activity any other may take some.
-/

import CommitHistory.Session.Notice
import CommitHistory.Session.Store
import CommitHistory.Session.Turnstile

namespace CommitHistory.Session

/-- The tree that is shown, and what keeps its updates apart. -/
structure Display where
  lines : List TreeLine
  /-- Why there are no lines. -/
  fault : Option Fault
  /-- Updates and requests for more pass here one at a time. -/
  turn : Turnstile
  /-- Someone carries out refreshes, also for others. -/
  isRefreshing : Bool
  /-- A refresh was asked for and has not begun. -/
  isPending : Bool
  /-- The next update is to drop the rows that are there. -/
  wantsClear : Bool
  /-- A request for more is under way. -/
  isLoadingMore : Bool
deriving DecidableEq, Repr

/-- The tree without lines. -/
def Display.blank : Display :=
  { lines := [], fault := none, turn := .free, isRefreshing := false, isPending := false
    wantsClear := false, isLoadingMore := false }

/-- What all activities share. -/
structure World where
  /-- How many commits make a page. -/
  pageSize : Nat
  store : Store
  gates : Gates
  notices : List Notice
  display : Display
deriving DecidableEq, Repr

namespace World

/-- The fewest commits that make a page. -/
def minPageSize : Nat := 1

/-- The most commits that make a page. -/
def maxPageSize : Nat := 1000

/-- The page size within its bounds. -/
def clampPageSize (pageSize : Nat) : Nat := max minPageSize (min pageSize maxPageSize)

/-- The world before anything happens. -/
def start (pageSize : Nat) (scope : Scope) : World :=
  { pageSize := clampPageSize pageSize
    store := .empty scope, gates := .none, notices := [], display := .blank }

/-- Publishes notices. -/
def publish (world : World) (notices : List Notice) : World :=
  { world with notices := world.notices ++ notices }

/-- The notice of a new selection, if two stores select differently. -/
def selectionNotices (before after : Store) : List Notice :=
  if before.selected? = after.selected? then [] else [.selected after.selected?]

end World

end CommitHistory.Session
