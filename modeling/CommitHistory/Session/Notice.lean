/-
# Notices

Whoever wants to know what happens to the repositories reads notices. All notices are
kept in the order of their publication; a reader has a position among them. A reader
that falls more than `Notice.capacity` notices behind is told how many it missed and
goes on with the oldest of the last `Notice.capacity`.

## Main definitions

* `Notice` — what can happen.
* `Feed`, `Feed.receive` — a reader's position, and its next delivery.
-/

import CommitHistory.Scope
import CommitHistory.Tree

namespace CommitHistory.Session

/-- What happened. -/
inductive Notice where
  | added (id : RepositoryId)
  | removed (id : RepositoryId)
  | selected (id : Option RepositoryId)
  | scope (scope : Scope)
  | cleared (id : RepositoryId)
  /-- A page was stored: how many commits it added, and how many there are now. -/
  | loaded (id : RepositoryId) (appended total : Nat)
deriving DecidableEq, Repr

/-- How many notices are kept for a reader that does not read. -/
def Notice.capacity : Nat := 64

/-- What a reader is handed. -/
inductive Delivery where
  | missed (count : Nat)
  | notice (notice : Notice)
deriving DecidableEq, Repr

/-- What a reader at a position has not read yet. -/
def unread (notices : List Notice) (next : Nat) : List Delivery :=
  if next + Notice.capacity < notices.length then
    .missed (notices.length - Notice.capacity - next) ::
      (notices.drop (notices.length - Notice.capacity)).map .notice
  else (notices.drop next).map .notice

/-- A reader of notices that are still published, with the position of the next one, or of
notices that have come to an end. -/
inductive Feed where
  | live (next : Nat)
  | ended (rest : List Delivery)
deriving DecidableEq, Repr

/-- What a reader gets when it asks for the next notice. -/
inductive Receipt where
  | nothingYet
  | delivered (delivery : Delivery) (feed : Feed)
  | over
deriving DecidableEq, Repr

/-- The next delivery. -/
def Feed.receive (notices : List Notice) : Feed → Receipt
  | .live next =>
    if next + Notice.capacity < notices.length then
      .delivered (.missed (notices.length - Notice.capacity - next))
        (.live (notices.length - Notice.capacity))
    else match notices[next]? with
      | none => .nothingYet
      | some notice => .delivered (.notice notice) (.live (next + 1))
  | .ended [] => .over
  | .ended (delivery :: rest) => .delivered delivery (.ended rest)

end CommitHistory.Session
