/-
# Following notices

The tree keeps up with the store by reading its notices. A new selection and a new
scope refresh the tree, and so does the removal of the repository that is shown. Whoever
missed notices refreshes as well.
-/

import CommitHistory.Session.Refresh

namespace CommitHistory.Session

/-- Where the reaction to one notice stands; its result is how many updates it ran. -/
inductive Handling where
  | start (notice : Notice)
  | compare (id : RepositoryId)
  | refreshing (refresh : Refresh)
  | done (runs : Nat)

namespace Handling

/-- Goes on when the refresh is over. -/
def ofRefresh : Refresh → Handling
  | .done runs => .done runs
  | refresh => .refreshing refresh

/-- What the reaction waits to be told. -/
def question? (world : World) : Handling → Option Question
  | .refreshing refresh => refresh.question? world
  | _ => none

/-- Whether the tree shows a repository. -/
def isShown (world : World) (id : RepositoryId) : Bool :=
  world.display.lines.head?.any fun line => line.repository = id

/-- The next step of the reaction. -/
def advance (task : Nat) (world : World) : Handling → Option Reply → Option (World × Handling)
  | .start (.selected _), none => some (world, .refreshing (.start false))
  | .start (.scope _), none => some (world, .refreshing (.start false))
  | .start (.removed id), none => some (world, .compare id)
  | .start _, none => some (world, .done 0)
  | .compare id, none =>
    some (world, if isShown world id then .refreshing (.start false) else .done 0)
  | .refreshing refresh, reply =>
    (refresh.advance task world reply).map fun next => (next.1, ofRefresh next.2)
  | _, _ => none

end Handling

/-- Where a reader of notices stands. -/
inductive Follow where
  | reading (feed : Feed)
  | handling (feed : Feed) (stage : Handling)
  | refreshing (feed : Feed) (stage : Refresh)
  | over

namespace Follow

/-- Goes on when the reaction is over. -/
def ofHandling (feed : Feed) : Handling → Follow
  | .done _ => .reading feed
  | stage => .handling feed stage

/-- Goes on when the refresh is over. -/
def ofRefresh (feed : Feed) : Refresh → Follow
  | .done _ => .reading feed
  | stage => .refreshing feed stage

/-- What a reader waits to be told. -/
def question? (world : World) : Follow → Option Question
  | .handling _ stage => stage.question? world
  | .refreshing _ stage => stage.question? world
  | _ => none

/-- The next step of a reader. -/
def advance (task : Nat) (world : World) : Follow → Option Reply → Option (World × Follow)
  | .reading feed, none =>
    match feed.receive world.notices with
    | .nothingYet => none
    | .over => some (world, .over)
    | .delivered (.missed _) feed => some (world, .refreshing feed (.start false))
    | .delivered (.notice notice) feed => some (world, .handling feed (.start notice))
  | .handling feed stage, reply =>
    (stage.advance task world reply).map fun next => (next.1, ofHandling feed next.2)
  | .refreshing feed stage, reply =>
    (stage.advance task world reply).map fun next => (next.1, ofRefresh feed next.2)
  | _, _ => none

end Follow

end CommitHistory.Session
