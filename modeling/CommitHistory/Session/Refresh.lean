/-
# Refreshing the tree

Any number of refreshes may be asked for at once. Whoever asks first carries them out:
as long as one is pending it runs an update, and all that were asked for during one
update are answered by the next. An update waits for its turn at the tree and may be
told to drop the rows first.

## Main definitions

* `Update` — one update of the tree.
* `Refresh` — one request; its result is how many updates it ran.
-/

import CommitHistory.Session.Children
import CommitHistory.Session.Edit

namespace CommitHistory.Session

/-- Where an update stands. From `begin` to `leave` it has its turn. -/
inductive Update where
  | enter
  | waiting
  | begin
  | findCleared
  | clear (id : RepositoryId)
  | showing (stage : Showing)
  | leave
  | done

namespace World

/-- Replaces what is shown. -/
def redisplay (world : World) (change : Display → Display) : World :=
  { world with display := change world.display }

/-- A task comes to the turnstile of the tree. -/
def enterTurn (world : World) (task : Nat) : World :=
  world.redisplay fun display => { display with turn := display.turn.enter task }

/-- The task that has its turn at the tree leaves. -/
def leaveTurn (world : World) : World :=
  world.redisplay fun display => { display with turn := display.turn.leave }

/-- Whether a task has its turn at the tree. -/
def hasTurn (world : World) (task : Nat) : Bool := world.display.turn.admits task

end World

namespace Update

/-- Goes on when the lines are shown. -/
def ofShowing : Showing → Update
  | .done => .leave
  | stage => .showing stage

/-- What an update waits to be told. -/
def question? (world : World) : Update → Option Question
  | .showing stage => stage.question? world
  | _ => none

/-- The next step of an update. -/
def advance (task : Nat) (world : World) : Update → Option Reply → Option (World × Update)
  | .enter, none =>
    let entered := world.enterTurn task
    some (entered, if entered.hasTurn task then .begin else .waiting)
  | .waiting, none => if world.hasTurn task then some (world, .begin) else none
  | .begin, none =>
    some (world.redisplay fun display => { display with wantsClear := false },
      if world.display.wantsClear then .findCleared else .showing .start)
  | .findCleared, none =>
    match world.store.selectedRepository? with
    | some repository => some (world, .clear repository.id)
    | none => some (world, .showing .start)
  | .clear id, none => some (world.clear id, .showing .start)
  | .showing stage, reply =>
    (stage.advance task world reply).map fun next => (next.1, ofShowing next.2)
  | .leave, none => some (world.leaveTurn, .done)
  | _, _ => none

end Update

/-- Where a request for a refresh stands, with the updates that it ran. -/
inductive Refresh where
  | request (clear : Bool)
  | trigger
  | tryStart (runs : Nat)
  | takePending (runs : Nat)
  | updating (runs : Nat) (update : Update)
  | stop (runs : Nat)
  | lookAgain (runs : Nat)
  | done (runs : Nat)

namespace Refresh

/-- The first step of a request, which may ask for the rows to be dropped. -/
def start (clear : Bool) : Refresh := if clear then .request clear else .trigger

/-- Goes on when an update is over. -/
def ofUpdate (runs : Nat) : Update → Refresh
  | .done => .takePending (runs + 1)
  | update => .updating runs update

/-- What a request waits to be told. -/
def question? (world : World) : Refresh → Option Question
  | .updating _ update => update.question? world
  | _ => none

/-- The next step of a request. -/
def advance (task : Nat) (world : World) : Refresh → Option Reply → Option (World × Refresh)
  | .request clear, none =>
    some (world.redisplay fun display =>
      { display with wantsClear := display.wantsClear || clear }, .trigger)
  | .trigger, none =>
    some (world.redisplay fun display => { display with isPending := true }, .tryStart 0)
  | .tryStart runs, none =>
    if world.display.isRefreshing then some (world, .done runs)
    else some (world.redisplay fun display => { display with isRefreshing := true },
      .takePending runs)
  | .takePending runs, none =>
    some (world.redisplay fun display => { display with isPending := false },
      if world.display.isPending then .updating runs .enter else .stop runs)
  | .updating runs update, reply =>
    (update.advance task world reply).map fun next => (next.1, ofUpdate runs next.2)
  | .stop runs, none =>
    some (world.redisplay fun display => { display with isRefreshing := false }, .lookAgain runs)
  -- Without a second look a request made just before the stop would be lost.
  | .lookAgain runs, none =>
    some (world, if world.display.isPending then .tryStart runs else .done runs)
  | _, _ => none

end Refresh

end CommitHistory.Session
