/-
# More lines

A request for more lines appends a page to the selected repository and shows its rows.
Requests take turns with the updates of the tree, and a request is turned away while
another one is under way.
-/

import CommitHistory.Session.LoadMore
import CommitHistory.Session.Refresh

namespace CommitHistory.Session

/-- Where a request for more lines stands. From `loading` to `leave` it has its turn. -/
inductive MoreLines where
  | select
  | claim (repository : Repository)
  | enter (repository : Repository)
  | waiting (repository : Repository)
  | loading (repository : Repository) (stage : LoadMore)
  | showing (stage : Showing)
  | leave (result : Except Fault Bool)
  | release (result : Except Fault Bool)
  | done (result : Except Fault Bool)

namespace MoreLines

/-- Goes on when the page is there. -/
def ofLoadMore (repository : Repository) : LoadMore → MoreLines
  | .done (.ok true) => .showing .start
  | .done result => .leave result
  | stage => .loading repository stage

/-- Goes on when the lines are shown. -/
def ofShowing : Showing → MoreLines
  | .done => .leave (.ok true)
  | stage => .showing stage

/-- What a request waits to be told. -/
def question? (world : World) : MoreLines → Option Question
  | .loading repository stage => stage.question? world repository
  | .showing stage => stage.question? world
  | _ => none

/-- The next step of a request. -/
def advance (task : Nat) (world : World) : MoreLines → Option Reply → Option (World × MoreLines)
  | .select, none =>
    match world.store.selectedRepository? with
    | none => some (world, .done (.ok false))
    | some repository => some (world, .claim repository)
  | .claim repository, none =>
    if world.display.isLoadingMore then some (world, .done (.ok false))
    else some (world.redisplay fun display => { display with isLoadingMore := true },
      .enter repository)
  | .enter repository, none =>
    let entered := world.enterTurn task
    some (entered, if entered.hasTurn task then .loading repository .guard else .waiting repository)
  | .waiting repository, none =>
    if world.hasTurn task then some (world, .loading repository .guard) else none
  | .loading repository stage, reply =>
    (stage.advance task repository world reply).map fun next =>
      (next.1, ofLoadMore repository next.2)
  | .showing stage, reply =>
    (stage.advance task world reply).map fun next => (next.1, ofShowing next.2)
  | .leave result, none => some (world.leaveTurn, .release result)
  | .release result, none =>
    some (world.redisplay fun display => { display with isLoadingMore := false }, .done result)
  | _, _ => none

end MoreLines

end CommitHistory.Session
