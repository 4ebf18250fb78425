/-
# Activities

An activity is a call under way: it stands somewhere between two of its steps. A session
is a world with the activities that were started in it, and a run of a session is a
list of moves: someone starts a call, or an activity takes its next step. Nothing is
said about the order of the moves or about what sources reply, so what holds of every
run holds of every schedule and every source.

## Main definitions

* `Call`, `Activity`, `Result` — what can be asked of a session, where it stands, and
  what comes of it.
* `Session.advance` — one step of one activity.
* `Move`, `Session.play` — runs.
-/

import CommitHistory.Session.Ancestor
import CommitHistory.Session.Follow
import CommitHistory.Session.MoreLines
import CommitHistory.Session.Opening

namespace CommitHistory.Session

/-- What can be asked of a session. -/
inductive Call where
  | fetch (repository : Repository)
  | loadMore (repository : Repository)
  | ancestor (repository : Repository)
  | edit (change : Edit)
  | remove (id : RepositoryId)
  | children
  | refresh (clear : Bool)
  | moreLines
  | handle (notice : Notice)
  | follow (feed : Feed)
  | openLine (line : TreeLine)
  /-- Asks a source directly. -/
  | ask (question : Question)

/-- Where a call stands. -/
inductive Activity where
  | fetch (repository : Repository) (stage : Fetch)
  | loadMore (repository : Repository) (stage : LoadMore)
  | ancestor (repository : Repository) (stage : Ancestor)
  | edit (change : Edit)
  | edited
  | remove (stage : Removal)
  | children (stage : Children)
  | refresh (stage : Refresh)
  | moreLines (stage : MoreLines)
  | handle (stage : Handling)
  | follow (stage : Follow)
  | openLine (stage : Opening)
  | ask (question : Question)
  | told (reply : Reply)

/-- What comes of a call. -/
inductive Result where
  | rows (result : Except Fault (List Row))
  | flag (result : Except Fault Bool)
  | ancestor (result : Except Fault (Option String))
  | nothing
  | lines (result : Except Fault (List TreeLine))
  | runs (count : Nat)
  | changes (result : Except Fault (List Change))
  | reply (reply : Reply)
  | over

/-- The first step of a call. -/
def Call.begin : Call → Activity
  | .fetch repository => .fetch repository .lookup
  | .loadMore repository => .loadMore repository .guard
  | .ancestor repository => .ancestor repository .note
  | .edit change => .edit change
  | .remove id => .remove (.start id)
  | .children => .children .select
  | .refresh clear => .refresh (.start clear)
  | .moreLines => .moreLines .select
  | .handle notice => .handle (.start notice)
  | .follow feed => .follow (.reading feed)
  | .openLine line => .openLine (.find line)
  | .ask question => .ask question

namespace Activity

/-- What an activity waits to be told. -/
def question? (world : World) : Activity → Option Question
  | .fetch repository stage => stage.question? world repository
  | .loadMore repository stage => stage.question? world repository
  | .ancestor repository stage => stage.question? repository
  | .children stage => stage.question? world
  | .refresh stage => stage.question? world
  | .moreLines stage => stage.question? world
  | .handle stage => stage.question? world
  | .follow stage => stage.question? world
  | .openLine stage => stage.question?
  | .ask asked => some asked
  | _ => none

/-- What came of an activity that is over. -/
def result? : Activity → Option Result
  | .fetch _ (.done result) => some (.rows result)
  | .loadMore _ (.done result) => some (.flag result)
  | .ancestor _ (.done result) => some (.ancestor result)
  | .edited => some .nothing
  | .remove .done => some .nothing
  | .children (.done result) => some (.lines result)
  | .refresh (.done runs) => some (.runs runs)
  | .moreLines (.done result) => some (.flag result)
  | .handle (.done runs) => some (.runs runs)
  | .follow .over => some .over
  | .openLine (.done result) => some (.changes result)
  | .told reply => some (.reply reply)
  | _ => none

/-- The next step of an activity. -/
def advance (task : Nat) (world : World) :
    Activity → Option Reply → Option (World × Activity)
  | .fetch repository stage, reply =>
    (stage.advance task repository world reply).map (Prod.map id (Activity.fetch repository))
  | .loadMore repository stage, reply =>
    (stage.advance task repository world reply).map (Prod.map id (Activity.loadMore repository))
  | .ancestor repository stage, reply =>
    (stage.advance repository world reply).map (Prod.map id (Activity.ancestor repository))
  | .edit change, none => some (change.apply world, .edited)
  | .remove stage, reply => (stage.advance world reply).map (Prod.map id Activity.remove)
  | .children stage, reply =>
    (stage.advance task world reply).map (Prod.map id Activity.children)
  | .refresh stage, reply =>
    (stage.advance task world reply).map (Prod.map id Activity.refresh)
  | .moreLines stage, reply =>
    (stage.advance task world reply).map (Prod.map id Activity.moreLines)
  | .handle stage, reply =>
    (stage.advance task world reply).map (Prod.map id Activity.handle)
  | .follow stage, reply =>
    (stage.advance task world reply).map (Prod.map id Activity.follow)
  | .openLine stage, reply =>
    (stage.advance world reply).map (Prod.map id Activity.openLine)
  | .ask _, some reply => some (world, .told reply)
  | _, _ => none

end Activity

end CommitHistory.Session

namespace CommitHistory

/-- A world and the activities started in it; an activity is known by its place in the list. -/
structure Session where
  world : Session.World
  activities : List Session.Activity

namespace Session

/-- A session in which nothing was started. -/
def new (pageSize : Nat) (scope : Scope) : Session :=
  { world := .start pageSize scope, activities := [] }

/-- Starts a call. -/
def start (session : Session) (call : Call) : Session :=
  { session with activities := session.activities ++ [call.begin] }

/-- One step of one activity. -/
def advance (session : Session) (task : Nat) (reply : Option Reply) : Option Session := do
  let activity ← session.activities[task]?
  let (world, next) ← activity.advance task session.world reply
  some { world, activities := session.activities.set task next }

/-- What an activity waits to be told. -/
def question? (session : Session) (task : Nat) : Option Question :=
  session.activities[task]?.bind fun activity => activity.question? session.world

/-- What came of an activity that is over. -/
def result? (session : Session) (task : Nat) : Option Result :=
  session.activities[task]?.bind Activity.result?

/-- One thing that happens in a session. -/
inductive Move where
  | start (call : Call)
  | advance (task : Nat) (reply : Option Reply)

/-- The session after a move, if the move is possible. -/
def move (session : Session) : Move → Option Session
  | .start call => some (session.start call)
  | .advance task reply => session.advance task reply

/-- The session after moves, if each is possible when its time comes. -/
def play (session : Session) (moves : List Move) : Option Session := moves.foldlM move session

end Session

end CommitHistory
