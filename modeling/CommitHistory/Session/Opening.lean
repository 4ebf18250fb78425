/-
# Opening a line

To open the line of a commit is to list what the commit changed against its first
parent. The line that offers more history has nothing to list.
-/

import CommitHistory.Session.World

namespace CommitHistory.Session

/-- Where opening a line stands. -/
inductive Opening where
  | find (line : TreeLine)
  | asking (question : Question)
  | done (result : Except Fault (List Change))

namespace Opening

/-- What opening a line waits to be told. -/
def question? : Opening → Option Question
  | .asking question => some question
  | _ => none

/-- The next step. -/
def advance (world : World) : Opening → Option Reply → Option (World × Opening)
  | .find (.more _), none => some (world, .done (.ok []))
  | .find (.row id row), none =>
    match world.store.repositories.get? id with
    | none => some (world, .done (.error (.unknownRepository id.text)))
    | some repository =>
      match repository.source with
      | none => some (world, .done (.ok []))
      | some source =>
        some (world, .asking { source, query := .changes row.commit.id row.commit.parents.head? })
  | .asking _, some (.changes result) => some (world, .done result)
  | _, _ => none

end Opening

end CommitHistory.Session
