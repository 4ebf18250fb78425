/-
# Git as a source

Git answers the four queries of a session, each by a dialogue.
-/

import CommitHistory.Git.History
import CommitHistory.Session.Repository

namespace CommitHistory.Git

open Session

/-- The dialogue that answers a query. -/
def reply (program : String) : Query → Dialogue Reply
  | .lineage => do
    let answer ← (lineage? program).run
    pure (.lineage answer)
  | .page ids limit skip => do
    let answer ← (page program ids limit skip).run
    pure (.page answer)
  | .changes id parent => do
    let answer ← (changes program id parent).run
    pure (.changes answer)
  | .ancestor ids => do
    let answer ← ancestor? program ids
    pure (.ancestor answer)

end CommitHistory.Git
