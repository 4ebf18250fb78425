/-
# Remembering changes

What a commit changed never changes, so the lists of changes that were fetched last are
remembered. A list is remembered under the commit and the parent that it was asked for;
a commit without parent stands under the word `root`. Only lists that were fetched are
remembered: a fault leaves everything as it is.
-/

import CommitHistory.Change
import CommitHistory.RecencyCache

namespace CommitHistory

/-- The lists of changes that were fetched last. -/
abbrev ChangeMemory : Type := RecencyCache String (List Change)

namespace ChangeMemory

/-- The key of a commit and the parent that it is compared with. -/
def key (id : String) (parent : Option String) : String := id ++ ":" ++ parent.getD "root"

/-- The changes that are remembered. -/
def retrieve (memory : ChangeMemory) (id : String) (parent : Option String) :
    Option (List Change) × ChangeMemory :=
  (memory.find? (key id parent), memory.touch (key id parent))

/-- Remembers what was fetched. -/
def learn (memory : ChangeMemory) (id : String) (parent : Option String)
    (fetched : Except Fault (List Change)) : ChangeMemory :=
  match fetched with
  | .ok changes => memory.put (key id parent) changes
  -- What failed may succeed when it is asked for again.
  | .error _ => memory

end ChangeMemory

end CommitHistory
