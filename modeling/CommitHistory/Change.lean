/-
# Changes

What a commit did to one file. The kind of a change is written as one letter, which
may be followed by a degree of similarity.
-/

import CommitHistory.Fault

namespace CommitHistory

/-- What happened to a file. -/
inductive ChangeKind where
  | added
  | modified
  | deleted
  | renamed
  | copied
  | unmerged
  | typeChange
deriving DecidableEq, Repr

namespace ChangeKind

/-- The letter of a kind. -/
def letter : ChangeKind → Char
  | .added => 'A'
  | .modified => 'M'
  | .deleted => 'D'
  | .renamed => 'R'
  | .copied => 'C'
  | .unmerged => 'U'
  | .typeChange => 'T'

/-- The kind of a letter. -/
def ofLetter? : Char → Option ChangeKind
  | 'A' => some .added
  | 'M' => some .modified
  | 'D' => some .deleted
  | 'R' => some .renamed
  | 'C' => some .copied
  | 'U' => some .unmerged
  | 'T' => some .typeChange
  | _ => none

/-- The kind that a status stands for: its first letter decides. -/
def ofStatus? (status : List Char) : Option ChangeKind := status.head?.bind ofLetter?

/-- Renames and copies have an old path and a new one. -/
def hasOldPath : ChangeKind → Bool
  | .renamed => true
  | .copied => true
  | _ => false

theorem ofLetter?_letter (kind : ChangeKind) : ofLetter? kind.letter = some kind := by
  cases kind <;> rfl

end ChangeKind

/-- One changed file. -/
structure Change where
  path : String
  oldPath : Option String
  kind : ChangeKind
deriving DecidableEq, Repr

end CommitHistory
