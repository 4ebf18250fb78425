/-
# Colours

Branches of the current lineage have colours of their own, every other lane takes
the next of five rotating colours. A palette says which label title has which
colour; under the wildcard title it may hold a colour for all other labels.
-/

import CommitHistory.Commit
import CommitHistory.Lineage

namespace CommitHistory

/-- A colour in the graph. The neutral colour marks labels outside the lineage. -/
inductive Color where
  | branch
  | remote
  | base
  | neutral
  | lane (index : Nat)
deriving DecidableEq, Repr

/-- How many rotating colours there are. -/
def Color.rotation : Nat := 5

/-- The rotating colour after the one used last. -/
def Color.next : Option Nat → Nat
  | none => 0
  | some index => (index + 1) % Color.rotation

/-- Titles with their colours; of two entries for one title the later one, which stands
first, counts. -/
structure Palette where
  entries : List (String × Color)
deriving DecidableEq, Repr

namespace Palette

/-- The title that stands for every label without an entry. -/
def wildcard : String := "*"

/-- The palette without colours. -/
def empty : Palette := ⟨[]⟩

/-- Gives a title a colour. -/
def put (palette : Palette) (title : String) (color : Color) : Palette :=
  ⟨(title, color) :: palette.entries⟩

/-- The colour of a title. -/
def get? (palette : Palette) (title : String) : Option Color := palette.entries.lookup title

/-- The palette of a lineage: the branch, then its remote branch, then its base, then the wildcard
if it is wanted. Of two with the same name the later one gives the colour. -/
def ofLineage (lineage : Lineage) (withWildcard : Bool) : Palette :=
  let own := empty.put lineage.name .branch
  let withRemote := (lineage.remote.map fun r => own.put r.name .remote).getD own
  let withBase := (lineage.base.map fun r => withRemote.put r.name .base).getD withRemote
  if withWildcard then withBase.put wildcard .neutral else withBase

/-- The colour of a commit: that of its first label which has one, else the wildcard's if the
commit has labels at all. -/
def labelColor (palette : Palette) (commit : Commit) : Option Color :=
  match commit.labels.findSome? fun label => palette.get? label.title with
  | some color => some color
  | none => if commit.labels.isEmpty then none else palette.get? wildcard

end Palette

end CommitHistory
