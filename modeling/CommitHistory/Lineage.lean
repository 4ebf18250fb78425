/-
# Lineages

A lineage is a local branch with the branch that it follows on a remote and the
default branch of that remote, each of them optional. Its identifiers are what a
history is restricted to when only the lineage is wanted.
-/

namespace CommitHistory

/-- A reference: its full name, its short name and the commit that it points to. -/
structure Reference where
  id : String
  name : String
  revision : Option String
deriving DecidableEq, Repr

/-- A local branch with the remote branch that it follows and its base. -/
structure Lineage where
  id : String
  name : String
  revision : Option String
  remote : Option Reference
  base : Option Reference
deriving DecidableEq, Repr

namespace Lineage

/-- The references beside the branch, the remote one first. -/
def others (lineage : Lineage) : List Reference :=
  lineage.remote.toList ++ lineage.base.toList

/-- The full names of the branch, its remote branch and its base, in this order and each once. -/
def ids (lineage : Lineage) : List String :=
  lineage.others.foldl (fun ids other => if other.id ∈ ids then ids else ids ++ [other.id])
    [lineage.id]

end Lineage

end CommitHistory
