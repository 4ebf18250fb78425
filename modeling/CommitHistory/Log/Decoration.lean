/-
# Decorations

The references that point to a commit are listed by their full names with a comma and
a space between them. Local branches, remote branches and tags give labels under
their short names. A detached head, the head of a remote and any other reference
give none.
-/

import CommitHistory.Commit
import CommitHistory.Text.Blank
import CommitHistory.Text.Lines

namespace CommitHistory.Decoration

open Text

/-- The label that one reference gives. -/
def label? (text : List Char) : Option Label :=
  let reference := (dropPrefix? "HEAD -> ".toList text).getD text
  match dropPrefix? "tag: ".toList reference with
  | some tag =>
    some ⟨String.ofList ((dropPrefix? "refs/tags/".toList tag).getD tag), .tag⟩
  | none =>
    match dropPrefix? "refs/heads/".toList reference with
    | some branch => some ⟨String.ofList branch, .branch⟩
    | none =>
      match dropPrefix? "refs/remotes/".toList reference with
      | some remote =>
        if "/HEAD".toList.isSuffixOf remote then none
        else some ⟨String.ofList remote, .remoteBranch⟩
      | none => none

/-- The labels of a commit in the order of its references. -/
def parse (text : List Char) : List Label :=
  (((splitOnPair ',' ' ' text).map trim).filter fun piece => !piece.isEmpty).filterMap label?

/-- The short name of a reference. -/
def shortName (name : List Char) : List Char :=
  (dropPrefix? "refs/heads/".toList name).getD <|
    (dropPrefix? "refs/remotes/".toList name).getD <|
      (dropPrefix? "refs/tags/".toList name).getD name

end CommitHistory.Decoration
