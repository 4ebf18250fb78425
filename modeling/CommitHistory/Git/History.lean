/-
# The history that git knows

What a history is made of — the lineage that is checked out, the pages of commits,
the changes of one commit and the common ancestor of references — each as a dialogue
with git.

## Main definitions

* `Git.discover` — the root of the repository around a directory.
* `Git.lineage?` — the branch that is checked out, its remote branch and its base.
* `Git.page`, `Git.changes`, `Git.ancestor?` — commits, changes, common ancestor.
-/

import CommitHistory.Change.NameStatus
import CommitHistory.Git.Dialogue
import CommitHistory.Lineage
import CommitHistory.Log.Record

namespace CommitHistory.Git

open Text

/-- The root of the repository that a directory lies in. -/
def discover (program : String) : Exchange String := do
  let root ← demand program ["rev-parse", "--show-toplevel"]
  pure (String.ofList (trim root))

/-- The commit that a reference points to. -/
def revision? (program reference : String) : Exchange (Option String) := do
  let found ← attempt program ["rev-parse", "--verify", "--quiet", reference ++ "^\x7bcommit\x7d"]
  pure (found.map String.ofList)

/-- A reference by its full name. -/
def reference (program : String) (id : List Char) : Exchange Reference := do
  let revision ← revision? program (String.ofList id)
  pure { id := String.ofList id, name := String.ofList (Decoration.shortName id), revision }

/-- The branch that a local branch follows. -/
def followed? (program branch : String) : Exchange (Option Reference) := do
  let found ←
    attempt program ["rev-parse", "--symbolic-full-name", branch ++ "@\x7bupstream\x7d"]
  match found with
  | none => pure none
  | some id =>
    if "refs/".toList.isPrefixOf id then some <$> reference program id else pure none

/-- The default branch of the remote that a local branch follows. -/
def base? (program branch : String) : Exchange (Option Reference) := do
  match ← attempt program ["config", "--get", "branch." ++ branch ++ ".remote"] with
  | none => pure none
  | some remote =>
    if remote.isEmpty || remote == ['.'] then pure none
    else
      let head := "refs/remotes/" ++ String.ofList remote ++ "/HEAD"
      match ← attempt program ["symbolic-ref", "--quiet", head] with
      | none => pure none
      | some target =>
        if target.isEmpty then pure none else some <$> reference program target

/-- The lineage that is checked out. There is none while no branch is checked out and while the
branch has no commit. -/
def lineage? (program : String) : Exchange (Option Lineage) := do
  match ← attempt program ["symbolic-ref", "--quiet", "HEAD"] with
  | none => pure none
  | some head =>
    let name := String.ofList (Decoration.shortName head)
    match ← revision? program "HEAD" with
    | none => pure none
    | some revision =>
      let remote ← followed? program name
      let base ← base? program name
      pure (some { id := String.ofList head, name, revision := some revision, remote, base })

/-- A number as text. -/
def numeral (n : Nat) : String := String.ofList (Numeral.ofNat n)

/-- The arguments that ask for a page of commits, of the given references or of all. -/
def pageArguments (ids : List String) (limit skip : Nat) : List String :=
  ["log", "--topo-order", "--decorate=full", "--shortstat", "--format=" ++ Log.format,
    "--max-count=" ++ numeral limit, "--skip=" ++ numeral skip] ++
    (if ids.isEmpty then ["--all"] else ids) ++ ["--"]

/-- A page of commits. -/
def page (program : String) (ids : List String) (limit skip : Nat) : Exchange (List Commit) := do
  let output ← demand program (pageArguments ids limit skip)
  match Log.parse output with
  | .ok commits => pure commits
  | .error flaw => throw flaw.fault

/-- The arguments that ask for the changes from a parent to a commit, or for all that a commit
without parent contains. -/
def changesArguments (id : String) : Option String → List String
  | some parent => ["diff", "--name-status", "-z", "-M", parent, id, "--"]
  | none => ["diff-tree", "--root", "--no-commit-id", "-r", "--name-status", "-z", "-M", id]

/-- The changes of a commit against a parent. -/
def changes (program id : String) (parent : Option String) : Exchange (List Change) := do
  let output ← demand program (changesArguments id parent)
  match NameStatus.parse output with
  | .ok changes => pure changes
  | .error flaw => throw flaw.fault

/-- The arguments that ask for the common ancestor of references. -/
def ancestorArguments (ids : List String) : List String :=
  "merge-base" :: (if 2 < ids.length then "--octopus" :: ids else ids)

/-- The common ancestor of at least two references. Whatever goes wrong, there is none. -/
def ancestor? (program : String) (ids : List String) : Dialogue (Option String) :=
  if ids.length < 2 then .done none
  else do
    match ← (attempt program (ancestorArguments ids)).run with
    | .ok (some found) => pure (if found.isEmpty then none else some (String.ofList found))
    | _ => pure none

end CommitHistory.Git
