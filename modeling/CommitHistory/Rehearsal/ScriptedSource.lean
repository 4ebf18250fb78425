/-
# Scripted sources

A scripted source answers queries from what it was given. It can be told to fail for
some kinds of queries, and to let queries of some kinds wait until a permit is released.
-/

import CommitHistory.Session.Repository

namespace CommitHistory.Session

/-- The four kinds of queries. -/
inductive Query.Kind where
  | lineage
  | page
  | changes
  | ancestor
deriving DecidableEq, Repr

namespace Query

/-- The kind of a query. -/
def kind : Query → Kind
  | .lineage => .lineage
  | .page _ _ _ => .page
  | .changes _ _ => .changes
  | .ancestor _ => .ancestor

/-- The name of a kind. -/
def Kind.name : Kind → String
  | .lineage => "group"
  | .page => "items"
  | .changes => "changes"
  | .ancestor => "ancestor"

/-- The kind that a name stands for. -/
def Kind.ofName? : String → Option Kind
  | "group" => some .lineage
  | "items" => some .page
  | "changes" => some .changes
  | "ancestor" => some .ancestor
  | _ => none

end Query

end CommitHistory.Session

namespace CommitHistory.Rehearsal

open Session

/-- A source that answers from what it was given. -/
structure ScriptedSource where
  lineage : Option Lineage
  commits : List Commit
  ancestor : Option String
  /-- Every page begins with the first commit. -/
  ignoresSkip : Bool
  failing : List Query.Kind
  gated : List Query.Kind
  permits : Nat
  /-- The tasks that wait for a permit, in the order in which they came. -/
  waiting : List Nat
deriving DecidableEq, Repr

namespace ScriptedSource

/-- The fault of a kind of query that fails. -/
def fault (kind : Query.Kind) : Fault := .source "mock" (kind.name ++ " failed")

/-- An answer, unless queries of its kind fail. -/
def unlessFailing {α : Type} (source : ScriptedSource) (kind : Query.Kind) (answer : α) :
    Except Fault α :=
  if kind ∈ source.failing then .error (fault kind) else .ok answer

/-- The reply to a query. The search for a common ancestor never fails. -/
def reply (source : ScriptedSource) : Query → Reply
  | .lineage => .lineage (source.unlessFailing .lineage source.lineage)
  | .page _ limit skip =>
    let start := if source.ignoresSkip then 0 else skip
    .page (source.unlessFailing .page ((source.commits.drop start).take limit))
  | .changes id parent =>
    let change : Change :=
      { path := id ++ ".txt", oldPath := parent.map (· ++ ".txt"), kind := .modified }
    .changes (source.unlessFailing .changes [change])
  | .ancestor _ => .ancestor source.ancestor

/-- A task asks for a permit and gets it at once if one is left. -/
def enter (source : ScriptedSource) (task : Nat) : ScriptedSource × Bool :=
  if 0 < source.permits then ({ source with permits := source.permits - 1 }, true)
  else ({ source with waiting := source.waiting ++ [task] }, false)

/-- Releases permits. The second result lists the tasks that get one. -/
def release (source : ScriptedSource) (count : Nat) : ScriptedSource × List Nat :=
  let permits := source.permits + count
  let served := source.waiting.take permits
  ({ source with permits := permits - served.length, waiting := source.waiting.drop permits },
    served)

end ScriptedSource

end CommitHistory.Rehearsal
